import Marketplace.Market.Archive
import Marketplace.Market.Priority
import Marketplace.Server.Numerals
import Marketplace.Server.Replies

namespace Marketplace
open CallTree KeyedTable Runs

def exactOrder (commandTokens : StringArray) (userID buyOrSell : Int) : Option (Order Double) := do
  if commandTokens.size = 4 then
    let unitPrice ← exactPrice (← commandTokens.get 2)
    let item ← itemCode (← commandTokens.get 1)
    let quantity ← exactInt (← commandTokens.get 3)
    return createOrder item buyOrSell quantity unitPrice userID
  else none

def exactOrderID (commandTokens : StringArray) : Option Int :=
  if commandTokens.size = 2 then (commandTokens.get 1).bind exactInt else none

def exactLine (userID : Int) (buffer : CString) : Option (Op Double) :=
  let commandTokens := tokenizeLine buffer
  (commandTokens.get 0).bind fun command =>
    if strcasecmp command "buy".toList = 0 then (exactOrder commandTokens userID BUY).map .buy
    else if strcasecmp command "sell".toList = 0 then (exactOrder commandTokens userID SELL).map .sell
    else if strcasecmp command "cancelorder".toList = 0 then
      (exactOrderID commandTokens).map (.cancelOrder · userID)
    else none

def TakenExactly (S : CreatedAtSort Double) (db : Database Double) (userID : Int) (buffer : CString) :
    Prop :=
  ((echo userID buffer).run (perform S) db).2 ≠ db →
    ∃ op, exactLine userID buffer = some op ∧ ((echo userID buffer).run (perform S) db).2 = apply S op db

section Accepted

variable {D : Type} [CDouble D]

def Rests (db : Database D) (ord : Order D) : Prop :=
  CDouble.isNaN ord.unitPrice = false ∧ ∃ u ∈ db.user ord.userID, insufficientBalance u ord = false

def Op.Accepted (S : CreatedAtSort D) : Op D → Database D → Prop
  | .register newUser, db => db.taken newUser.username = false
  | .buy ord, db => settles S (.buy ord) db ≠ none ∨
      (Op.buy ord).funded db = true ∧ matched S (.buy ord) db = none ∧ Rests db ord
  | .sell ord, db => settles S (.sell ord) db ≠ none ∨
      (Op.sell ord).funded db = true ∧ matched S (.sell ord) db = none ∧ Rests db ord
  | .cancelOrder orderID currentUserID, db =>
    (∃ r ∈ db.order orderID, r.userID = currentUserID) ∧ db.user currentUserID ≠ none
  | .elapse seconds, _ => seconds ≠ 0

variable {S : CreatedAtSort D} {db : Database D} {ord m : Order D} {u : User}

theorem insert_changes {res : Int × Database D} (hu : db.user ord.userID = some u)
    (h : InsertOutcome db u ord res) : res.2 ≠ db ↔ Rests db ord := by
  have hrests : Rests db ord ↔ CDouble.isNaN ord.unitPrice = false ∧
      insufficientBalance u ord = false := by simp [Rests, hu]
  rw [hrests]
  cases h with
  | refused hi => simp [hi]
  | notNull hi hn => simp [hn]
  | rested hi hn =>
    refine iff_of_true (fun hsame => ?_) ⟨hn, hi⟩
    have hseq := congrArg (fun d => d.orders.seq) hsame
    change db.orders.seq + 1 = db.orders.seq at hseq
    omega

omit [CDouble D] in
theorem fill_changes {db' : Database D} {taker maker : User}
    (h : db'.archives = (db.fill ord m taker maker).archives) : db' ≠ db := by
  rintro rfl
  have hseq := congrArg Table.seq h
  rw [archives_fill] at hseq
  change db'.archives.seq = db'.archives.seq + 1 + 1 at hseq
  omega

theorem settle_changes {taker maker : User} {res : Int × Database D}
    (h : SettleOutcome db ord m taker maker res) : res.2 ≠ db := by
  cases h with
  | complete hq => exact fill_changes rfl
  | refused hq hi => exact fill_changes rfl
  | rested hq hi => exact fill_changes rfl

theorem accepted_buy : apply S (.buy ord) db ≠ db ↔ (Op.buy ord).Accepted S db := by
  obtain ⟨res, hout, hres⟩ := buy_applied S ord db
  rw [hres]
  cases hout with
  | unknownUser hu => simp [Op.Accepted, settles, matched, Op.funded, hu]
  | refused u hu hl => simp [Op.Accepted, settles, matched, Op.funded, hu, hl]
  | unmatched u hu hl hm _ hins =>
    rw [insert_changes hu hins]
    simp [Op.Accepted, settles, matched, Op.funded, Op.order, hu, hl, hm]
  | unfillable u m hu hl hm hv =>
    rcases hv with hv | hv <;> simp [Op.Accepted, settles, matched, Op.order, hu, hl, hm, hv]
  | matched u v m hl hm hf _ hset =>
    refine iff_of_true (settle_changes hset) (.inl ?_)
    rw [settles_buy hf hl hm]
    exact Option.some_ne_none _

theorem accepted_sell : apply S (.sell ord) db ≠ db ↔ (Op.sell ord).Accepted S db := by
  obtain ⟨res, hout, hres⟩ := sell_applied S ord db
  rw [hres]
  cases hout with
  | unknownUser hu => simp [Op.Accepted, settles, matched, Op.funded, hu]
  | refused u hu hl => simp [Op.Accepted, settles, matched, Op.funded, hu, hl]
  | unmatched u hu hl hm _ hins =>
    rw [insert_changes hu hins]
    simp [Op.Accepted, settles, matched, Op.funded, Op.order, hu, hl, hm]
  | unfillable u m hu hl hm hv =>
    rcases hv with hv | hv <;> simp [Op.Accepted, settles, matched, Op.order, hu, hl, hm, hv]
  | matched u v m hl hm hf _ hset =>
    refine iff_of_true (settle_changes hset) (.inl ?_)
    rw [settles_sell hf hl hm]
    exact Option.some_ne_none _

theorem accepted_cancelOrder {orderID currentUserID : Int} :
    apply S (.cancelOrder orderID currentUserID) db ≠ db ↔
      (Op.cancelOrder orderID currentUserID).Accepted S db := by
  obtain ⟨res, hout, hres⟩ := cancelOrder_applied S orderID currentUserID db
  rw [hres]
  cases hout with
  | unknownOrder hr => simp [Op.Accepted, hr]
  | unauthorized r hr hown => simp [Op.Accepted, hr, hown]
  | unknownUser r hr hown hu => simp [Op.Accepted, hu]
  | cancelled r u hr hown hu =>
    refine iff_of_true (fun hsame => ?_) ?_
    · have herase : ((db.setBalance (refundBalance u r)).deleteOrderRow orderID).order orderID =
          if orderID = orderID then none else db.order orderID := Table.find_erase _ _ _
      rw [if_pos rfl, show (db.setBalance (refundBalance u r)).deleteOrderRow orderID = db from hsame,
        hr] at herase
      cases herase
    · simp [Op.Accepted, hr, hown, hu]

theorem accepted_iff (op : Op D) : apply S op db ≠ db ↔ op.Accepted S db := by
  cases op with
  | register newUser =>
    rw [apply_register]
    cases ht : db.taken newUser.username with
    | true => simp [Op.Accepted, ht]
    | false =>
      refine iff_of_true (fun hsame => ?_) ht
      have hseq := congrArg (fun d => d.users.seq) hsame
      change db.users.seq + 1 = db.users.seq at hseq
      omega
  | buy ord => exact accepted_buy
  | sell ord => exact accepted_sell
  | cancelOrder orderID currentUserID => exact accepted_cancelOrder
  | elapse seconds =>
    refine not_congr ⟨fun hsame => ?_, ?_⟩
    · have hnow := congrArg Database.now hsame
      change db.now + seconds = db.now at hnow
      omega
    · rintro rfl
      rfl

end Accepted

section Lines

variable {userID : Int} {tokens : StringArray} {buffer : CString}

theorem exactOrder_parsed {command : CString} {ord : Order Double} {side : Int}
    (hcommand : tokens.get 0 = some command)
    (hside : (if strcasecmp command "buy".toList = 0 then BUY else SELL) = side)
    (h : exactOrder tokens userID side = some ord) : parsedOrder tokens userID = some ord := by
  unfold exactOrder at h
  split_ifs at h with hsize
  simp only [Option.bind_eq_bind, Option.bind_eq_some_iff] at h
  obtain ⟨t2, h2, price, hprice, t1, h1, item, hitem, t3, h3, quantity, hquantity, hord⟩ := h
  obtain ⟨hstrtol, hint⟩ := exactInt_some hquantity
  have hstrtod := exactPrice_some hprice
  have htokens : OrderTokens tokens command t1 t2 t3 := ⟨hcommand, h1, h2, h3⟩
  rw [parsedOrder, if_pos hsize, htokens.created, hitem, hstrtod, hstrtol, hint, hside]
  exact hord

theorem exactOrderID_parsed {orderID : Int} (h : exactOrderID tokens = some orderID) :
    parsedOrderID tokens = some orderID := by
  unfold exactOrderID at h
  split_ifs at h with hsize
  obtain ⟨token, hget, hexact⟩ := Option.bind_eq_some_iff.mp h
  obtain ⟨hstrtol, hint⟩ := exactInt_some hexact
  simp [parsedOrderID, hsize, hget, hstrtol, hint, Option.filter]

theorem exactLine_parsed {op : Op Double} (h : exactLine userID buffer = some op) :
    parseLine userID buffer = some op := by
  obtain ⟨command, hcommand, h⟩ := Option.bind_eq_some_iff.mp h
  simp only [parseLine, hcommand, Option.bind_some]
  split_ifs at h with hbuy hsell hcancel
  · obtain ⟨ord, hord, rfl⟩ := Option.map_eq_some_iff.mp h
    have hinventory : strcasecmp command "myinventory".toList ≠ 0 :=
      strcasecmp_exclusive (d := 'b') (e := 'm') (by decide) (by decide) (by decide) hbuy
    rw [if_neg hinventory, if_pos hbuy, exactOrder_parsed hcommand (if_pos hbuy) hord]
    rfl
  · obtain ⟨ord, hord, rfl⟩ := Option.map_eq_some_iff.mp h
    have hinventory : strcasecmp command "myinventory".toList ≠ 0 :=
      strcasecmp_exclusive (d := 's') (e := 'm') (by decide) (by decide) (by decide) hsell
    rw [if_neg hinventory, if_neg hbuy, if_pos hsell,
      exactOrder_parsed hcommand (if_neg hbuy) hord]
    rfl
  · obtain ⟨orderID, hid, rfl⟩ := Option.map_eq_some_iff.mp h
    have hinventory : strcasecmp command "myinventory".toList ≠ 0 :=
      strcasecmp_exclusive (d := 'c') (e := 'm') (by decide) (by decide) (by decide) hcancel
    have horders : strcasecmp command "myorders".toList ≠ 0 :=
      strcasecmp_exclusive (d := 'c') (e := 'm') (by decide) (by decide) (by decide) hcancel
    rw [if_neg hinventory, if_neg hbuy, if_neg hsell, if_neg horders, if_pos hcancel,
      exactOrderID_parsed hid]
    rfl

end Lines

def oneTrader : Database Double :=
  Database.empty.addUser (newUser ['a'] ['p'] ['A'])

end Marketplace
