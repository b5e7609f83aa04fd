import Marketplace.Market.Operations

namespace Marketplace
open CallTree KeyedTable Runs

variable {D : Type} [CDouble D]

def matched (S : CreatedAtSort D) : Op D → Database D → Option (Order D)
  | .buy ord, db =>
    (db.user ord.userID).bind fun u =>
      if CDouble.lt (CDouble.ofInt u.OMG) ord.total then none else matchSell S db ord
  | .sell ord, db =>
    (db.user ord.userID).bind fun u =>
      if insufficientHolding u ord then none else matchBuy S db ord
  | _, _ => none

def settles (S : CreatedAtSort D) (op : Op D) (db : Database D) : Option (Order D × Order D) :=
  op.order.bind fun ord =>
    ((matched S op db).filter (fun m => (db.user m.userID).isSome && !CDouble.isNaN m.unitPrice)).map
      (ord, ·)

def buyerID : Op D → Order D → Order D → Int
  | .buy _, ord, _ => ord.userID
  | _, _, m => m.userID

def sellerID : Op D → Order D → Order D → Int
  | .buy _, _, m => m.userID
  | _, ord, _ => ord.userID

inductive Settlement (db : Database D) (ord m : Order D) (u v : User) : Op D → User → User → Prop
  | buy (hf : Fillable db ord m u v) (hm : eligibleSell ord m = true) :
      Settlement db ord m u v (.buy ord) (buyTaker u ord m) (buyMaker ord m v)
  | sell (hf : Fillable db ord m u v) (hm : eligibleBuy ord m = true) :
      Settlement db ord m u v (.sell ord) (sellTaker u ord m) (sellMaker ord m v)

inductive OpEffect (S : CreatedAtSort D) (op : Op D) (db : Database D) : Database D → Prop
  | unchanged (hs : settles S op db = none) : OpEffect S op db db
  | registered (newUser : User) (hop : op = .register newUser) : OpEffect S op db (db.addUser newUser)
  | elapsed (seconds : Nat) (hop : op = .elapse seconds) : OpEffect S op db (db.elapse seconds)
  | posted (ord : Order D) (u : User) (hs : settles S op db = none)
      (hop : op = .buy ord ∨ op = .sell ord) (hu : db.user ord.userID = some u)
      (hi : insufficientBalance u ord = false) (hn : CDouble.isNaN ord.unitPrice = false) :
      OpEffect S op db ((db.place ord).setBalance (withholdBalance u ord))
  | filled (ord m : Order D) (u v taker maker : User) (hs : settles S op db = some (ord, m))
      (h : Settlement db ord m u v op taker maker) : OpEffect S op db (db.fill ord m taker maker)
  | filledAndPosted (ord m : Order D) (u v taker maker : User) (hs : settles S op db = some (ord, m))
      (h : Settlement db ord m u v op taker maker) (hq : 0 < ord.quantity - transactionQuantity ord m)
      (hi : insufficientBalance taker (remainder db ord m) = false) :
      OpEffect S op db (((db.fill ord m taker maker).place (remainder db ord m)).setBalance
        (withholdBalance taker (remainder db ord m)))
  | cancelled (orderID currentUserID : Int) (r : Order D) (u : User)
      (hop : op = .cancelOrder orderID currentUserID) (hr : db.order orderID = some r)
      (hown : r.userID = currentUserID) (hu : db.user currentUserID = some u) :
      OpEffect S op db ((db.setBalance (refundBalance u r)).deleteOrderRow orderID)

variable {S : CreatedAtSort D} {db : Database D} {ord m : Order D} {u v : User}

namespace Settlement

variable {op : Op D} {taker maker : User}

theorem fillable (h : Settlement db ord m u v op taker maker) : Fillable db ord m u v := by
  cases h <;> assumption

theorem item (h : Settlement db ord m u v op taker maker) : m.item = ord.item := by
  cases h with
  | buy hf hm => exact (answersSell_iff.mp hm).1.symm
  | sell hf hm => exact (answersBuy_iff.mp hm).1.symm

theorem taker_sameAccount (h : Settlement db ord m u v op taker maker) : taker.SameAccount u := by
  cases h with
  | buy hf hm => exact buyTaker_sameAccount u ord m
  | sell hf hm => exact sellTaker_sameAccount u ord m

theorem maker_sameAccount (h : Settlement db ord m u v op taker maker) : maker.SameAccount v := by
  cases h with
  | buy hf hm => exact buyMaker_sameAccount ord m v
  | sell hf hm => exact sellMaker_sameAccount ord m v

end Settlement

theorem settles_buy (hf : Fillable db ord m u v)
    (h : CDouble.lt (CDouble.ofInt u.OMG) ord.total = false) (hm : matchSell S db ord = some m) :
    settles S (.buy ord) db = some (ord, m) := by
  simp [settles, matched, Op.order, hf.taker, h, hm, hf.maker, hf.makerPrice]

theorem settles_sell (hf : Fillable db ord m u v) (h : insufficientHolding u ord = false)
    (hm : matchBuy S db ord = some m) : settles S (.sell ord) db = some (ord, m) := by
  simp [settles, matched, Op.order, hf.taker, h, hm, hf.maker, hf.makerPrice]

theorem effect_of_insert {op : Op D} {res : Int × Database D}
    (hop : op = .buy ord ∨ op = .sell ord) (hs : settles S op db = none)
    (hu : db.user ord.userID = some u) (h : InsertOutcome db u ord res) : OpEffect S op db res.2 := by
  cases h with
  | refused hi => exact .unchanged hs
  | notNull hi hn => exact .unchanged hs
  | rested hi hn => exact .posted ord u hs hop hu hi hn

theorem effect_of_settle {op : Op D} {taker maker : User} {res : Int × Database D}
    (hs : settles S op db = some (ord, m)) (h : Settlement db ord m u v op taker maker)
    (hout : SettleOutcome db ord m taker maker res) : OpEffect S op db res.2 := by
  cases hout with
  | complete hq => exact .filled ord m u v taker maker hs h
  | refused hq hi => exact .filled ord m u v taker maker hs h
  | rested hq hi => exact .filledAndPosted ord m u v taker maker hs h hq hi

theorem buy_effect (S : CreatedAtSort D) (ord : Order D) (db : Database D) :
    OpEffect S (.buy ord) db (apply S (.buy ord) db) := by
  obtain ⟨res, hout, hres⟩ := buy_applied S ord db
  rw [hres]
  cases hout with
  | unknownUser hu => exact .unchanged (by simp [settles, matched, hu])
  | refused u hu hl => exact .unchanged (by simp [settles, matched, hu, hl])
  | unmatched u hu hl hm _ hins =>
    exact effect_of_insert (.inl rfl) (by simp [settles, matched, Op.order, hu, hm]) hu hins
  | unfillable u m hu hl hm hv =>
    refine .unchanged ?_
    rcases hv with hv | hv <;> simp [settles, matched, Op.order, hu, hl, hm, hv]
  | matched u v m hl hm hf _ hset =>
    exact effect_of_settle (settles_buy hf hl hm) (.buy hf (matchSell_some hm).2) hset

theorem sell_effect (S : CreatedAtSort D) (ord : Order D) (db : Database D) :
    OpEffect S (.sell ord) db (apply S (.sell ord) db) := by
  obtain ⟨res, hout, hres⟩ := sell_applied S ord db
  rw [hres]
  cases hout with
  | unknownUser hu => exact .unchanged (by simp [settles, matched, hu])
  | refused u hu hl => exact .unchanged (by simp [settles, matched, hu, hl])
  | unmatched u hu hl hm _ hins =>
    exact effect_of_insert (.inr rfl) (by simp [settles, matched, Op.order, hu, hm]) hu hins
  | unfillable u m hu hl hm hv =>
    refine .unchanged ?_
    rcases hv with hv | hv <;> simp [settles, matched, Op.order, hu, hl, hm, hv]
  | matched u v m hl hm hf _ hset =>
    exact effect_of_settle (settles_sell hf hl hm) (.sell hf (matchBuy_some hm).2) hset

theorem cancelOrder_effect (S : CreatedAtSort D) (orderID currentUserID : Int) (db : Database D) :
    OpEffect S (.cancelOrder orderID currentUserID) db
      (apply S (.cancelOrder orderID currentUserID) db) := by
  obtain ⟨res, hout, hres⟩ := cancelOrder_applied S orderID currentUserID db
  rw [hres]
  cases hout with
  | unknownOrder hr => exact .unchanged rfl
  | unauthorized r hr hown => exact .unchanged rfl
  | unknownUser r hr hown hu => exact .unchanged rfl
  | cancelled r u hr hown hu => exact .cancelled orderID currentUserID r u rfl hr hown hu

theorem apply_effect (S : CreatedAtSort D) (op : Op D) (db : Database D) :
    OpEffect S op db (apply S op db) := by
  cases op with
  | register newUser =>
    rw [apply_register]
    split
    · exact .unchanged rfl
    · exact .registered newUser rfl
  | buy ord => exact buy_effect S ord db
  | sell ord => exact sell_effect S ord db
  | cancelOrder orderID currentUserID => exact cancelOrder_effect S orderID currentUserID db
  | elapse seconds => exact .elapsed seconds rfl

omit [CDouble D] in
theorem seq_fill (db : Database D) (ord m : Order D) (taker maker : User) :
    (db.fill ord m taker maker).orders.seq = db.orders.seq := by
  unfold Database.fill
  split <;> rfl

omit [CDouble D] in
theorem now_fill (db : Database D) (ord m : Order D) (taker maker : User) :
    (db.fill ord m taker maker).now = db.now := by
  unfold Database.fill
  split <;> rfl

omit [CDouble D] in
theorem row_of_fill {taker maker : User} {r : Order D} (hrow : db.order m.orderID = some m)
    (hr : r ∈ (db.fill ord m taker maker).orders.rows) :
    ∃ r' ∈ db.orders.rows, r'.orderID = r.orderID ∧ r'.createdAt = r.createdAt := by
  rcases (mem_orders_fill hrow).mp hr with ⟨hr, -⟩ | ⟨-, rfl⟩
  · exact ⟨r, hr, rfl, rfl⟩
  · exact ⟨m, Database.order_mem hrow, rfl, rfl⟩

theorem row_origin {op : Op D} {db' : Database D} {r : Order D} (heff : OpEffect S op db db')
    (hr : r ∈ db'.orders.rows) :
    (∃ r' ∈ db.orders.rows, r'.orderID = r.orderID ∧ r'.createdAt = r.createdAt) ∨
      (r.orderID = db.orders.seq + 1 ∧ r.createdAt = some db.now) := by
  cases heff with
  | posted ord u hs hop hu hi hn =>
    rcases (Database.mem_orders_place _ _).mp hr with hr | rfl
    · exact .inl ⟨r, hr, rfl, rfl⟩
    · exact .inr ⟨rfl, rfl⟩
  | filled ord m u v taker maker hs h => exact .inl (row_of_fill h.fillable.row hr)
  | filledAndPosted ord m u v taker maker hs h hq hi =>
    rcases (Database.mem_orders_place _ _).mp hr with hr | rfl
    · exact .inl (row_of_fill h.fillable.row hr)
    · refine .inr ⟨?_, ?_⟩
      · simp [Database.placed, seq_fill]
      · simp [Database.placed, now_fill]
  | cancelled orderID currentUserID r' u hop hr' hown hu =>
    exact .inl ⟨r, (Table.mem_erase.mp hr).1, rfl, rfl⟩
  | _ => exact .inl ⟨r, hr, rfl, rfl⟩

theorem now_le {op : Op D} {db' : Database D} (heff : OpEffect S op db db') : db.now ≤ db'.now := by
  cases heff with
  | elapsed seconds hop => exact Nat.le_add_right _ _
  | filled ord m u v taker maker hs h => exact (now_fill db ord m taker maker).ge
  | filledAndPosted ord m u v taker maker hs h hq hi => exact (now_fill db ord m taker maker).ge
  | _ => exact le_refl _

omit [CDouble D] in
theorem account_setBalance (db : Database D) (w : User) {id : Int} (hu : db.user id = some u) :
    ∃ v, (db.setBalance w).user id = some v ∧ v.SameAccount u := by
  rw [Database.user_setBalance, hu]
  refine ⟨_, rfl, ?_⟩
  split
  · exact ⟨rfl, rfl, rfl, rfl⟩
  · exact .refl u

omit [CDouble D] in
theorem User.SameAccount.trans {w : User} (huv : u.SameAccount v) (hvw : v.SameAccount w) :
    u.SameAccount w := by
  obtain ⟨h1, h2, h3, h4⟩ := huv
  obtain ⟨k1, k2, k3, k4⟩ := hvw
  exact ⟨h1.trans k1, h2.trans k2, h3.trans k3, h4.trans k4⟩

omit [CDouble D] in
theorem account_fill (db : Database D) (ord m : Order D) (taker maker : User) {id : Int} (hu : db.user id = some u) :
    ∃ v, (db.fill ord m taker maker).user id = some v ∧ v.SameAccount u := by
  obtain ⟨v, hv, huv⟩ := account_setBalance db taker hu
  obtain ⟨w, hw, hvw⟩ := account_setBalance (db.setBalance taker) maker hv
  refine ⟨w, ?_, hvw.trans huv⟩
  rw [Database.user, users_fill]
  exact hw

theorem account_kept {op : Op D} {db' : Database D} {id : Int} (heff : OpEffect S op db db')
    (hu : db.user id = some u) : ∃ v, db'.user id = some v ∧ v.SameAccount u := by
  cases heff with
  | unchanged hs => exact ⟨u, hu, .refl u⟩
  | registered newUser hop => exact ⟨u, Database.user_addUser hu, .refl u⟩
  | elapsed seconds hop => exact ⟨u, hu, .refl u⟩
  | posted ord u' hs hop hu' hi hn => exact account_setBalance (db.place ord) _ hu
  | filled ord m u' v taker maker hs h => exact account_fill db ord m taker maker hu
  | filledAndPosted ord m u' v taker maker hs h hq hi =>
    obtain ⟨w, hw, huw⟩ := account_fill db ord m taker maker hu
    obtain ⟨x, hx, hwx⟩ := account_setBalance ((db.fill ord m taker maker).place (remainder db ord m))
      (withholdBalance taker (remainder db ord m)) hw
    exact ⟨x, hx, hwx.trans huw⟩
  | cancelled orderID currentUserID r u' hop hr hown hu' => exact account_setBalance db _ hu

section Lookup

variable {id : Int}

omit [CDouble D] in
theorem order_place (db : Database D) (ord : Order D) (id : Int) :
    (db.place ord).order id = if id = db.orders.seq + 1 then some (db.placed ord) else db.order id :=
  Table.find_insert db.orders id

omit [CDouble D] in
theorem order_fill_other {taker maker : User} (h : id ≠ m.orderID) :
    (db.fill ord m taker maker).order id = db.order id := by
  unfold Database.fill
  split
  · exact (Table.find_erase _ _ _).trans (if_neg h)
  · have hid : id ≠ (m.reduce (transactionQuantity ord m)).orderID := h
    simp only [Database.rewrite, Database.order, Database.updateOrderRow, Table.find_modify,
      if_neg hid, Option.map_id']
    rfl

omit [CDouble D] in
theorem order_id_le {r : Order D} (hr : db.order id = some r) : id ≤ db.orders.seq := by
  have hle := db.orders.bounded r (Database.order_mem hr)
  rwa [Database.order_orderID hr] at hle

theorem matched_of_settles {op : Op D} {ord m : Order D} (hs : settles S op db = some (ord, m)) :
    op.order = some ord ∧ matched S op db = some m := by
  obtain ⟨ord', hord, hmap⟩ := Option.bind_eq_some_iff.mp hs
  obtain ⟨m', hm', hpair⟩ := Option.map_eq_some_iff.mp hmap
  obtain ⟨rfl, rfl⟩ := Prod.mk.inj hpair
  exact ⟨hord, Option.eq_some_of_filter_eq_some hm'⟩

theorem order_kept {op : Op D} {db' : Database D} (heff : OpEffect S op db db')
    (hid : id ≤ db.orders.seq) (hm : ∀ m ∈ matched S op db, m.orderID ≠ id) :
    id ≤ db'.orders.seq ∧ (db'.order id = db.order id ∨ db'.order id = none) := by
  have hfresh : id ≠ db.orders.seq + 1 := by omega
  have hmatched {ord m : Order D} (hs : settles S op db = some (ord, m)) : id ≠ m.orderID :=
    (hm m (matched_of_settles hs).2).symm
  cases heff with
  | posted ord u hs hop hu hi hn =>
    refine ⟨?_, .inl ((order_place db ord id).trans (if_neg hfresh))⟩
    change id ≤ db.orders.seq + 1
    omega
  | filled ord m u v taker maker hs h =>
    rw [seq_fill]
    exact ⟨hid, .inl (order_fill_other (hmatched hs))⟩
  | filledAndPosted ord m u v taker maker hs h hq hi =>
    have hseq := seq_fill db ord m taker maker
    refine ⟨?_, .inl ?_⟩
    · change id ≤ (db.fill ord m taker maker).orders.seq + 1
      omega
    · refine (order_place _ _ id).trans ?_
      rw [if_neg (by omega), order_fill_other (hmatched hs)]
  | cancelled orderID currentUserID r u hop hr hown hu =>
    have herase : ((db.setBalance (refundBalance u r)).deleteOrderRow orderID).order id =
        if id = orderID then none else db.order id := Table.find_erase _ _ _
    refine ⟨hid, ?_⟩
    rw [herase]
    split
    · exact .inr rfl
    · exact .inl rfl
  | _ => exact ⟨hid, .inl rfl⟩

end Lookup

end Marketplace
