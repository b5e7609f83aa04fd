import Marketplace.Server.Requests

namespace Marketplace
open CallTree KeyedTable Runs

def Double.positive : Double → Bool
  | .finite x => decide (0 < x.val)
  | _ => false

structure WellFormedRow (db : Database Double) (r : Order Double) : Prop where
  quantity : 0 < r.quantity ∧ Int32 r.quantity
  price : r.unitPrice.positive = true
  side : r.buyOrSell = BUY ∨ r.buyOrSell = SELL
  item : r.item ∈ [COIN_OMG, COIN_DOGE, COIN_BTC, COIN_ETH]
  owner : (db.user r.userID).isSome

def WellFormedBook (db : Database Double) : Prop :=
  ∀ r ∈ db.orders.rows, WellFormedRow db r

instance (db : Database Double) (r : Order Double) : Decidable (WellFormedRow db r) :=
  decidable_of_iff ((0 < r.quantity ∧ Int32 r.quantity) ∧ r.unitPrice.positive = true ∧
      (r.buyOrSell = BUY ∨ r.buyOrSell = SELL) ∧
      r.item ∈ [COIN_OMG, COIN_DOGE, COIN_BTC, COIN_ETH] ∧ (db.user r.userID).isSome)
    ⟨fun ⟨hq, hp, hs, hi, hu⟩ => ⟨hq, hp, hs, hi, hu⟩,
      fun h => ⟨h.quantity, h.price, h.side, h.item, h.owner⟩⟩

instance (db : Database Double) : Decidable (WellFormedBook db) :=
  inferInstanceAs (Decidable (∀ r ∈ db.orders.rows, WellFormedRow db r))

def KeepsForm (db : Database Double) (ord : Order Double) (refused : User → Bool)
    (found : Option (Order Double)) (taker : User → Order Double → User) : Prop :=
  CDouble.isNaN ord.unitPrice = false → ∀ u ∈ db.user ord.userID, refused u = false →
    (found = none → insufficientBalance u ord = false →
      0 < ord.quantity ∧ ord.unitPrice.positive = true) ∧
    ∀ m ∈ found, 0 < (remainder db ord m).quantity →
      insufficientBalance (taker u m) (remainder db ord m) = false → ord.unitPrice.positive = true

def Op.KeepsForm (S : CreatedAtSort Double) : Op Double → Database Double → Prop
  | .buy ord, db =>
    Marketplace.KeepsForm db ord (fun u => CDouble.lt (CDouble.ofInt u.OMG) ord.total)
      (matchSell S db ord) (fun u m => buyTaker u ord m)
  | .sell ord, db =>
    Marketplace.KeepsForm db ord (fun u => insufficientHolding u ord) (matchBuy S db ord)
      (fun u m => sellTaker u ord m)
  | _, _ => True

def Request.KeepsForm (S : CreatedAtSort Double) (r : Request) (db : Database Double) : Prop :=
  ∀ op ∈ r.op, op.KeepsForm S db

variable {S : CreatedAtSort Double} {db db' : Database Double} {ord m r : Order Double} {u v : User}

theorem Double.positive_not_nan {p : Double} (h : p.positive = true) : CDouble.isNaN p = false := by
  cases p with
  | finite q => rfl
  | inf negative => rfl
  | nan => cases h

theorem WellFormedRow.mono (h : WellFormedRow db r)
    (husers : ∀ id, (db.user id).isSome → (db'.user id).isSome) : WellFormedRow db' r :=
  ⟨h.quantity, h.price, h.side, h.item, husers _ h.owner⟩

theorem wellFormedBook_of_rows (h : WellFormedBook db)
    (hrows : ∀ r ∈ db'.orders.rows, r ∈ db.orders.rows)
    (husers : ∀ id, (db.user id).isSome → (db'.user id).isSome) : WellFormedBook db' :=
  fun r hr => (h r (hrows r hr)).mono husers

section Place

variable {w : User}

theorem wellFormedBook_place (h : WellFormedBook db)
    (hside : ord.buyOrSell = BUY ∨ ord.buyOrSell = SELL)
    (hitem : ord.item ∈ [COIN_OMG, COIN_DOGE, COIN_BTC, COIN_ETH]) (hint : Int32 ord.quantity)
    (hu : (db.user ord.userID).isSome) :
    WellFormedBook ((db.place ord).setBalance w) ↔
      0 < ord.quantity ∧ ord.unitPrice.positive = true := by
  have husers (id : Int) (hid : (db.user id).isSome) :
      (((db.place ord).setBalance w).user id).isSome := by
    simpa using hid
  constructor
  · intro hbook
    have hrow := hbook (db.placed ord) ((Database.mem_orders_place db ord).mpr (.inr rfl))
    exact ⟨hrow.quantity.1, hrow.price⟩
  · rintro ⟨hquantity, hprice⟩ r hr
    rcases (Database.mem_orders_place db ord).mp hr with hr | rfl
    · exact (h r hr).mono husers
    · exact ⟨⟨hquantity, hint⟩, hprice, hside, hitem, husers _ hu⟩

theorem reduced_pos (hq : m.quantity - transactionQuantity ord m ≠ 0) :
    0 < m.quantity - transactionQuantity ord m := by
  unfold transactionQuantity at hq ⊢
  split_ifs at hq ⊢
  · exact absurd (sub_self m.quantity) hq
  · omega

theorem wellFormedBook_fill (taker maker : User) (h : WellFormedBook db)
    (hf : Fillable db ord m u v) (hint : Int32 (m.quantity - transactionQuantity ord m)) :
    WellFormedBook (db.fill ord m taker maker) := by
  have husers (id : Int) (hid : (db.user id).isSome) :
      ((db.fill ord m taker maker).user id).isSome := by
    rw [Database.user, users_fill]
    exact (Database.user_isSome_setBalance _ maker id).trans
      ((Database.user_isSome_setBalance db taker id).trans hid)
  intro r hr
  rcases (mem_orders_fill hf.row).mp hr with ⟨hr, -⟩ | ⟨hq, rfl⟩
  · exact (h r hr).mono husers
  · have hm := h m (Database.order_mem hf.row)
    exact ⟨⟨reduced_pos hq, hint⟩, hm.price, hm.side, hm.item, husers _ hm.owner⟩

end Place

section Step

variable {refused : User → Bool} {found : Option (Order Double)}
  {taker : User → Order Double → User}

theorem wellFormedBook_insertOutcome {res : Int × Database Double} (h : WellFormedBook db)
    (hside : ord.buyOrSell = BUY ∨ ord.buyOrSell = SELL)
    (hitem : ord.item ∈ [COIN_OMG, COIN_DOGE, COIN_BTC, COIN_ETH]) (hint : Int32 ord.quantity)
    (hu : db.user ord.userID = some u) (hr : refused u = false)
    (hout : InsertOutcome db u ord res) :
    WellFormedBook res.2 ↔ KeepsForm db ord refused none taker := by
  have hkeeps : KeepsForm db ord refused none taker ↔ (CDouble.isNaN ord.unitPrice = false →
      insufficientBalance u ord = false → 0 < ord.quantity ∧ ord.unitPrice.positive = true) := by
    simp [KeepsForm, hu, hr]
  rw [hkeeps]
  cases hout with
  | refused hi => exact iff_of_true h (fun _ hi' => absurd (hi.symm.trans hi') (by decide))
  | notNull _ hn => exact iff_of_true h (fun hn' => absurd (hn.symm.trans hn') (by decide))
  | rested hi hn =>
    rw [wellFormedBook_place h hside hitem hint (by simp [hu])]
    exact ⟨fun hvalid _ _ => hvalid, fun hvalid => hvalid hn hi⟩

theorem wellFormedBook_settleOutcome {maker : User} {res : Int × Database Double}
    (h : WellFormedBook db) (hside : ord.buyOrSell = BUY ∨ ord.buyOrSell = SELL)
    (hitem : ord.item ∈ [COIN_OMG, COIN_DOGE, COIN_BTC, COIN_ETH]) (hf : Fillable db ord m u v)
    {takerFits makerFits : Prop} (hfits : SettleFits ord m takerFits makerFits)
    (ht : (taker u m).SameAccount u) (hm : maker.SameAccount v) (hr : refused u = false)
    (hout : SettleOutcome db ord m (taker u m) maker res) :
    WellFormedBook res.2 ↔ KeepsForm db ord refused (some m) taker := by
  have hkeeps : KeepsForm db ord refused (some m) taker ↔
      (0 < ord.quantity - transactionQuantity ord m →
        insufficientBalance (taker u m) (remainder db ord m) = false →
          ord.unitPrice.positive = true) := by
    simp [KeepsForm, hf.taker, hf.price, hr, remainder]
  have hfill := wellFormedBook_fill (taker u m) maker h hf hfits.row
  rw [hkeeps]
  cases hout with
  | complete hq => exact iff_of_true hfill (fun hpos => absurd hpos (not_lt.mpr hq))
  | refused hq hi => exact iff_of_true hfill (fun _ hi' => absurd (hi.symm.trans hi') (by decide))
  | rested hq hi =>
    have howner :
        (db.fill ord m (taker u m) maker).user (remainder db ord m).userID = some (taker u m) :=
      hf.user_taker ht hm
    have hplace : WellFormedBook
        (((db.fill ord m (taker u m) maker).place (remainder db ord m)).setBalance
          (withholdBalance (taker u m) (remainder db ord m))) ↔
        0 < (remainder db ord m).quantity ∧ (remainder db ord m).unitPrice.positive = true :=
      wellFormedBook_place hfill hside hitem hfits.order (by rw [howner]; rfl)
    exact hplace.trans ⟨fun hvalid _ _ => hvalid.2, fun hvalid => ⟨hq, hvalid hq hi⟩⟩

theorem keepsForm_refused (hu : db.user ord.userID = some u) (hr : refused u = true) :
    KeepsForm db ord refused found taker := by
  intro _ w hw hw'
  rw [hu] at hw
  cases hw
  exact absurd (hr.symm.trans hw') (by decide)

theorem keepsForm_unknown (hu : db.user ord.userID = none) :
    KeepsForm db ord refused found taker := by
  intro _ w hw
  rw [hu] at hw
  cases hw

theorem wellFormedBook_buy {userID : Int} (h : WellFormedBook db) (hp : Parsed userID BUY ord)
    (hfits : (Op.buy ord).Fits S db) :
    WellFormedBook (apply S (.buy ord) db) ↔ (Op.buy ord).KeepsForm S db := by
  have hside : ord.buyOrSell = BUY ∨ ord.buyOrSell = SELL := .inl hp.side
  obtain ⟨res, hout, hres⟩ := buy_applied S ord db
  rw [hres]
  simp only [Op.KeepsForm]
  cases hout with
  | unknownUser hu => exact iff_of_true h (keepsForm_unknown hu)
  | refused u hu hr => exact iff_of_true h (keepsForm_refused hu hr)
  | unmatched u hu hr hm res hins =>
    rw [hm]
    exact wellFormedBook_insertOutcome h hside hp.item hp.quantity hu hr hins
  | unfillable u m hu hr hm hv =>
    have hrow := h m (matchSell_some hm).1
    rcases hv with hv | hv
    · exact absurd hrow.owner (by simp [hv])
    · exact absurd (Double.positive_not_nan hrow.price) (by simp [hv])
  | matched u v m hr hm hf res hset =>
    have hsettle := ((fits_buy_iff.mp hfits u hf.taker hr).2 m hm v hf).1
    rw [hm]
    exact wellFormedBook_settleOutcome h hside hp.item hf hsettle (buyTaker_sameAccount u ord m)
      (buyMaker_sameAccount ord m v) hr hset

theorem wellFormedBook_sell {userID : Int} (h : WellFormedBook db) (hp : Parsed userID SELL ord)
    (hfits : (Op.sell ord).Fits S db) :
    WellFormedBook (apply S (.sell ord) db) ↔ (Op.sell ord).KeepsForm S db := by
  have hside : ord.buyOrSell = BUY ∨ ord.buyOrSell = SELL := .inr hp.side
  obtain ⟨res, hout, hres⟩ := sell_applied S ord db
  rw [hres]
  simp only [Op.KeepsForm]
  cases hout with
  | unknownUser hu => exact iff_of_true h (keepsForm_unknown hu)
  | refused u hu hr => exact iff_of_true h (keepsForm_refused hu hr)
  | unmatched u hu hr hm res hins =>
    rw [hm]
    exact wellFormedBook_insertOutcome h hside hp.item hp.quantity hu hr hins
  | unfillable u m hu hr hm hv =>
    have hrow := h m (matchBuy_some hm).1
    rcases hv with hv | hv
    · exact absurd hrow.owner (by simp [hv])
    · exact absurd (Double.positive_not_nan hrow.price) (by simp [hv])
  | matched u v m hr hm hf res hset =>
    have hsettle := ((fits_sell_iff.mp hfits u hf.taker hr).2 m hm v hf).1
    rw [hm]
    exact wellFormedBook_settleOutcome h hside hp.item hf hsettle (sellTaker_sameAccount u ord m)
      (sellMaker_sameAccount ord m v) hr hset

theorem wellFormedBook_cancelOrder {orderID currentUserID : Int} (h : WellFormedBook db) :
    WellFormedBook (apply S (.cancelOrder orderID currentUserID) db) := by
  refine wellFormedBook_of_rows h (fun r hr => cancelOrder_rows hr) (fun id hid => ?_)
  obtain ⟨res, hout, hres⟩ := cancelOrder_applied S orderID currentUserID db
  rw [hres]
  cases hout with
  | cancelled r u hr hown hu => simpa using hid
  | _ => exact hid

theorem wellFormedBook_register (newUser : User) (h : WellFormedBook db) :
    WellFormedBook (apply S (.register newUser) db) := by
  rw [apply_register]
  split
  · exact h
  · refine wellFormedBook_of_rows h (fun r hr => hr) (fun id hid => ?_)
    obtain ⟨v, hv⟩ := Option.isSome_iff_exists.mp hid
    exact Option.isSome_iff_exists.mpr ⟨v, Database.user_addUser hv⟩

theorem wellFormedBook_parsed {userID : Int} {op : Op Double} (h : WellFormedBook db)
    (hop : ParsedOp userID op) (hfits : op.Fits S db) :
    WellFormedBook (apply S op db) ↔ op.KeepsForm S db := by
  cases hop with
  | buy ord hp => exact wellFormedBook_buy h hp hfits
  | sell ord hp => exact wellFormedBook_sell h hp hfits
  | cancelOrder orderID => exact iff_of_true (wellFormedBook_cancelOrder h) trivial

theorem wellFormedBook_serve (request : Request) (h : WellFormedBook db)
    (hfits : request.Fits S db) :
    WellFormedBook (request.serve S db) ↔ request.KeepsForm S db := by
  rw [serve_eq]
  cases request with
  | register usernameLine nameLine passwordLine =>
    refine iff_of_true (wellFormedBook_register _ h) (fun op hop => ?_)
    cases hop
    trivial
  | line userID buffer =>
    cases hop : parseLine userID buffer with
    | none =>
      refine iff_of_true ?_ (fun op hop' => ?_)
      · simpa [Request.op, hop, perhaps] using h
      · simp [Request.op, hop] at hop'
    | some op =>
      have hstep := wellFormedBook_parsed h (parseLine_spec hop) (hfits op hop)
      simpa [Request.op, Request.KeepsForm, hop, perhaps] using hstep
  | elapse seconds =>
    refine iff_of_true (wellFormedBook_of_rows h (fun r hr => hr) (fun id hid => hid))
      (fun op hop => ?_)
    cases hop
    trivial

end Step

theorem wellFormedBook_run_iff (S : CreatedAtSort Double) (requests : List Request)
    (hfits : Along (Request.serve S) (Request.Fits S) requests Database.empty) :
    Along (Request.serve S) (fun r db => WellFormedBook (r.serve S db)) requests Database.empty ↔
      Along (Request.serve S) (Request.KeepsForm S) requests Database.empty := by
  have hempty : WellFormedBook Database.empty := by
    intro r hr
    cases hr
  exact along_iff (J := fun _ => True) (fun _ _ _ _ => trivial)
    (fun request db hreq _ h => wellFormedBook_serve request h hreq) hfits trivial hempty

def register (name : Char) : Request :=
  .register [name, '\r', '\n'] [name, '\r', '\n'] ['p', '\r', '\n']

def partlyBought : List Request :=
  [register 'a', register 'b', .line 1 "sell doge 0.5 10\r\n".toList,
    .line 2 "buy doge 0.7 4\r\n".toList, .line 2 "buy doge 1 9\r\n".toList]

theorem wellFormedBook_run_iff_partlyBought :
    Along (Request.serve (.stable Double))
        (fun r db => WellFormedBook (r.serve (.stable Double) db)) partlyBought Database.empty ↔
      Along (Request.serve (.stable Double)) (Request.KeepsForm (.stable Double)) partlyBought
        Database.empty :=
  wellFormedBook_run_iff (.stable Double) partlyBought (by decide +kernel)

def negativeBuy : List Request :=
  [register 'a', .line 1 "buy doge 1 -100\r\n".toList]

theorem illFormed_row_reachable :
    ¬ ∀ (S : CreatedAtSort Double) (requests : List Request),
      Along (Request.serve S) (fun r db => WellFormedBook (r.serve S db)) requests Database.empty := by
  intro h
  have hrun := h (.stable Double) negativeBuy
  revert hrun
  decide +kernel

end Marketplace
