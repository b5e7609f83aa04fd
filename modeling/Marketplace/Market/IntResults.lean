import Marketplace.Market.Coins
import Marketplace.Command.Integers

namespace Marketplace
open CallTree KeyedTable Truncation Runs

def User.FitsInt (u : User) : Prop :=
  ∀ c : Coin, Int32 (u.balance c)

variable {D : Type} [CDouble D]

def Op.noted : Op D → Option (NotedSQL D Int)
  | .register _ => none
  | .buy ord => some (buyNoted ord)
  | .sell ord => some (sellNoted ord)
  | .cancelOrder orderID currentUserID => some (cancelOrderNoted orderID currentUserID)
  | .elapse _ => none

def Op.Fits (S : CreatedAtSort D) (op : Op D) (db : Database D) : Prop :=
  ∀ p ∈ op.noted, p.Notes (perform S) FitsInt db

instance (S : CreatedAtSort D) (op : Op D) (db : Database D) : Decidable (op.Fits S db) :=
  inferInstanceAs (Decidable (∀ p ∈ op.noted, p.Notes (perform S) FitsInt db))

def ConversionFits (x : D) : Prop :=
  FitsInt (CDouble.integralPart x)

def CostFits (ord : Order D) : Prop :=
  ord.buyOrSell = BUY → ConversionFits ord.total

structure WithholdFits (u : User) (ord : Order D) : Prop where
  buy : ord.buyOrSell = BUY → Int32 (u.OMG - CDouble.toInt ord.total)
  sell : ord.buyOrSell = SELL → ∀ c ≠ Coin.omg, ord.item = c.code →
    Int32 (u.balance c - ord.quantity)

structure InsertFits (u : User) (ord : Order D) : Prop where
  cost : CostFits ord
  withhold : insufficientBalance u ord = false → CDouble.isNaN ord.unitPrice = false →
    WithholdFits u ord

def ItemFits (u : User) (item n : Int) : Prop :=
  ∀ c : Coin, item = c.code → Int32 (u.balance c + n)

structure SettleFits (ord m : Order D) (taker maker : Prop) : Prop where
  order : Int32 (ord.quantity - transactionQuantity ord m)
  row : Int32 (m.quantity - transactionQuantity ord m)
  taker : taker
  maker : maker

def BuyFillFits (db : Database D) (ord m : Order D) (u v : User) : Prop :=
  SettleFits ord m
      (ConversionFits (CDouble.sub (CDouble.ofInt u.OMG) (transactionCost ord m)) ∧
        ItemFits (u.debitOMG (transactionCost ord m)) ord.item (transactionQuantity ord m))
      (ConversionFits (CDouble.add (CDouble.ofInt v.OMG) (transactionCost ord m)) ∧
        ItemFits (v.creditOMG (transactionCost ord m)) m.item (-transactionQuantity ord m)) ∧
    (0 < ord.quantity - transactionQuantity ord m →
      InsertFits (buyTaker u ord m) (remainder db ord m))

def SellFillFits (db : Database D) (ord m : Order D) (u v : User) : Prop :=
  SettleFits ord m
      (ItemFits u ord.item (-transactionQuantity ord m) ∧
        ConversionFits (CDouble.add
          (CDouble.ofInt (u.addItem ord.item (-transactionQuantity ord m)).OMG)
          (transactionCost ord m)))
      (ConversionFits (CDouble.sub (CDouble.ofInt v.OMG) (transactionCost ord m)) ∧
        ItemFits (v.debitOMG (transactionCost ord m)) m.item (transactionQuantity ord m)) ∧
    (0 < ord.quantity - transactionQuantity ord m →
      InsertFits (sellTaker u ord m) (remainder db ord m))

structure RefundFits (u : User) (r : Order D) : Prop where
  buy : r.buyOrSell = BUY → ConversionFits (CDouble.add (CDouble.ofInt u.OMG) r.total)
  sell : r.buyOrSell ≠ BUY → ItemFits u r.item r.quantity

theorem code_injective {c c' : Coin} (h : c.code = c'.code) : c = c' := by
  cases c <;> cases c' <;> first | rfl | cases h

section Conversions

theorem ConversionFits.toInt {x : D} (h : ConversionFits x) :
    CDouble.integralPart x = some (CDouble.toInt x) ∧ Int32 (CDouble.toInt x) := by
  obtain ⟨n, hn, hfits⟩ := h
  rw [CDouble.toInt_eq hn hfits]
  exact ⟨hn, hfits⟩

end Conversions

section Notes

variable {α W : Type} {h : (c : Call D) → W → Call.Resp c × W} {w : W} {u : User} {ord : Order D}

omit [CDouble D] in
theorem notes_intNoted (n : Int) (f : Int → α) :
    (intNoted n >>= fun k => pure (f k) : NotedSQL D α).Notes h FitsInt w ↔ Int32 n := by
  simp [intNoted]

theorem notes_convertNoted (x : D) (f : Int → NotedSQL D α) :
    (convertNoted x >>= f).Notes h FitsInt w ↔
      ConversionFits x ∧ (f (CDouble.toInt x)).Notes h FitsInt w := by
  simp [convertNoted, ConversionFits]

theorem itemFits_iff {item n : Int} (c : Coin) (hc : item = c.code) :
    ItemFits u item n ↔ Int32 (u.balance c + n) := by
  constructor
  · intro hfits
    exact hfits c hc
  · intro hfits c' hc'
    exact code_injective (hc'.symm.trans hc) ▸ hfits

omit [CDouble D] in
@[simp] theorem notes_addItemNoted (item n : Int) :
    (addItemNoted u item n : NotedSQL D User).Notes h FitsInt w ↔ ItemFits u item n := by
  unfold addItemNoted
  split_ifs with h0 h1 h2 h3
  · exact (notes_intNoted _ _).trans (itemFits_iff .omg h0).symm
  · exact (notes_intNoted _ _).trans (itemFits_iff .doge h1).symm
  · exact (notes_intNoted _ _).trans (itemFits_iff .btc h2).symm
  · exact (notes_intNoted _ _).trans (itemFits_iff .eth h3).symm
  · refine iff_of_true trivial (fun c hc => ?_)
    cases c
    · exact absurd hc h0
    · exact absurd hc h1
    · exact absurd hc h2
    · exact absurd hc h3

@[simp] theorem notes_creditOMGNoted (x : D) :
    (creditOMGNoted u x).Notes h FitsInt w ↔
      ConversionFits (CDouble.add (CDouble.ofInt u.OMG) x) :=
  (notes_convertNoted _ _).trans (and_iff_left trivial)

@[simp] theorem notes_debitOMGNoted (x : D) :
    (debitOMGNoted u x).Notes h FitsInt w ↔
      ConversionFits (CDouble.sub (CDouble.ofInt u.OMG) x) :=
  (notes_convertNoted _ _).trans (and_iff_left trivial)

omit [CDouble D] in
@[simp] theorem notes_reduceNoted (n : Int) :
    (reduceNoted ord n).Notes h FitsInt w ↔ Int32 (ord.quantity - n) :=
  notes_intNoted _ _

@[simp] theorem notes_insufficientBalanceNoted :
    (insufficientBalanceNoted u ord).Notes h FitsInt w ↔ CostFits ord := by
  unfold insufficientBalanceNoted CostFits
  split
  · next hb => exact (notes_convertNoted _ _).trans ((and_iff_left trivial).trans (imp_iff_right hb).symm)
  · next hb => exact iff_of_true trivial (fun hb' => absurd hb' hb)

@[simp] theorem notes_withholdBalanceNoted :
    (withholdBalanceNoted u ord).Notes h FitsInt w ↔ CostFits ord ∧ WithholdFits u ord := by
  by_cases hb : ord.buyOrSell = BUY
  · have h0 : ord.buyOrSell = 0 := hb
    have hs : ¬ ord.buyOrSell = SELL := by
      rw [hb]
      decide
    rw [withholdBalanceNoted, if_pos h0, notes_convertNoted, notes_intNoted]
    exact and_congr (imp_iff_right hb).symm
      ⟨fun hfits => ⟨fun _ => hfits, fun hs' => absurd hs' hs⟩, fun hfits => hfits.buy hb⟩
  · have h0 : ¬ ord.buyOrSell = 0 := hb
    have hcost : CostFits ord := fun hb' => absurd hb' hb
    rw [and_iff_right hcost, withholdBalanceNoted, if_neg h0]
    by_cases hs : ord.buyOrSell = SELL
    · have h1 : ord.buyOrSell = 1 := hs
      have hsell (c : Coin) (hc : c ≠ .omg) (hitem : ord.item = c.code) :
          WithholdFits u ord ↔ Int32 (u.balance c - ord.quantity) := by
        refine ⟨fun hfits => hfits.sell hs c hc hitem,
          fun hfits => ⟨fun hb' => absurd hb' hb, fun _ c' _ hitem' => ?_⟩⟩
        exact code_injective (hitem'.symm.trans hitem) ▸ hfits
      rw [if_pos h1]
      split_ifs with hdoge hbtc heth
      · exact (notes_intNoted _ _).trans (hsell .doge (by decide) hdoge).symm
      · exact (notes_intNoted _ _).trans (hsell .btc (by decide) hbtc).symm
      · exact (notes_intNoted _ _).trans (hsell .eth (by decide) heth).symm
      · refine iff_of_true trivial ⟨fun hb' => absurd hb' hb, fun _ c hc hitem => ?_⟩
        cases c
        · exact absurd rfl hc
        · exact absurd hitem hdoge
        · exact absurd hitem hbtc
        · exact absurd hitem heth
    · have h1 : ¬ ord.buyOrSell = 1 := hs
      rw [if_neg h1]
      exact iff_of_true trivial ⟨fun hb' => absurd hb' hb, fun hs' => absurd hs' hs⟩

@[simp] theorem notes_refundBalanceNoted :
    (refundBalanceNoted u ord).Notes h FitsInt w ↔ RefundFits u ord := by
  unfold refundBalanceNoted
  split
  · next hb =>
    refine (notes_creditOMGNoted _).trans ⟨fun hfits => ⟨fun _ => hfits, fun hne => absurd hb hne⟩, ?_⟩
    exact fun hfits => hfits.buy hb
  · next hb =>
    refine (notes_addItemNoted _ _).trans ⟨fun hfits => ⟨fun hb' => absurd hb' hb, fun _ => hfits⟩, ?_⟩
    exact fun hfits => hfits.sell hb

end Notes

section Programs

variable {S : CreatedAtSort D} {db : Database D} {u v : User} {ord m : Order D}

theorem notes_insertOrderNoted (hu : db.user ord.userID = some u) :
    (insertOrderNoted ord).Notes (perform S) FitsInt db ↔ InsertFits u ord := by
  have hfits : InsertFits u ord ↔ CostFits ord ∧ (insufficientBalance u ord = false →
      CDouble.isNaN ord.unitPrice = false → CostFits ord ∧ WithholdFits u ord) :=
    ⟨fun h => ⟨h.cost, fun hi hn => ⟨h.cost, h.withhold hi hn⟩⟩,
      fun h => ⟨h.1, fun hi hn => (h.2 hi hn).2⟩⟩
  rw [hfits, insertOrderNoted, Noted.notes_bind, Noted.erase_lift, run_getUser, hu,
    and_iff_right (Noted.notes_lift _ _ _ _), Noted.notes_bind, erase_insufficientBalanceNoted,
    notes_insufficientBalanceNoted]
  refine and_congr_right (fun _ => ?_)
  cases hi : insufficientBalance u ord with
  | true => simp
  | false =>
    cases hn : CDouble.isNaN ord.unitPrice <;>
      simp [hu, hn, execute, doubleParameter, StepResult.code, SQLITE_CONSTRAINT, SQLITE_DONE, SQLITE_OK]

theorem notes_closeMatchNoted (hrow : (db.order m.orderID).isSome) (hv : (db.user m.userID).isSome)
    (hn : CDouble.isNaN m.unitPrice = false) :
    (closeMatchNoted ord m).Notes (perform S) FitsInt db ↔
      (0 < ord.quantity → (insertOrderNoted ord).Notes (perform S) FitsInt (db.close m)) := by
  simp only [closeMatchNoted, Noted.notes_bind, Noted.erase_lift, run_deleteOrUpdateOrder hrow hv hn]
  by_cases hq : 0 < ord.quantity <;> simp [SQLITE_OK, hq]

theorem notes_settleMatchNoted {taker : NotedSQL D User} {maker : User → NotedSQL D User}
    {takerUser makerUser : User} {takerFits makerFits : Prop} (hf : Fillable db ord m u v)
    (ht : takerUser.SameAccount u) (htaker : taker.erase = pure takerUser)
    (hmaker : (maker v).erase = pure makerUser)
    (htakerFits : ∀ w, taker.Notes (perform S) FitsInt w ↔ takerFits)
    (hmakerFits : ∀ w, (maker v).Notes (perform S) FitsInt w ↔ makerFits) :
    (settleMatchNoted ord m taker maker).Notes (perform S) FitsInt db ↔
      SettleFits ord m takerFits makerFits ∧ (0 < ord.quantity - transactionQuantity ord m →
        (insertOrderNoted (remainder db ord m)).Notes (perform S) FitsInt
          (db.fill ord m takerUser makerUser)) := by
  have htaker' : (db.user ord.userID).isSome := by simp [hf.taker]
  have hmaker' : (db.user m.userID).isSome := by simp [hf.maker]
  have hfound : (((db.archive m).archive (ord.stamp db)).setBalance takerUser).user m.userID = some v :=
    hf.maker_unmoved ht
  let moved := (((db.archive m).archive (ord.stamp db)).setBalance takerUser).setBalance makerUser
  have hclose : (closeMatchNoted (remainder db ord m) (m.reduce (transactionQuantity ord m))).Notes
      (perform S) FitsInt moved ↔ (0 < ord.quantity - transactionQuantity ord m →
        (insertOrderNoted (remainder db ord m)).Notes (perform S) FitsInt
          (db.fill ord m takerUser makerUser)) := by
    refine notes_closeMatchNoted ?_ ?_ hf.makerPrice
    · simp [moved, hf.row]
    · simp [moved, hmaker']
  have hfits : SettleFits ord m takerFits makerFits ↔
      Int32 (ord.quantity - transactionQuantity ord m) ∧
        Int32 (m.quantity - transactionQuantity ord m) ∧ takerFits ∧ makerFits :=
    ⟨fun h => ⟨h.order, h.row, h.taker, h.maker⟩, fun ⟨h1, h2, h3, h4⟩ => ⟨h1, h2, h3, h4⟩⟩
  rw [hfits, ← hclose]
  simp [settleMatchNoted, archiveOrder, run_assignOrderTimestamp, run_insertArchive, SQLITE_OK,
    run_updateUserBalance, run_getUser, hf.makerPrice, hf.price, hmaker', htaker', hfound, htaker,
    hmaker, htakerFits, hmakerFits, remainder, moved, and_assoc]

theorem not_unfillable (hf : Fillable db ord m u v) :
    ¬ (db.user m.userID = none ∨ CDouble.isNaN m.unitPrice = true) := by
  simp [hf.maker, hf.makerPrice]

theorem notes_settleMatchNoted_unfillable {taker : NotedSQL D User} {maker : User → NotedSQL D User}
    (h : db.user m.userID = none ∨ CDouble.isNaN m.unitPrice = true) :
    (settleMatchNoted ord m taker maker).Notes (perform S) FitsInt db := by
  have hcond : ¬ (CDouble.isNaN m.unitPrice = false ∧ (db.user m.userID).isSome) := by
    rcases h with h | h <;> simp [h]
  have harchive : (insertArchive m).run (perform S) db = (SQLITE_CONSTRAINT, db) := by
    rw [run_insertArchive, if_neg hcond]
  simp [settleMatchNoted, archiveOrder, run_assignOrderTimestamp, harchive, SQLITE_CONSTRAINT]

theorem notes_buyMatchNoted (hf : Fillable db ord m u v) :
    (buyMatchNoted u ord m).Notes (perform S) FitsInt db ↔ BuyFillFits db ord m u v := by
  have htaker := buyTaker_sameAccount u ord m
  have hu : (db.fill ord m (buyTaker u ord m) (buyMaker ord m v)).user (remainder db ord m).userID =
      some (buyTaker u ord m) := hf.user_taker htaker (buyMaker_sameAccount ord m v)
  rw [BuyFillFits, ← notes_insertOrderNoted (S := S) hu]
  refine notes_settleMatchNoted hf htaker ?_ ?_ (fun w => ?_) (fun w => ?_)
  · rw [Noted.erase_bind, erase_debitOMGNoted, Prog.pure_bind, erase_addItemNoted]
    rfl
  · rw [Noted.erase_bind, erase_creditOMGNoted, Prog.pure_bind, erase_addItemNoted]
    rfl
  · rw [Noted.notes_bind, notes_debitOMGNoted, notes_addItemNoted]
    rfl
  · rw [Noted.notes_bind, notes_creditOMGNoted, notes_addItemNoted]
    rfl

theorem notes_sellMatchNoted (hf : Fillable db ord m u v) :
    (sellMatchNoted u ord m).Notes (perform S) FitsInt db ↔ SellFillFits db ord m u v := by
  have htaker := sellTaker_sameAccount u ord m
  have hu : (db.fill ord m (sellTaker u ord m) (sellMaker ord m v)).user (remainder db ord m).userID =
      some (sellTaker u ord m) := hf.user_taker htaker (sellMaker_sameAccount ord m v)
  rw [SellFillFits, ← notes_insertOrderNoted (S := S) hu]
  refine notes_settleMatchNoted hf htaker ?_ ?_ (fun w => ?_) (fun w => ?_)
  · rw [Noted.erase_bind, erase_addItemNoted, Prog.pure_bind, erase_creditOMGNoted]
    rfl
  · rw [Noted.erase_bind, erase_debitOMGNoted, Prog.pure_bind, erase_addItemNoted]
    rfl
  · rw [Noted.notes_bind, notes_addItemNoted, erase_addItemNoted]
    exact and_congr_right (fun _ => notes_creditOMGNoted _)
  · rw [Noted.notes_bind, notes_debitOMGNoted, notes_addItemNoted]
    rfl

theorem notes_checkedTradeNoted {refused : User → Bool} {find : SQL D Int}
    {settle : User → Order D → NotedSQL D Int} {found : Option (Order D)}
    (hfind : find.run (perform S) db = (found.elim (-1) Order.orderID, db))
    (hmem : ∀ m ∈ found, m ∈ db.orders.rows) :
    (checkedTradeNoted ord refused find settle).Notes (perform S) FitsInt db ↔
      ∀ u ∈ db.user ord.userID, refused u = false → (found = none → InsertFits u ord) ∧
        ∀ m ∈ found, (settle u m).Notes (perform S) FitsInt db := by
  rw [checkedTradeNoted, Noted.notes_bind, Noted.erase_lift, run_getUser,
    and_iff_right (Noted.notes_lift _ _ _ _)]
  cases hu : db.user ord.userID with
  | none => simp
  | some u =>
    cases hr : refused u with
    | true => simp [hr]
    | false =>
      cases hm : found with
      | none => simp [hr, hfind, hm, notes_insertOrderNoted hu]
      | some m =>
        have hrow := Database.order_of_mem (hmem m hm)
        have hid : m.orderID ≠ -1 := orderID_ne_neg_one (hmem m hm)
        simp [hr, hfind, hm, hid, run_getOrder, hrow]

theorem fits_buy_iff : (Op.buy ord).Fits S db ↔
    ∀ u ∈ db.user ord.userID, CDouble.lt (CDouble.ofInt u.OMG) ord.total = false →
      (matchSell S db ord = none → InsertFits u ord) ∧
        ∀ m ∈ matchSell S db ord, ∀ v, Fillable db ord m u v → BuyFillFits db ord m u v := by
  have hfits : (Op.buy ord).Fits S db ↔ (buyNoted ord).Notes (perform S) FitsInt db := by
    simp [Op.Fits, Op.noted]
  rw [hfits, buyNoted_eq, notes_checkedTradeNoted (run_findMatchingSell S db ord)
    (fun m hm => (matchSell_some hm).1)]
  refine forall₂_congr (fun u hu => imp_congr_right (fun _ => and_congr_right (fun _ => ?_)))
  refine forall₂_congr (fun m hm => ?_)
  obtain ⟨hmem, hans⟩ := matchSell_some hm
  obtain ⟨-, -, hp, -, hne⟩ := answersSell_iff.mp hans
  rcases fillable_or hu hmem hne hp with hv | ⟨v, hf⟩
  · exact iff_of_true (notes_settleMatchNoted_unfillable hv)
      (fun v hf => absurd hv (not_unfillable hf))
  · refine (notes_buyMatchNoted hf).trans ⟨fun h v' hf' => ?_, fun h => h v hf⟩
    exact Option.some.inj (hf.maker.symm.trans hf'.maker) ▸ h

theorem fits_sell_iff : (Op.sell ord).Fits S db ↔
    ∀ u ∈ db.user ord.userID, insufficientHolding u ord = false →
      (matchBuy S db ord = none → InsertFits u ord) ∧
        ∀ m ∈ matchBuy S db ord, ∀ v, Fillable db ord m u v → SellFillFits db ord m u v := by
  have hfits : (Op.sell ord).Fits S db ↔ (sellNoted ord).Notes (perform S) FitsInt db := by
    simp [Op.Fits, Op.noted]
  rw [hfits, sellNoted_eq, notes_checkedTradeNoted (run_findMatchingBuy S db ord)
    (fun m hm => (matchBuy_some hm).1)]
  refine forall₂_congr (fun u hu => imp_congr_right (fun _ => and_congr_right (fun _ => ?_)))
  refine forall₂_congr (fun m hm => ?_)
  obtain ⟨hmem, hans⟩ := matchBuy_some hm
  obtain ⟨-, -, hp, -, hne⟩ := answersBuy_iff.mp hans
  rcases fillable_or hu hmem hne hp with hv | ⟨v, hf⟩
  · exact iff_of_true (notes_settleMatchNoted_unfillable hv)
      (fun v hf => absurd hv (not_unfillable hf))
  · refine (notes_sellMatchNoted hf).trans ⟨fun h v' hf' => ?_, fun h => h v hf⟩
    exact Option.some.inj (hf.maker.symm.trans hf'.maker) ▸ h

theorem fits_cancelOrder_iff {orderID currentUserID : Int} :
    (Op.cancelOrder orderID currentUserID : Op D).Fits S db ↔
      ∀ r ∈ db.order orderID, r.userID = currentUserID → ∀ u ∈ db.user currentUserID,
        RefundFits u r := by
  have hfits : (Op.cancelOrder orderID currentUserID : Op D).Fits S db ↔
      (cancelOrderNoted orderID currentUserID).Notes (perform S) FitsInt db := by
    simp [Op.Fits, Op.noted]
  rw [hfits, cancelOrderNoted, Noted.notes_bind, Noted.erase_lift, run_getOrder,
    and_iff_right (Noted.notes_lift _ _ _ _)]
  cases hr : db.order orderID with
  | none => simp
  | some r =>
    by_cases hown : r.userID = currentUserID
    · cases hu : db.user currentUserID with
      | none => simp [hown, run_getUser, hu]
      | some u => simp [hown, run_getUser, hu, run_updateUserBalance, run_deleteOrder, SQLITE_OK]
    · simp [hown]

end Programs

def Op.GrantsFit : Op D → Prop
  | .register newUser => newUser.FitsInt
  | _ => True

instance : DecidablePred User.FitsInt := fun u =>
  inferInstanceAs (Decidable (∀ c : Coin, Int32 (u.balance c)))

omit [CDouble D] in
instance : DecidablePred (Op.GrantsFit (D := D))
  | .register newUser => inferInstanceAs (Decidable newUser.FitsInt)
  | .buy _ | .sell _ | .cancelOrder _ _ | .elapse _ => inferInstanceAs (Decidable True)

def Database.FitsInt (db : Database D) : Prop :=
  ∀ u ∈ db.users.rows, u.FitsInt

section Balances

variable {S : CreatedAtSort D} {db : Database D} {u v taker maker : User} {ord m : Order D} {id : Int}

omit [CDouble D] in
theorem fitsInt_addItem {item n : Int} (hu : u.FitsInt) (h : ItemFits u item n) :
    (u.addItem item n).FitsInt := by
  intro c
  rw [balance_addItem]
  split
  · next hc => exact h c hc
  · rw [add_zero]
    exact hu c

theorem fitsInt_creditOMG {x : D} (hu : u.FitsInt)
    (h : ConversionFits (CDouble.add (CDouble.ofInt u.OMG) x)) : (u.creditOMG x).FitsInt := by
  intro c
  rw [balance_creditOMG]
  split
  · exact h.toInt.2
  · exact hu c

theorem fitsInt_debitOMG {x : D} (hu : u.FitsInt)
    (h : ConversionFits (CDouble.sub (CDouble.ofInt u.OMG) x)) : (u.debitOMG x).FitsInt := by
  intro c
  rw [balance_debitOMG]
  split
  · exact h.toInt.2
  · exact hu c

theorem fitsInt_withholdBalance (hu : u.FitsInt) (h : InsertFits u ord)
    (hi : insufficientBalance u ord = false) (hn : CDouble.isNaN ord.unitPrice = false) :
    (withholdBalance u ord).FitsInt := by
  obtain ⟨hbuy, hsell⟩ := h.withhold hi hn
  intro c
  rw [balance_withholdBalance hi]
  by_cases hb : ord.buyOrSell = BUY
  · rw [withheld_buy hb]
    split
    · next hc =>
      subst hc
      exact hbuy hb
    · rw [sub_zero]
      exact hu c
  · by_cases hs : ord.buyOrSell = SELL
    · rw [withheld_sell hs]
      split
      · next hc =>
        refine hsell hs c ?_ hc
        rintro rfl
        rcases insufficientBalance_sell hs hi with ⟨hitem, -⟩ | ⟨hitem, -⟩ | ⟨hitem, -⟩ <;>
          exact absurd (hc.symm.trans hitem) (by decide)
      · rw [sub_zero]
        exact hu c
    · rw [withheld_neither hb hs, sub_zero]
      exact hu c

theorem fitsInt_refundBalance (hu : u.FitsInt) (h : RefundFits u ord) :
    (refundBalance u ord).FitsInt := by
  unfold refundBalance
  split
  · next hb => exact fitsInt_creditOMG hu (h.buy hb)
  · next hb => exact fitsInt_addItem hu (h.sell hb)

omit [CDouble D] in
instance (db : Database D) : Decidable db.FitsInt :=
  inferInstanceAs (Decidable (∀ u ∈ db.users.rows, u.FitsInt))

namespace Database.FitsInt

variable (h : db.FitsInt)
include h

omit [CDouble D] in
theorem user (hu : db.user id = some u) : u.FitsInt :=
  h u (Database.user_mem hu)

omit [CDouble D] in
theorem setBalance (hu : db.user id = some u) (hv : v.SameAccount u) (hfits : v.FitsInt) :
    (db.setBalance v).FitsInt := by
  intro w hw
  rcases (Database.mem_users_setBalance hu hv).mp hw with rfl | ⟨hw, -⟩
  · exact hfits
  · exact h w hw

theorem fill (hf : Fillable db ord m u v) (ht : taker.SameAccount u) (hm : maker.SameAccount v)
    (htaker : taker.FitsInt) (hmaker : maker.FitsInt) : (db.fill ord m taker maker).FitsInt := by
  have hmoved := (h.setBalance hf.taker ht htaker).setBalance (hf.maker_unmoved ht) hm hmaker
  intro w hw
  rw [users_fill] at hw
  exact hmoved w hw

theorem inserted {res : Int × Database D} (hu : db.user ord.userID = some u)
    (hfits : InsertFits u ord) (hins : InsertOutcome db u ord res) : res.2.FitsInt := by
  cases hins with
  | refused hi => exact h
  | notNull hi hn => exact h
  | rested hi hn =>
    have hu' : (db.place ord).user ord.userID = some u := hu
    have hplaced : (db.place ord).FitsInt := h
    exact hplaced.setBalance hu' (withholdBalance_sameAccount u ord)
      (fitsInt_withholdBalance (h.user hu) hfits hi hn)

theorem settled {res : Int × Database D} (hf : Fillable db ord m u v) (ht : taker.SameAccount u)
    (hm : maker.SameAccount v) (htaker : taker.FitsInt) (hmaker : maker.FitsInt)
    (hrest : 0 < ord.quantity - transactionQuantity ord m → InsertFits taker (remainder db ord m))
    (hset : SettleOutcome db ord m taker maker res) : res.2.FitsInt := by
  have hfilled := h.fill hf ht hm htaker hmaker
  cases hset with
  | complete hq => exact hfilled
  | refused hq hi => exact hfilled
  | rested hq hi =>
    have hu : (db.fill ord m taker maker).user (remainder db ord m).userID = some taker :=
      hf.user_taker ht hm
    exact hfilled.inserted hu (hrest hq) (.rested hi hf.price)

theorem bought (hfits : (Op.buy ord).Fits S db) : (apply S (.buy ord) db).FitsInt := by
  obtain ⟨res, hout, hres⟩ := buy_applied S ord db
  rw [hres]
  cases hout with
  | unknownUser hu => exact h
  | refused u hu hl => exact h
  | unmatched u hu hl hm res hins =>
    exact h.inserted hu ((fits_buy_iff.mp hfits u hu hl).1 hm) hins
  | unfillable u m hu hl hm hv => exact h
  | matched u v m hl hm hf res hset =>
    obtain ⟨⟨-, -, ⟨hdebit, htake⟩, hcredit, hgive⟩, hrest⟩ :=
      (fits_buy_iff.mp hfits u hf.taker hl).2 m hm v hf
    have htaker : (buyTaker u ord m).FitsInt :=
      fitsInt_addItem (fitsInt_debitOMG (h.user hf.taker) hdebit) htake
    have hmaker : (buyMaker ord m v).FitsInt :=
      fitsInt_addItem (fitsInt_creditOMG (h.user hf.maker) hcredit) hgive
    exact h.settled hf (buyTaker_sameAccount u ord m) (buyMaker_sameAccount ord m v) htaker hmaker
      hrest hset

theorem sold (hfits : (Op.sell ord).Fits S db) : (apply S (.sell ord) db).FitsInt := by
  obtain ⟨res, hout, hres⟩ := sell_applied S ord db
  rw [hres]
  cases hout with
  | unknownUser hu => exact h
  | refused u hu hl => exact h
  | unmatched u hu hl hm res hins =>
    exact h.inserted hu ((fits_sell_iff.mp hfits u hu hl).1 hm) hins
  | unfillable u m hu hl hm hv => exact h
  | matched u v m hl hm hf res hset =>
    obtain ⟨⟨-, -, ⟨hgive, hcredit⟩, hdebit, htake⟩, hrest⟩ :=
      (fits_sell_iff.mp hfits u hf.taker hl).2 m hm v hf
    have htaker : (sellTaker u ord m).FitsInt :=
      fitsInt_creditOMG (fitsInt_addItem (h.user hf.taker) hgive) hcredit
    have hmaker : (sellMaker ord m v).FitsInt :=
      fitsInt_addItem (fitsInt_debitOMG (h.user hf.maker) hdebit) htake
    exact h.settled hf (sellTaker_sameAccount u ord m) (sellMaker_sameAccount ord m v) htaker hmaker
      hrest hset

theorem cancelled {orderID currentUserID : Int}
    (hfits : (Op.cancelOrder orderID currentUserID).Fits S db) :
    (apply S (.cancelOrder orderID currentUserID) db).FitsInt := by
  obtain ⟨res, hout, hres⟩ := cancelOrder_applied S orderID currentUserID db
  rw [hres]
  cases hout with
  | unknownOrder hr => exact h
  | unauthorized r hr hown => exact h
  | unknownUser r hr hown hu => exact h
  | cancelled r u hr hown hu =>
    have hrefund := fitsInt_refundBalance (h.user hu) (fits_cancelOrder_iff.mp hfits r hr hown u hu)
    exact h.setBalance hu (refundBalance_sameAccount u r) hrefund

-- whatever fits at each step stays within int in every balance
theorem applied {op : Op D} (hfits : op.Fits S db) (hgrant : op.GrantsFit) :
    (apply S op db).FitsInt := by
  cases op with
  | register newUser =>
    rw [apply_register]
    split
    · exact h
    · intro w hw
      rcases Database.mem_users_addUser.mp hw with hw | rfl
      · exact h w hw
      · intro c
        have hc := hgrant c
        cases c <;> exact hc
  | buy ord => exact h.bought hfits
  | sell ord => exact h.sold hfits
  | cancelOrder orderID currentUserID => exact h.cancelled hfits
  | elapse seconds => exact h

omit h in
omit [CDouble D] in
theorem empty : (Database.empty : Database D).FitsInt := by
  intro u hu
  cases hu

omit h in
theorem final {ops : List (Op D)} (hfits : Along (apply S) (Op.Fits S) ops db)
    (hgrants : ∀ op ∈ ops, op.GrantsFit) (h : db.FitsInt) :
    (Runs.final (apply S) ops db).FitsInt := by
  have hall : Along (apply S) (fun op _ => op.GrantsFit) ops db :=
    along_of_forall (fun op hop _ => hgrants op hop) _
  exact invariant_along (fun op db hop h => h.applied hop.1 hop.2) (along_and hfits hall) h

end Database.FitsInt

end Balances

end Marketplace
