import Marketplace.Market.Crossing
import Marketplace.Market.Effects
import Marketplace.Market.IntResults

namespace Marketplace
open CallTree KeyedTable Truncation Runs

variable (S : CreatedAtSort ℚ)

structure LeftResting (op : Op ℚ) (ord : Order ℚ) (later : List (Op ℚ)) (db : Database ℚ) : Prop where
  posts : op = .buy ord ∨ op = .sell ord
  sided : op.Sided
  price : 0 ≤ ord.unitPrice
  unmatched : matched S op db = none
  rested : ((apply S op db).order (db.orders.seq + 1)).isSome
  untouched : Along (apply S) (fun a w => ∀ m ∈ matched S a w, m.orderID ≠ db.orders.seq + 1) later
    (apply S op db)
  resting : ((final (apply S) later (apply S op db)).order (db.orders.seq + 1)).isSome

def CancelGivesBack (op : Op ℚ) (ord : Order ℚ) (later : List (Op ℚ)) (db : Database ℚ) : Prop :=
  let left := final (apply S) later (apply S op db)
  let res := (cancelOrder (db.orders.seq + 1) ord.userID).run (perform S) left
  (Op.cancelOrder (db.orders.seq + 1) ord.userID).Fits S left ∧ res.1 = 0 ∧ res.2.order (db.orders.seq + 1) = none ∧
    ∀ c, balanceOf ord.userID c res.2 - balanceOf ord.userID c left =
      balanceOf ord.userID c db - balanceOf ord.userID c (apply S op db)

variable {S} {op : Op ℚ} {ord : Order ℚ} {later : List (Op ℚ)} {db : Database ℚ} {u : User}

theorem posted_of_rested (hop : op = .buy ord ∨ op = .sell ord) (hm : matched S op db = none)
    (hr : ((apply S op db).order (db.orders.seq + 1)).isSome) :
    ∃ u, db.user ord.userID = some u ∧ insufficientBalance u ord = false ∧
      apply S op db = (db.place ord).setBalance (withholdBalance u ord) := by
  have hs : settles S op db = none := by simp [settles, hm]
  have hfresh : db.order (db.orders.seq + 1) = none :=
    Table.find_fresh db.orders (Int.lt_succ db.orders.seq)
  have heff := apply_effect S op db
  generalize apply S op db = db' at heff hr
  cases heff with
  | unchanged _ => simp [hfresh] at hr
  | registered newUser h =>
    subst h
    rcases hop with h | h <;> cases h
  | elapsed seconds h =>
    subst h
    rcases hop with h | h <;> cases h
  | posted ord' u _ hop' hu hi hn =>
    have hord : ord' = ord := by
      rcases hop with rfl | rfl
      · rcases hop' with h | h <;> cases h
        rfl
      · rcases hop' with h | h <;> cases h
        rfl
    subst hord
    exact ⟨u, hu, hi, rfl⟩
  | filled ord' m u v taker maker hs' h => cases hs.symm.trans hs'
  | filledAndPosted ord' m u v taker maker hs' h hq hi => cases hs.symm.trans hs'
  | cancelled orderID currentUserID r u h hr' hown hu =>
    subst h
    rcases hop with h | h <;> cases h

theorem order_left {id : Int} {r : Order ℚ} (hr : db.order id = some r)
    (hlater : Along (apply S) (fun a w => ∀ m ∈ matched S a w, m.orderID ≠ id) later db)
    (hrest : ((final (apply S) later db).order id).isSome) :
    (final (apply S) later db).order id = some r := by
  have hkept : id ≤ (final (apply S) later db).orders.seq ∧
      ((final (apply S) later db).order id = some r ∨ (final (apply S) later db).order id = none) := by
    refine invariant_along (I := fun w => id ≤ w.orders.seq ∧ (w.order id = some r ∨ w.order id = none))
      ?_ hlater ⟨order_id_le hr, .inl hr⟩
    rintro a w hm ⟨hid, hw⟩
    obtain ⟨hid', hsame | hnone⟩ := order_kept (apply_effect S a w) hid hm
    · exact ⟨hid', hsame ▸ hw⟩
    · exact ⟨hid', .inr hnone⟩
  rcases hkept.2 with h | h
  · exact h
  · simp [h] at hrest

theorem account_left (S : CreatedAtSort ℚ) (later : List (Op ℚ)) {id : Int}
    (hu : db.user id = some u) : ∃ v, (final (apply S) later db).user id = some v := by
  have hall : Along (apply S) (fun _ _ => True) later db := along_of_forall (fun _ _ _ => trivial) _
  refine invariant_along (I := fun w => ∃ v, w.user id = some v) ?_ hall ⟨u, hu⟩
  rintro a w - ⟨v, hv⟩
  obtain ⟨v', hv', -⟩ := account_kept (apply_effect S a w) hv
  exact ⟨v', hv'⟩

theorem LeftResting.order_sided (h : LeftResting S op ord later db) :
    (ord.buyOrSell = BUY ∨ ord.buyOrSell = SELL) ∧ 0 < ord.quantity := by
  have hsided := h.sided
  rcases h.posts with rfl | rfl
  · exact ⟨.inl hsided.1, hsided.2⟩
  · exact ⟨.inr hsided.1, hsided.2⟩

theorem run_cancelOrder_own {D : Type} [CDouble D] {S : CreatedAtSort D} {db : Database D}
    {r : Order D} {orderID : Int} (hr : db.order orderID = some r) (hu : db.user r.userID = some u) :
    (cancelOrder orderID r.userID).run (perform S) db =
      (0, (db.setBalance (refundBalance u r)).deleteOrderRow orderID) := by
  have hout : CancelOutcome db orderID r.userID ((cancelOrder orderID r.userID).run (perform S) db) :=
    cancelOrder_outcome _ _
  generalize (cancelOrder orderID r.userID).run (perform S) db = res at hout
  cases hout with
  | unknownOrder hr' => cases hr.symm.trans hr'
  | unauthorized r' hr' hown =>
    cases hr.symm.trans hr'
    exact absurd rfl hown
  | unknownUser r' hr' hown hu' => cases hu.symm.trans hu'
  | cancelled r' u' hr' hown hu' =>
    cases hr.symm.trans hr'
    cases hu.symm.trans hu'
    rfl

section Amounts

variable {r : Order ℚ}

theorem lowered_by_posting (hu : db.user ord.userID = some u) (hi : insufficientBalance u ord = false)
    (c : Coin) : balanceOf ord.userID c db -
      balanceOf ord.userID c ((db.place ord).setBalance (withholdBalance u ord)) = withheld c ord := by
  have hplaced : (db.place ord).user ord.userID = some u := hu
  have hafter := Database.user_setBalance_self hplaced (withholdBalance_sameAccount u ord)
  simp only [balanceOf, hu, hafter, Option.elim_some, balance_withholdBalance hi]
  omega

theorem raised_by_refund {id : Int} (hu : db.user ord.userID = some u) (c : Coin) :
    balanceOf ord.userID c ((db.setBalance (refundBalance u r)).deleteOrderRow id) -
      balanceOf ord.userID c db = (refundBalance u r).balance c - u.balance c := by
  have hafter : ((db.setBalance (refundBalance u r)).deleteOrderRow id).user ord.userID =
      some (refundBalance u r) :=
    Database.user_setBalance_self hu (refundBalance_sameAccount u r)
  simp only [balanceOf, hu, hafter, Option.elim_some]

theorem refund_sell (h : r.buyOrSell = SELL) (c : Coin) :
    (refundBalance u r).balance c - u.balance c = withheld c r := by
  have h0 : ¬ r.buyOrSell = 0 := by
    rw [h]
    decide
  rw [refundBalance, if_neg h0, balance_addItem, withheld_sell h]
  omega

theorem refund_buy_iff (h : r.buyOrSell = BUY) :
    (∀ c, (refundBalance u r).balance c - u.balance c = withheld c r) ↔
      r.total.den = 1 ∨ 0 < r.total * (u.OMG + r.total) := by
  have h0 : r.buyOrSell = 0 := h
  have hround : trunc (u.OMG + r.total) = u.OMG + trunc r.total ↔
      r.total.den = 1 ∨ 0 < r.total * (u.OMG + r.total) := by
    rw [trunc_int_add_iff, Rat.den_eq_one_iff]
    refine or_congr_left ⟨?_, fun hden => ⟨r.total.num, hden.symm⟩⟩
    rintro ⟨n, hn⟩
    rw [hn, Rat.num_intCast]
  rw [← hround]
  constructor
  · intro hall
    have homg := hall .omg
    rw [refundBalance, if_pos h0, balance_creditOMG, withheld_buy h] at homg
    simp only [if_true, CDouble.rat_toInt, CDouble.rat_add, CDouble.rat_ofInt, User.balance] at homg
    omega
  · intro htrunc c
    rw [refundBalance, if_pos h0, balance_creditOMG, withheld_buy h]
    split
    · next hc =>
      simp only [hc, CDouble.rat_toInt, CDouble.rat_add, CDouble.rat_ofInt, User.balance, htrunc]
      omega
    · exact sub_self _

theorem refundFits_sell_iff (hu : u.FitsInt) (hq : 0 < r.quantity) (h : r.buyOrSell = SELL) :
    RefundFits u r ↔ ∀ c : Coin, r.item = c.code → u.balance c + r.quantity ≤ INT_MAX := by
  have hne : r.buyOrSell ≠ BUY := by
    rw [h]
    decide
  constructor
  · intro hfits c hc
    exact (hfits.sell hne c hc).2
  · intro hmax
    refine ⟨fun hb => absurd hb hne, fun _ c hc => ⟨?_, hmax c hc⟩⟩
    have hlow := (hu c).1
    omega

theorem refundFits_buy_iff (hu : u.FitsInt) (ht : 0 ≤ r.total) (h : r.buyOrSell = BUY) :
    RefundFits u r ↔ u.OMG + r.total < INT_MAX + 1 := by
  have hlow : INT_MIN ≤ trunc (u.OMG + r.total) := (hu .omg).1.trans (le_trunc_add ht)
  have hconversion : ConversionFits (CDouble.add (CDouble.ofInt u.OMG) r.total) ↔
      Int32 (trunc (u.OMG + r.total)) := by
    simp [ConversionFits]
  rw [← trunc_le_nonneg_iff (by decide)]
  constructor
  · intro hfits
    exact (hconversion.mp (hfits.buy h)).2
  · intro hmax
    exact ⟨fun _ => hconversion.mpr ⟨hlow, hmax⟩, fun hne => absurd h hne⟩

theorem refund_iff (hside : r.buyOrSell = BUY ∨ r.buyOrSell = SELL) (ht : 0 ≤ r.total)
    (hq : 0 < r.quantity) (hu : u.FitsInt) :
    (RefundFits u r ∧ ∀ c, (refundBalance u r).balance c - u.balance c = withheld c r) ↔
      (r.buyOrSell = SELL ∧ ∀ c : Coin, r.item = c.code → u.balance c + r.quantity ≤ INT_MAX) ∨
        (r.buyOrSell = BUY ∧ u.OMG + r.total < INT_MAX + 1 ∧
          (r.total.den = 1 ∨ 0 < u.OMG + r.total)) := by
  rcases hside with h | h
  · have hne : ¬ r.buyOrSell = SELL := by
      rw [h]
      decide
    rw [refundFits_buy_iff hu ht h, refund_buy_iff h]
    refine Iff.trans ?_ (or_iff_right (fun hs => hne hs.1)).symm
    rw [and_iff_right h]
    refine and_congr_right (fun _ => or_congr_right' (fun hden => ?_))
    have hpos : 0 < r.total := by
      refine lt_of_le_of_ne ht (fun h0 => hden ?_)
      rw [← h0]
      rfl
    exact mul_pos_iff_of_pos_left hpos
  · have hne : ¬ r.buyOrSell = BUY := by
      rw [h]
      decide
    rw [refundFits_sell_iff hu hq h]
    refine Iff.trans ?_ (or_iff_left (fun hb => hne hb.1)).symm
    rw [and_iff_right h]
    exact and_iff_left (refund_sell h)

end Amounts

theorem cancel_gives_back_iff (S : CreatedAtSort ℚ) (ops later : List (Op ℚ)) (op : Op ℚ)
    (ord : Order ℚ) (h : LeftResting S op ord later (final (apply S) ops Database.empty))
    (hgrants : ∀ a ∈ ops ++ op :: later, a.GrantsFit)
    (hfits : Along (apply S) (Op.Fits S) (ops ++ op :: later) Database.empty) :
    CancelGivesBack S op ord later (final (apply S) ops Database.empty) ↔
      (ord.buyOrSell = SELL ∧ ∀ c : Coin, ord.item = c.code →
        balanceOf ord.userID c (final (apply S) (ops ++ op :: later) Database.empty) +
          ord.quantity ≤ INT_MAX) ∨
      (ord.buyOrSell = BUY ∧
        balanceOf ord.userID .omg (final (apply S) (ops ++ op :: later) Database.empty) +
          ord.total < INT_MAX + 1 ∧
        (ord.total.den = 1 ∨
          0 < balanceOf ord.userID .omg (final (apply S) (ops ++ op :: later) Database.empty) +
            ord.total)) := by
  have hint := Database.FitsInt.final hfits hgrants Database.FitsInt.empty
  rw [final_append, final_cons] at hint ⊢
  generalize final (apply S) ops Database.empty = db at h hint ⊢
  obtain ⟨u, hu, hi, hpost⟩ := posted_of_rested h.posts h.unmatched h.rested
  have hplaced : (apply S op db).order (db.orders.seq + 1) = some (db.placed ord) := by
    rw [hpost]
    exact (order_place db ord _).trans (if_pos rfl)
  have hleft := order_left hplaced h.untouched h.resting
  obtain ⟨w, hw, -⟩ := account_kept (apply_effect S op db) hu
  obtain ⟨v, hv⟩ := account_left S later hw
  obtain ⟨hside, hq⟩ := h.order_sided
  have htotal : 0 ≤ (db.placed ord).total := by
    have hq' : (0 : ℚ) ≤ ord.quantity := by exact_mod_cast hq.le
    exact mul_nonneg hq' h.price
  have hrun : (cancelOrder (db.orders.seq + 1) ord.userID).run (perform S)
      (final (apply S) later (apply S op db)) =
      (0, ((final (apply S) later (apply S op db)).setBalance
        (refundBalance v (db.placed ord))).deleteOrderRow (db.orders.seq + 1)) :=
    run_cancelOrder_own (r := db.placed ord) hleft hv
  have hgone : (((final (apply S) later (apply S op db)).setBalance
      (refundBalance v (db.placed ord))).deleteOrderRow (db.orders.seq + 1)).order
        (db.orders.seq + 1) = none :=
    (Table.find_erase _ _ _).trans (if_pos rfl)
  have hcancel : (Op.cancelOrder (db.orders.seq + 1) ord.userID).Fits S
      (final (apply S) later (apply S op db)) ↔ RefundFits v (db.placed ord) := by
    have hown : (db.placed ord).userID = ord.userID := rfl
    rw [fits_cancelOrder_iff, hleft, hv]
    simp [hown]
  have hamounts : CancelGivesBack S op ord later db ↔ RefundFits v (db.placed ord) ∧
      ∀ c, (refundBalance v (db.placed ord)).balance c - v.balance c = withheld c (db.placed ord) := by
    simp only [CancelGivesBack, hcancel, hrun, hgone, true_and]
    refine and_congr_right (fun _ => forall_congr' (fun c => ?_))
    rw [raised_by_refund hv, hpost, lowered_by_posting hu hi]
    rfl
  have hbalance (c : Coin) :
      balanceOf ord.userID c (final (apply S) later (apply S op db)) = v.balance c := by
    simp [balanceOf, hv]
  simp only [hbalance]
  rw [hamounts, refund_iff (r := db.placed ord) hside htotal hq (hint.user hv)]
  rfl

def overdrawnLater : List (Op ℚ) :=
  [.buy (createOrder COIN_DOGE BUY 99 100 1), .sell (createOrder COIN_DOGE SELL 99 100 2)]

def twoUsersRegister : List (Op ℚ) :=
  [.register (newUser ['a'] ['p'] ['A']), .register (newUser ['b'] ['p'] ['B'])]

theorem cancel_overpays :
    ¬ ∀ (S : CreatedAtSort ℚ) (ops later : List (Op ℚ)) (op : Op ℚ) (ord : Order ℚ),
      LeftResting S op ord later (final (apply S) ops Database.empty) →
        CancelGivesBack S op ord later (final (apply S) ops Database.empty) := by
  intro h
  have hback := h (.stable ℚ) twoUsersRegister overdrawnLater
    (.buy (createOrder COIN_DOGE BUY 3 (1 / 2) 1)) (createOrder COIN_DOGE BUY 3 (1 / 2) 1)
    ⟨.inl rfl, by decide +kernel, by decide +kernel, by decide +kernel, by decide +kernel,
      by decide +kernel, by decide +kernel⟩
  have homg := hback.2.2.2 .omg
  revert homg
  decide +kernel

theorem cancel_gives_back_fractional :
    CancelGivesBack (.stable ℚ) (.buy (createOrder COIN_DOGE BUY 3 (1 / 2) 1))
      (createOrder COIN_DOGE BUY 3 (1 / 2) 1) [.elapse 5] (final (apply (.stable ℚ)) twoUsersRegister
        Database.empty) :=
  (cancel_gives_back_iff (.stable ℚ) twoUsersRegister [.elapse 5]
    (.buy (createOrder COIN_DOGE BUY 3 (1 / 2) 1)) (createOrder COIN_DOGE BUY 3 (1 / 2) 1)
    ⟨.inl rfl, by decide +kernel, by decide +kernel, by decide +kernel, by decide +kernel,
      by decide +kernel, by decide +kernel⟩ (by decide +kernel) (by decide +kernel)).mpr
    (by decide +kernel)

end Marketplace
