import Marketplace.Market.IntResults

namespace Marketplace
open CallTree KeyedTable Truncation Runs

def granted (c : Coin) : Op ℚ → Database ℚ → Int
  | .register newUser, db => if db.taken newUser.username then 0 else newUser.balance c
  | _, _ => 0

def RefundExact (u : User) (r : Order ℚ) : Prop :=
  if r.buyOrSell = BUY then r.total.den = 1 ∨ 0 < r.total * (u.OMG + r.total)
  else r.buyOrSell = SELL ∨ r.quantity = 0 ∨ r.item ∉ [COIN_OMG, COIN_DOGE, COIN_BTC, COIN_ETH]

def PaidOnce (S : CreatedAtSort ℚ) : Op ℚ → Database ℚ → Prop
  | .buy ord, db => ∀ u ∈ db.user ord.userID, CDouble.lt (CDouble.ofInt u.OMG) ord.total = false →
      ∀ m ∈ matchSell S db ord, transactionQuantity ord m = 0
  | .sell ord, db => ∀ u ∈ db.user ord.userID, insufficientHolding u ord = false →
      ∀ m ∈ matchBuy S db ord, transactionCost ord m = 0
  | .cancelOrder orderID currentUserID, db => ∀ r ∈ db.order orderID, r.userID = currentUserID →
      ∀ u ∈ db.user currentUserID, RefundExact u r
  | _, _ => True

instance (u : User) (r : Order ℚ) : Decidable (RefundExact u r) := by
  unfold RefundExact
  infer_instance

instance decidablePaidOnce (S : CreatedAtSort ℚ) :
    ∀ (op : Op ℚ) (db : Database ℚ), Decidable (PaidOnce S op db)
  | .buy ord, db => inferInstanceAs (Decidable (∀ u ∈ db.user ord.userID, _ → ∀ m ∈ _, _))
  | .sell ord, db => inferInstanceAs (Decidable (∀ u ∈ db.user ord.userID, _ → ∀ m ∈ _, _))
  | .cancelOrder orderID _, db =>
    inferInstanceAs (Decidable (∀ r ∈ db.order orderID, _ → ∀ u ∈ _, RefundExact u r))
  | .register _, _ => inferInstanceAs (Decidable True)
  | .elapse _, _ => inferInstanceAs (Decidable True)

section Fills

variable {db : Database ℚ} {ord m : Order ℚ} {u v : User}

theorem balance_creditOMG_zero (u : User) (c : Coin) :
    (u.creditOMG (0 : ℚ)).balance c = u.balance c := by
  rw [balance_creditOMG]
  split
  · next h => simp [h, User.balance]
  · rfl

theorem balance_debitOMG_zero (u : User) (c : Coin) :
    (u.debitOMG (0 : ℚ)).balance c = u.balance c := by
  rw [balance_debitOMG]
  split
  · next h => simp [h, User.balance]
  · rfl

theorem supply_buy_fill (hf : Fillable db ord m u v) (h : transactionQuantity ord m = 0) (c : Coin) :
    supply c (db.fill ord m (buyTaker u ord m) (buyMaker ord m v)) = supply c db := by
  have hcost : transactionCost ord m = 0 := by
    rw [transactionCost_eq, h, Int.cast_zero, zero_mul]
  have htaker : (buyTaker u ord m).balance c = u.balance c := by
    rw [buyTaker, balance_addItem, hcost, balance_debitOMG_zero, h, ite_self, add_zero]
  have hmaker : (buyMaker ord m v).balance c = v.balance c := by
    rw [buyMaker, balance_addItem, hcost, balance_creditOMG_zero, h, neg_zero, ite_self, add_zero]
  have hrow : m.reduce 0 = m := by simp [Order.reduce]
  rw [supply_fill hf (buyTaker_sameAccount u ord m) (buyMaker_sameAccount ord m v), htaker, hmaker,
    h, hrow]
  omega

theorem withheld_reduce_free (hb : m.buyOrSell = BUY) (h : transactionCost ord m = 0) (c : Coin) :
    withheld c (m.reduce (transactionQuantity ord m)) = withheld c m := by
  have htotal : (m.reduce (transactionQuantity ord m)).total = m.total := by
    rw [transactionCost_eq] at h
    simp only [Order.total, quantity_reduce, unitPrice_reduce, CDouble.rat_mul, CDouble.rat_ofInt,
      Int.cast_sub, sub_mul, h, sub_zero]
  have hb' : (m.reduce (transactionQuantity ord m)).buyOrSell = BUY := hb
  rw [withheld_buy hb, withheld_buy hb', htotal]

theorem supply_sell_fill (hf : Fillable db ord m u v) (hb : m.buyOrSell = BUY)
    (hitem : ord.item = m.item) (h : transactionCost ord m = 0) (c : Coin) :
    supply c (db.fill ord m (sellTaker u ord m) (sellMaker ord m v)) = supply c db := by
  have htaker : (sellTaker u ord m).balance c = u.balance c -
      if m.item = c.code then transactionQuantity ord m else 0 := by
    rw [sellTaker, h, balance_creditOMG_zero, balance_addItem, hitem]
    split <;> omega
  have hmaker : (sellMaker ord m v).balance c = v.balance c +
      if m.item = c.code then transactionQuantity ord m else 0 := by
    rw [sellMaker, balance_addItem, h, balance_debitOMG_zero]
  rw [supply_fill hf (sellTaker_sameAccount u ord m) (sellMaker_sameAccount ord m v), htaker, hmaker,
    withheld_reduce_free hb h]
  omega

end Fills

section Cancel

variable {db : Database ℚ} {u : User} {r : Order ℚ}

theorem balance_refund (h : RefundExact u r) (c : Coin) :
    (refundBalance u r).balance c = u.balance c + withheld c r := by
  unfold RefundExact at h
  unfold refundBalance
  by_cases hb : r.buyOrSell = BUY
  · have h0 : r.buyOrSell = 0 := hb
    rw [if_pos hb] at h
    rw [if_pos h0, balance_creditOMG, withheld_buy hb]
    have hround : trunc (u.OMG + r.total) = u.OMG + trunc r.total := by
      refine (trunc_int_add_iff u.OMG r.total).mpr (h.imp_left (fun hden => ?_))
      exact ⟨r.total.num, (Rat.den_eq_one_iff _).mp hden |>.symm⟩
    split
    · next hc => simpa [hc, User.balance] using hround
    · rw [add_zero]
  · have h0 : ¬ r.buyOrSell = 0 := hb
    rw [if_neg hb] at h
    rw [if_neg h0, balance_addItem]
    by_cases hs : r.buyOrSell = SELL
    · rw [withheld_sell hs]
    · rw [withheld_neither hb hs]
      rcases h with h | h | h
      · exact absurd h hs
      · rw [h, ite_self]
      · have hc : r.item ≠ c.code := by
          rintro hc
          apply h
          rw [hc]
          cases c <;> decide
        rw [if_neg hc]

theorem supply_cancel {id : Int} (hr : db.order id = some r) (hu : db.user r.userID = some u)
    (h : RefundExact u r) (c : Coin) :
    supply c ((db.setBalance (refundBalance u r)).deleteOrderRow id) = supply c db := by
  have husers := Database.total_users_setBalance (User.balance · c) hu (refundBalance_sameAccount u r)
  have horders : (db.orders.erase id).total (withheld c) = db.orders.total (withheld c) - withheld c r :=
    Table.total_erase db.orders (withheld c) hr
  have hsum : supply c ((db.setBalance (refundBalance u r)).deleteOrderRow id) =
      (db.setBalance (refundBalance u r)).users.total (User.balance · c) +
        (db.orders.erase id).total (withheld c) := rfl
  rw [hsum, husers, horders, balance_refund h, supply]
  omega

end Cancel

variable (S : CreatedAtSort ℚ)

theorem supply_apply_buy {ord : Order ℚ} {db : Database ℚ} (h : PaidOnce S (.buy ord) db) (c : Coin) :
    supply c (apply S (.buy ord) db) = supply c db := by
  obtain ⟨res, hout, hres⟩ := buy_applied S ord db
  rw [hres]
  cases hout with
  | unknownUser hu => rfl
  | refused u hu hl => rfl
  | unmatched u hu hl hm _ hins => exact supply_insertOutcome hu hins c
  | unfillable u m hu hl hm hv => rfl
  | matched u v m hl hm hf _ hset =>
    rw [supply_settleOutcome hf (buyTaker_sameAccount u ord m) (buyMaker_sameAccount ord m v) hset]
    exact supply_buy_fill hf (h u hf.taker hl m hm) c

theorem supply_apply_sell {ord : Order ℚ} {db : Database ℚ} (h : PaidOnce S (.sell ord) db) (c : Coin) :
    supply c (apply S (.sell ord) db) = supply c db := by
  obtain ⟨res, hout, hres⟩ := sell_applied S ord db
  rw [hres]
  cases hout with
  | unknownUser hu => rfl
  | refused u hu hl => rfl
  | unmatched u hu hl hm _ hins => exact supply_insertOutcome hu hins c
  | unfillable u m hu hl hm hv => rfl
  | matched u v m hl hm hf _ hset =>
    obtain ⟨-, hans⟩ := matchBuy_some hm
    obtain ⟨hitem, hb, -⟩ := answersBuy_iff.mp hans
    rw [supply_settleOutcome hf (sellTaker_sameAccount u ord m) (sellMaker_sameAccount ord m v) hset]
    exact supply_sell_fill hf hb hitem (h u hf.taker hl m hm) c

theorem supply_apply_cancelOrder {orderID currentUserID : Int} {db : Database ℚ}
    (h : PaidOnce S (.cancelOrder orderID currentUserID) db) (c : Coin) :
    supply c (apply S (.cancelOrder orderID currentUserID) db) = supply c db := by
  obtain ⟨res, hout, hres⟩ := cancelOrder_applied S orderID currentUserID db
  rw [hres]
  cases hout with
  | unknownOrder hr => rfl
  | unauthorized r hr hown => rfl
  | unknownUser r hr hown hu => rfl
  | cancelled r u hr hown hu => exact supply_cancel hr (hown ▸ hu) (h r hr hown u hu) c

theorem supply_apply {op : Op ℚ} {db : Database ℚ} (h : PaidOnce S op db) (c : Coin) :
    supply c (apply S op db) = supply c db + granted c op db := by
  cases op with
  | register newUser =>
    rw [apply_register, granted]
    split
    · rw [add_zero]
    · exact supply_addUser db newUser c
  | buy ord => exact (supply_apply_buy S h c).trans (add_zero _).symm
  | sell ord => exact (supply_apply_sell S h c).trans (add_zero _).symm
  | cancelOrder orderID currentUserID =>
    exact (supply_apply_cancelOrder S h c).trans (add_zero _).symm
  | elapse seconds => exact (add_zero _).symm

theorem supply_conserved (ops : List (Op ℚ))
    (h : Along (apply S) (fun op db => PaidOnce S op db ∧ op.Fits S db) ops Database.empty)
    (c : Coin) :
    supply c (final (apply S) ops Database.empty) =
      summed (apply S) (granted c) ops Database.empty := by
  have hrun := measure_final (I := fun _ => True) (fun _ _ _ _ => trivial)
    (fun op db hop _ => supply_apply S hop.1 c) h trivial
  have hempty : supply c (Database.empty : Database ℚ) = 0 := rfl
  rw [hrun, hempty, zero_add]

def fullFill : List (Op ℚ) :=
  [.register (newUser ['a'] ['p'] ['A']), .register (newUser ['b'] ['p'] ['B']),
    .sell (createOrder COIN_DOGE SELL 10 1 1), .buy (createOrder COIN_DOGE BUY 10 1 2)]

theorem supply_not_conserved :
    ¬ ∀ (S : CreatedAtSort ℚ) (ops : List (Op ℚ)) (c : Coin),
      supply c (final (apply S) ops Database.empty) =
        summed (apply S) (granted c) ops Database.empty := by
  intro h
  have hdoge := h (.stable ℚ) fullFill .doge
  revert hdoge
  decide +kernel

def postAndCancel : List (Op ℚ) :=
  [.register (newUser ['a'] ['p'] ['A']), .register (newUser ['b'] ['p'] ['B']),
    .buy (createOrder COIN_DOGE BUY 3 (5 / 2) 1), .sell (createOrder COIN_DOGE SELL 4 3 2),
    .cancelOrder 2 2]

theorem supply_conserved_postAndCancel :
    supply .omg (final (apply (.stable ℚ)) postAndCancel Database.empty) =
      summed (apply (.stable ℚ)) (granted .omg) postAndCancel Database.empty :=
  supply_conserved (.stable ℚ) postAndCancel (by decide +kernel) .omg

end Marketplace
