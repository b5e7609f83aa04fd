import Marketplace.Market.Coins
import Marketplace.Market.Effects

namespace Marketplace
open CallTree KeyedTable Truncation Runs

def withheldSince (id : Int) (before after : Database ℚ) : Int :=
  after.orders.total (fun r =>
    if before.orders.seq < r.orderID ∧ r.userID = id then withheld .omg r else 0)

def omgGained (id : Int) (before after : Database ℚ) : Int :=
  balanceOf id .omg after + withheldSince id before after - balanceOf id .omg before

def tradedOMG (ord m : Order ℚ) : Int :=
  if m.item = COIN_OMG then transactionQuantity ord m else 0

def omgPaid (op : Op ℚ) (ord m : Order ℚ) (before after : Database ℚ) : Int :=
  tradedOMG ord m - omgGained (buyerID op ord m) before after

def omgReceived (op : Op ℚ) (ord m : Order ℚ) (before after : Database ℚ) : Int :=
  omgGained (sellerID op ord m) before after + tradedOMG ord m

section Gains

variable {db : Database ℚ} {ord m : Order ℚ} {u v taker maker : User} {id : Int}

theorem withheldSince_fill (hrow : db.order m.orderID = some m) :
    withheldSince id db (db.fill ord m taker maker) = 0 := by
  have hold : ∀ r ∈ (db.fill ord m taker maker).orders.rows,
      (if db.orders.seq < r.orderID ∧ r.userID = id then withheld .omg r else 0) = 0 := by
    intro r hr
    obtain ⟨r', hr', hid, -⟩ := row_of_fill hrow hr
    have hle := db.orders.bounded r' hr'
    rw [if_neg (by omega)]
  exact (Table.total_congr hold).trans (List.sum_map_zero)

theorem withheldSince_place (w : User) (hrow : db.order m.orderID = some m) :
    withheldSince id db (((db.fill ord m taker maker).place (remainder db ord m)).setBalance w) =
      if ord.userID = id then withheld .omg (remainder db ord m) else 0 := by
  have hnew : db.orders.seq <
      ((db.fill ord m taker maker).placed (remainder db ord m)).orderID := by
    change db.orders.seq < (db.fill ord m taker maker).orders.seq + 1
    rw [seq_fill]
    omega
  rw [withheldSince, Database.orders_setBalance, Database.total_orders_place, ← withheldSince,
    withheldSince_fill hrow, zero_add]
  simp only [hnew, true_and]
  rfl

theorem omgGained_fill {w : User} (hu : db.user id = some u)
    (hw : (db.fill ord m taker maker).user id = some w) (hrow : db.order m.orderID = some m) :
    omgGained id db (db.fill ord m taker maker) = w.OMG - u.OMG := by
  simp [omgGained, balanceOf, hu, hw, withheldSince_fill hrow, User.balance]

theorem omgGained_taker (hf : Fillable db ord m u v) (ht : taker.SameAccount u)
    (hm : maker.SameAccount v) (hi : insufficientBalance taker (remainder db ord m) = false) :
    omgGained ord.userID db (((db.fill ord m taker maker).place (remainder db ord m)).setBalance
      (withholdBalance taker (remainder db ord m))) = taker.OMG - u.OMG := by
  have hrest : ((db.fill ord m taker maker).place (remainder db ord m)).user ord.userID = some taker :=
    hf.user_taker ht hm
  have hafter := Database.user_setBalance_self hrest
    (withholdBalance_sameAccount taker (remainder db ord m))
  have hbal := balance_withholdBalance hi .omg
  simp only [omgGained, balanceOf, hf.taker, hafter, withheldSince_place _ hf.row, Option.elim_some,
    if_true, hbal]
  simp [User.balance]

theorem omgGained_maker (hf : Fillable db ord m u v) (ht : taker.SameAccount u)
    (hm : maker.SameAccount v) :
    omgGained m.userID db (((db.fill ord m taker maker).place (remainder db ord m)).setBalance
      (withholdBalance taker (remainder db ord m))) = maker.OMG - v.OMG := by
  have hrest : ((db.fill ord m taker maker).place (remainder db ord m)).user m.userID = some maker :=
    hf.user_maker ht hm
  have hne : m.userID ≠ (withholdBalance taker (remainder db ord m)).userID := by
    rw [(withholdBalance_sameAccount taker (remainder db ord m)).1, ht.1,
      Database.user_userID hf.taker]
    exact hf.other
  have hafter := (Database.user_setBalance_other hne).trans hrest
  simp [omgGained, balanceOf, hf.maker, hafter, withheldSince_place _ hf.row, hf.other.symm,
    User.balance]

end Gains

section Amounts

variable {S : CreatedAtSort ℚ} {op : Op ℚ} {db : Database ℚ} {ord m : Order ℚ} {u v taker maker : User}

theorem gains_of_settles (hs : settles S op db = some (ord, m)) :
    ∃ u v taker maker, Settlement db ord m u v op taker maker ∧
      omgGained ord.userID db (apply S op db) = taker.OMG - u.OMG ∧
      omgGained m.userID db (apply S op db) = maker.OMG - v.OMG := by
  have heff := apply_effect S op db
  generalize apply S op db = db' at heff ⊢
  cases heff with
  | unchanged hs' => cases hs'.symm.trans hs
  | registered newUser hop =>
    subst hop
    cases hs
  | elapsed seconds hop =>
    subst hop
    cases hs
  | posted ord' u hs' hop hu hi hn => cases hs'.symm.trans hs
  | filled ord' m' u v taker maker hs' h =>
    cases hs'.symm.trans hs
    have hf := h.fillable
    exact ⟨u, v, taker, maker, h,
      omgGained_fill hf.taker (hf.user_taker h.taker_sameAccount h.maker_sameAccount) hf.row,
      omgGained_fill hf.maker (hf.user_maker h.taker_sameAccount h.maker_sameAccount) hf.row⟩
  | filledAndPosted ord' m' u v taker maker hs' h hq hi =>
    cases hs'.symm.trans hs
    have hf := h.fillable
    exact ⟨u, v, taker, maker, h, omgGained_taker hf h.taker_sameAccount h.maker_sameAccount hi,
      omgGained_maker hf h.taker_sameAccount h.maker_sameAccount⟩
  | cancelled orderID currentUserID r u hop hr hown hu =>
    subst hop
    cases hs

theorem trunc_debit {z : Int} {q : ℚ} (h : q ≤ z) : trunc (z - q) = z - ⌈q⌉ := by
  rw [trunc_of_nonneg (sub_nonneg.mpr h), sub_eq_add_neg, Int.floor_intCast_add, Int.floor_neg]
  omega

theorem trunc_credit {z : Int} {q : ℚ} (hq : 0 ≤ q) (hz : 0 ≤ z) : trunc (z + q) = z + ⌊q⌋ := by
  have hz' : (0 : ℚ) ≤ z := by exact_mod_cast hz
  rw [trunc_of_nonneg (add_nonneg hz' hq), Int.floor_intCast_add]

theorem omg_debited {b : User} {n : Int} (h : transactionCost ord m ≤ b.OMG) :
    ((b.debitOMG (transactionCost ord m)).addItem m.item n).OMG =
      b.OMG - ⌈transactionCost ord m⌉ + if m.item = COIN_OMG then n else 0 := by
  have hbal := balance_addItem (b.debitOMG (transactionCost ord m)) m.item n .omg
  rw [balance_debitOMG, if_pos rfl] at hbal
  exact hbal.trans (congrArg (· + _) (trunc_debit h))

theorem omg_credited {s : User} {n : Int} (hc : 0 ≤ transactionCost ord m) (h : 0 ≤ s.OMG) :
    ((s.creditOMG (transactionCost ord m)).addItem m.item n).OMG =
      s.OMG + ⌊transactionCost ord m⌋ + if m.item = COIN_OMG then n else 0 := by
  have hbal := balance_addItem (s.creditOMG (transactionCost ord m)) m.item n .omg
  rw [balance_creditOMG, if_pos rfl] at hbal
  exact hbal.trans (congrArg (· + _) (trunc_credit hc h))

theorem omg_given_credited {s : User} {n : Int} (hc : 0 ≤ transactionCost ord m)
    (h : 0 ≤ s.OMG + if m.item = COIN_OMG then n else 0) :
    ((s.addItem m.item n).creditOMG (transactionCost ord m)).OMG =
      s.OMG + (if m.item = COIN_OMG then n else 0) + ⌊transactionCost ord m⌋ := by
  have hgive : (s.addItem m.item n).OMG = s.OMG + if m.item = COIN_OMG then n else 0 :=
    balance_addItem s m.item n .omg
  have hcredit : ((s.addItem m.item n).creditOMG (transactionCost ord m)).OMG =
      trunc ((s.addItem m.item n).OMG + transactionCost ord m) := rfl
  rw [hcredit, trunc_credit hc (hgive ▸ h), hgive]

end Amounts

def halfPrice : List (Op ℚ) :=
  [.register (newUser ['a'] ['p'] ['A']), .register (newUser ['b'] ['p'] ['B']),
    .sell (createOrder COIN_DOGE SELL 1 (1 / 2) 1)]

def wholePrice : List (Op ℚ) :=
  [.register (newUser ['a'] ['p'] ['A']), .register (newUser ['b'] ['p'] ['B']),
    .sell (createOrder COIN_DOGE SELL 4 (1 / 2) 1)]

end Marketplace
