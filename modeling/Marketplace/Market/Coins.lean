import Mathlib.Data.Fintype.Basic
import Marketplace.Market.Operations

namespace Marketplace
open CallTree KeyedTable Truncation

variable {D : Type}

inductive Coin where
  | omg
  | doge
  | btc
  | eth
deriving DecidableEq, Repr

instance : Fintype Coin where
  elems := {.omg, .doge, .btc, .eth}
  complete c := by cases c <;> decide

def Coin.code : Coin → Int
  | .omg => COIN_OMG
  | .doge => COIN_DOGE
  | .btc => COIN_BTC
  | .eth => COIN_ETH

def Coin.grant : Coin → Int
  | .omg => DEFAULT_OMG
  | .doge => DEFAULT_DOGE
  | .btc => DEFAULT_BTC
  | .eth => DEFAULT_ETH

def User.balance (u : User) : Coin → Int
  | .omg => u.OMG
  | .doge => u.DOGE
  | .btc => u.BTC
  | .eth => u.ETH

def balanceOf (id : Int) (c : Coin) (db : Database D) : Int :=
  (db.user id).elim 0 (User.balance · c)

theorem balance_addItem (u : User) (item n : Int) (c : Coin) :
    (u.addItem item n).balance c = u.balance c + if item = c.code then n else 0 := by
  unfold User.addItem
  split_ifs <;> cases c <;> simp_all [User.balance, Coin.code, COIN_OMG, COIN_DOGE, COIN_BTC, COIN_ETH]

def withheld [CDouble D] (c : Coin) (o : Order D) : Int :=
  if o.buyOrSell = BUY then (if c = .omg then CDouble.toInt o.total else 0)
  else if o.buyOrSell = SELL then (if o.item = c.code then o.quantity else 0)
  else 0

def supply [CDouble D] (c : Coin) (db : Database D) : Int :=
  db.users.total (User.balance · c) + db.orders.total (withheld c)

variable [CDouble D] {db : Database D} {ord m : Order D} {u v : User}

theorem balance_creditOMG (u : User) (x : D) (c : Coin) :
    (u.creditOMG x).balance c =
      if c = .omg then CDouble.toInt (CDouble.add (CDouble.ofInt u.OMG) x) else u.balance c := by
  cases c <;> rfl

theorem balance_debitOMG (u : User) (x : D) (c : Coin) :
    (u.debitOMG x).balance c =
      if c = .omg then CDouble.toInt (CDouble.sub (CDouble.ofInt u.OMG) x) else u.balance c := by
  cases c <;> rfl

theorem withheld_buy (h : ord.buyOrSell = BUY) (c : Coin) :
    withheld c ord = if c = .omg then CDouble.toInt ord.total else 0 := by
  rw [withheld, if_pos h]

theorem withheld_sell (h : ord.buyOrSell = SELL) (c : Coin) :
    withheld c ord = if ord.item = c.code then ord.quantity else 0 := by
  have hne : ord.buyOrSell ≠ BUY := by
    rw [h]
    decide
  rw [withheld, if_neg hne, if_pos h]

theorem withheld_neither (hb : ord.buyOrSell ≠ BUY) (hs : ord.buyOrSell ≠ SELL) (c : Coin) :
    withheld c ord = 0 := by
  rw [withheld, if_neg hb, if_neg hs]

theorem insufficientBalance_sell (h : ord.buyOrSell = SELL)
    (hi : insufficientBalance u ord = false) :
    (ord.item = COIN_DOGE ∧ ord.quantity ≤ u.DOGE) ∨ (ord.item = COIN_BTC ∧ ord.quantity ≤ u.BTC) ∨
      (ord.item = COIN_ETH ∧ ord.quantity ≤ u.ETH) := by
  simp only [insufficientBalance, h, SELL, one_ne_zero, if_false, if_true] at hi
  split_ifs at hi with h1 h2 h3
  · exact .inl ⟨h1, by simpa using hi⟩
  · exact .inr (.inl ⟨h2, by simpa using hi⟩)
  · exact .inr (.inr ⟨h3, by simpa using hi⟩)

theorem withheld_or_le (hi : insufficientBalance u ord = false)
    (hside : ord.buyOrSell = BUY ∨ ord.buyOrSell = SELL) (c : Coin) :
    withheld c ord = 0 ∨ withheld c ord ≤ u.balance c := by
  rcases hside with hb | hs
  · have h0 : ord.buyOrSell = 0 := hb
    have hle : CDouble.toInt ord.total ≤ u.OMG := by
      simpa [insufficientBalance, h0, Order.total] using hi
    rw [withheld_buy hb]
    split
    · next hc =>
      subst hc
      exact .inr hle
    · exact .inl rfl
  · rw [withheld_sell hs]
    split
    · next hc =>
      right
      rcases insufficientBalance_sell hs hi with ⟨h, hq⟩ | ⟨h, hq⟩ | ⟨h, hq⟩ <;>
        cases c <;>
        simp_all [Coin.code, User.balance, COIN_OMG, COIN_DOGE, COIN_BTC, COIN_ETH]
    · exact .inl rfl

theorem balance_withholdBalance (hi : insufficientBalance u ord = false) (c : Coin) :
    (withholdBalance u ord).balance c = u.balance c - withheld c ord := by
  by_cases hb : ord.buyOrSell = BUY
  · have h0 : ord.buyOrSell = 0 := hb
    rw [withheld_buy hb, withholdBalance, if_pos h0]
    cases c <;> simp [User.balance, Order.total]
  · have h0 : ¬ ord.buyOrSell = 0 := hb
    by_cases hs : ord.buyOrSell = SELL
    · have h1 : ord.buyOrSell = 1 := hs
      rw [withheld_sell hs, withholdBalance, if_neg h0, if_pos h1]
      rcases insufficientBalance_sell hs hi with ⟨h, -⟩ | ⟨h, -⟩ | ⟨h, -⟩ <;>
        cases c <;>
        simp [h, User.balance, Coin.code, COIN_OMG, COIN_DOGE, COIN_BTC, COIN_ETH]
    · have h1 : ¬ ord.buyOrSell = 1 := hs
      rw [withheld_neither hb hs, withholdBalance, if_neg h0, if_neg h1, sub_zero]

omit [CDouble D] in
theorem quantity_le_holding (h : insufficientHolding u ord = false) {c : Coin}
    (hc : ord.item = c.code) : ord.quantity ≤ u.balance c := by
  unfold insufficientHolding at h
  cases c <;>
    simpa [hc, Coin.code, COIN_OMG, COIN_DOGE, COIN_BTC, COIN_ETH, User.balance] using h

theorem supply_rested (hu : db.user ord.userID = some u) (hi : insufficientBalance u ord = false)
    (c : Coin) : supply c ((db.place ord).setBalance (withholdBalance u ord)) = supply c db := by
  have hu' : (db.place ord).user ord.userID = some u := hu
  have husers := Database.total_users_setBalance (User.balance · c) hu'
    (withholdBalance_sameAccount u ord)
  have hplaced : withheld c (db.placed ord) = withheld c ord := rfl
  rw [supply, husers, Database.orders_setBalance, Database.total_orders_place, hplaced,
    balance_withholdBalance hi, supply, Database.users_place]
  omega

theorem supply_insertOutcome {res : Int × Database D} (hu : db.user ord.userID = some u)
    (h : InsertOutcome db u ord res) (c : Coin) : supply c res.2 = supply c db := by
  cases h with
  | refused hi => rfl
  | notNull hi hn => rfl
  | rested hi hn => exact supply_rested hu hi c

theorem supply_settleOutcome {taker maker : User} {res : Int × Database D}
    (hf : Fillable db ord m u v) (ht : taker.SameAccount u) (hm : maker.SameAccount v)
    (h : SettleOutcome db ord m taker maker res) (c : Coin) :
    supply c res.2 = supply c (db.fill ord m taker maker) := by
  cases h with
  | complete hq => rfl
  | refused hq hi => rfl
  | rested hq hi =>
    have hu : (db.fill ord m taker maker).user (remainder db ord m).userID = some taker :=
      hf.user_taker ht hm
    exact supply_rested hu hi c

theorem supply_addUser (db : Database D) (u : User) (c : Coin) :
    supply c (db.addUser u) = supply c db + u.balance c := by
  have hbal (id : Int) : User.balance { u with userID := id } c = u.balance c := by
    cases c <;> rfl
  have htotal : (db.addUser u).users.total (User.balance · c) = db.users.total (User.balance · c) +
      User.balance { u with userID := db.users.seq + 1 } c :=
    Table.total_insert _ _
  rw [supply, htotal, hbal, Database.orders_addUser, supply]
  omega

section Exact

variable {db : Database ℚ} {ord m : Order ℚ}

theorem transactionCost_eq (ord m : Order ℚ) :
    transactionCost ord m = transactionQuantity ord m * m.unitPrice := rfl

theorem withheld_exhausted (h : m.quantity - transactionQuantity ord m = 0) (c : Coin) :
    withheld c (m.reduce (transactionQuantity ord m)) = 0 := by
  simp [withheld, Order.total, h]

theorem supply_fill {taker maker : User} (hf : Fillable db ord m u v) (ht : taker.SameAccount u)
    (hm : maker.SameAccount v) (c : Coin) :
    supply c (db.fill ord m taker maker) = supply c db +
      (taker.balance c - u.balance c) + (maker.balance c - v.balance c) +
      (withheld c (m.reduce (transactionQuantity ord m)) - withheld c m) := by
  rw [supply, hf.total_users (User.balance · c) ht hm,
    hf.total_orders_reduce (fun hq => withheld_exhausted hq c), supply]
  omega

end Exact

end Marketplace
