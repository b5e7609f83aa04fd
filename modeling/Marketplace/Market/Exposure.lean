import Mathlib.Algebra.Order.Floor.Ring
import Marketplace.Market.Overdraft

namespace Marketplace
open CallTree KeyedTable Truncation Rounding Runs

-- an order with an infinite price is never paid for: it puts nothing up
def Double.ceil (x : Double) : Int :=
  x.value.elim 0 Int.ceil

def rate (c : Coin) (o : Order Double) : Int :=
  if o.buyOrSell = BUY then (if c = .omg then o.unitPrice.ceil else 0)
  else if o.buyOrSell = SELL then (if o.item = c.code then 1 else 0)
  else 0

def stake (id : Int) (c : Coin) (o : Order Double) : Int :=
  if o.userID = id then o.quantity * rate c o else 0

def atStake (id : Int) (c : Coin) (db : Database Double) : Int :=
  db.orders.total (stake id c)

def authorized (id : Int) (c : Coin) (op : Op Double) : Int :=
  op.order.elim 0 (stake id c)

def cushion (id : Int) (c : Coin) (db : Database Double) : Int :=
  balanceOf id c db - atStake id c db

section Rate

variable {c : Coin} {ord m : Order Double} {p : ℚ}

theorem rate_buy (h : ord.buyOrSell = BUY) :
    rate c ord = if c = .omg then ord.unitPrice.ceil else 0 := by
  rw [rate, if_pos h]

theorem rate_sell (h : ord.buyOrSell = SELL) : rate c ord = if ord.item = c.code then 1 else 0 := by
  have hne : ord.buyOrSell ≠ BUY := by
    rw [h]
    decide
  rw [rate, if_neg hne, if_pos h]

theorem ceil_value {x : Double} (h : x.value = some p) : x.ceil = ⌈p⌉ := by
  rw [Double.ceil, h, Option.elim_some]

theorem rate_nonneg (hp : NonnegPrice ord.unitPrice) : 0 ≤ rate c ord := by
  have hceil : 0 ≤ ord.unitPrice.ceil := by
    rcases nonnegPrice_cases hp with ⟨p, hp, hvalue⟩ | hinf
    · rw [ceil_value hvalue]
      exact Int.ceil_nonneg hp
    · rw [hinf]
      decide
  unfold rate
  split_ifs <;> omega

-- what one double product takes is at most what the price rounded up would take
theorem product_le_rate {n : Int} (hn : 0 < n ∧ n ≤ INT_MAX) (hp : 0 ≤ p)
    (hround : binary64.round (n * p) ≤ 2 ^ 40) :
    binary64.round (n * p) ≤ (n * ⌈p⌉ : Int) ∧ n * ⌈p⌉ ≤ 2 ^ 42 := by
  have hn31 : n ≤ 2 ^ 31 := hn.2.trans (by decide)
  exact round_mul_le_ceil hn.1.le hn31 hp hround

theorem withheld_le_rate (hq : 0 < ord.quantity ∧ ord.quantity ≤ INT_MAX)
    (hp : NonnegPrice ord.unitPrice) (hfits : CostFits ord) :
    withheld c ord ≤ ord.quantity * rate c ord := by
  by_cases hb : ord.buyOrSell = BUY
  · obtain ⟨x, hx, hint, htoInt⟩ := conversionFits_value (hfits hb)
    have hfinite : ord.unitPrice ≠ .inf false := by
      intro hinf
      rw [Order.total, hinf, Double.mul_eq, Double.ofInt_eq, mul_inf hq] at hx
      cases hx
    obtain ⟨p, hp0, hvalue⟩ := (nonnegPrice_cases hp).resolve_right hfinite
    rw [total_eq (int32_of_nonneg ⟨hq.1.le, hq.2⟩) hvalue] at hx
    obtain ⟨rfl, -⟩ := Double.ofRat_value hx
    have hmax : binary64.round (ord.quantity * p) ≤ 2 ^ 40 := by
      have hlt := (trunc_le_nonneg_iff (by decide)).mp hint.2
      exact hlt.le.trans (by decide +kernel)
    obtain ⟨hle, -⟩ := product_le_rate hq hp0 hmax
    rw [withheld_buy hb, rate_buy hb, htoInt, ceil_value hvalue]
    split
    · exact trunc_le_int hle
    · rw [mul_zero]
  · unfold withheld rate
    rw [if_neg hb, if_neg hb]
    split_ifs <;> omega

theorem stake_nonneg {id : Int} (hq : 0 ≤ ord.quantity) (hp : NonnegPrice ord.unitPrice) :
    0 ≤ stake id c ord := by
  have hprod : 0 ≤ ord.quantity * rate c ord := mul_nonneg hq (rate_nonneg hp)
  unfold stake
  split <;> omega

end Rate

section Parties

variable {db : Database Double} {u v : User} {c : Coin} {ord m r : Order Double}

theorem creditOMG_gain {x : Double} (hint : Int32 u.OMG) (hx : ∀ q : ℚ, x.value = some q → 0 ≤ q)
    (h : ConversionFits (CDouble.add (CDouble.ofInt u.OMG) x)) :
    u.balance c ≤ (u.creditOMG x).balance c := by
  obtain ⟨q, hvalue, -, hsum⟩ := credit_value hint h
  rw [balance_creditOMG]
  split
  · next hc =>
    subst hc
    rw [hsum]
    exact le_trunc_round_add hint.moderate (hx q hvalue)
  · exact le_refl _

theorem buyTaker_loss (hint : Int32 u.OMG) (hbuy : ord.buyOrSell = BUY)
    (hl : CDouble.lt (CDouble.ofInt u.OMG) ord.total = false)
    (hq : 0 < ord.quantity ∧ ord.quantity ≤ INT_MAX) (hprice : NonnegPrice ord.unitPrice)
    (hm : Resting m) (hs : m.buyOrSell = SELL) (hp : CDouble.le m.unitPrice ord.unitPrice = true)
    (hfits : BuyFillFits db ord m u v) :
    u.balance c - transactionQuantity ord m * rate c ord ≤ (buyTaker u ord m).balance c := by
  obtain ⟨⟨-, -, ⟨hdebit, -⟩, -⟩, -⟩ := hfits
  have ho : Payable ord := payable_of_funded hq hprice hint hl
  have hrow : PayableRow m := payableRow_of_matched ho hm hs hp
  obtain ⟨x, hx, hpaid, hcost⟩ := buy_cost ho hrow hint hp hl
  obtain ⟨y, hy, hypaid, htotal⟩ := funded_total ho hint hl
  obtain ⟨p, hp0, hvalue⟩ := ho.price
  obtain ⟨mp, hmp0, hmvalue⟩ := hrow.price
  have ht := transactionQuantity_bounds hq hm
  have ht32 : Int32 (transactionQuantity ord m) := int32_of_nonneg ⟨ht.1.le, ht.2⟩
  have hlow : mp ≤ p := by
    rw [Double.le_eq, Double.le_of_value hmvalue hvalue] at hp
    exact of_decide_eq_true hp
  rw [total_eq (int32_of_nonneg ho.quantity) hvalue] at htotal
  obtain ⟨rfl, -⟩ := Double.ofRat_value htotal
  rw [transactionCost_eq_ofRat ht32 hmvalue] at hcost
  obtain ⟨rfl, -⟩ := Double.ofRat_value hcost
  have ht0 : (0 : ℚ) ≤ transactionQuantity ord m := by exact_mod_cast ht.1.le
  have htq : (transactionQuantity ord m : ℚ) ≤ ord.quantity := by
    exact_mod_cast transactionQuantity_le_taker ord m
  -- the taker's own price is the worst one it can be made to pay
  have hlimit : binary64.round (transactionQuantity ord m * p) ≤ 2 ^ 40 :=
    (Format.round_mono (mul_le_mul_of_nonneg_right htq hp0)).trans
      (cost_moderate (int_le_max hint hypaid))
  obtain ⟨hceil, hbound⟩ := product_le_rate ht hp0 hlimit
  have hworst : binary64.round (transactionQuantity ord m * mp) ≤
      (transactionQuantity ord m * ⌈p⌉ : Int) :=
    (Format.round_mono (mul_le_mul_of_nonneg_left hlow ht0)).trans hceil
  have hloss := sub_le_trunc_round_sub hint.moderate
    (mul_nonneg ht.1.le (Int.ceil_nonneg hp0)) hbound hworst
  have hcost' : (transactionCost ord m).value =
      some (binary64.round (transactionQuantity ord m * mp)) := by
    rw [transactionCost_eq_ofRat ht32 hmvalue, hcost]
  have hleft := debit_value hint hcost' hdebit
  rw [buyTaker, balance_addItem, balance_debitOMG, rate_buy hbuy, hleft, ceil_value hvalue]
  split
  · next hc =>
    subst hc
    change u.OMG - _ ≤ _
    unfold debited
    split <;> omega
  · split <;> omega

theorem buyMaker_loss (hint : Int32 v.OMG) (hsell : m.buyOrSell = SELL)
    (hq : 0 < ord.quantity ∧ ord.quantity ≤ INT_MAX) (hm : Resting m)
    (hfits : BuyFillFits db ord m u v) :
    v.balance c - transactionQuantity ord m * rate c m ≤ (buyMaker ord m v).balance c := by
  obtain ⟨⟨-, -, -, ⟨hcredit, -⟩⟩, -⟩ := hfits
  have hgain : v.balance c ≤ (v.creditOMG (transactionCost ord m)).balance c :=
    creditOMG_gain hint (fun q hx => transactionCost_nonneg hq hm hx) hcredit
  rw [buyMaker, balance_addItem, rate_sell hsell]
  split <;> omega

theorem sellTaker_loss (hu : u.FitsInt) (hsell : ord.buyOrSell = SELL)
    (hq : 0 < ord.quantity ∧ ord.quantity ≤ INT_MAX) (hm : Resting m)
    (hfits : SellFillFits db ord m u v) :
    u.balance c - transactionQuantity ord m * rate c ord ≤ (sellTaker u ord m).balance c := by
  obtain ⟨⟨-, -, ⟨hgive, hcredit⟩, -⟩, -⟩ := hfits
  have hgiven : (u.addItem ord.item (-transactionQuantity ord m)).FitsInt :=
    fitsInt_addItem hu hgive
  have hitem := balance_addItem u ord.item (-transactionQuantity ord m) c
  have hgain : (u.addItem ord.item (-transactionQuantity ord m)).balance c ≤
      (sellTaker u ord m).balance c :=
    creditOMG_gain (hgiven .omg) (fun q hx => transactionCost_nonneg hq hm hx) hcredit
  rw [rate_sell hsell]
  split at hitem <;> split <;> omega

theorem sellMaker_loss (hu : u.FitsInt) (hint : Int32 v.OMG) (hbuy : m.buyOrSell = BUY)
    (hq : 0 < ord.quantity ∧ ord.quantity ≤ INT_MAX) (hm : Resting m)
    (hfits : SellFillFits db ord m u v) :
    v.balance c - transactionQuantity ord m * rate c m ≤ (sellMaker ord m v).balance c := by
  obtain ⟨⟨-, -, ⟨hgive, hcredit⟩, ⟨hdebit, -⟩⟩, -⟩ := hfits
  have hgiven : (u.addItem ord.item (-transactionQuantity ord m)).FitsInt :=
    fitsInt_addItem hu hgive
  have ht := transactionQuantity_bounds hq hm
  have ht32 : Int32 (transactionQuantity ord m) := int32_of_nonneg ⟨ht.1.le, ht.2⟩
  obtain ⟨x, hcost, hmax, -⟩ := credit_value (hgiven .omg) hcredit
  have hfinite : m.unitPrice ≠ .inf false := by
    intro hinf
    rw [transactionCost, hinf, Double.mul_eq, Double.ofInt_eq, mul_inf ht] at hcost
    cases hcost
  obtain ⟨p, hp0, hvalue⟩ := (nonnegPrice_cases hm.unitPrice).resolve_right hfinite
  have hleft := debit_value hint hcost hdebit
  rw [transactionCost_eq_ofRat ht32 hvalue] at hcost
  obtain ⟨rfl, -⟩ := Double.ofRat_value hcost
  obtain ⟨hceil, hbound⟩ := product_le_rate ht hp0 hmax
  have hloss := sub_le_trunc_round_sub hint.moderate
    (mul_nonneg ht.1.le (Int.ceil_nonneg hp0)) hbound hceil
  rw [sellMaker, balance_addItem, balance_debitOMG, rate_buy hbuy, hleft, ceil_value hvalue]
  split
  · next hc =>
    subst hc
    change v.OMG - _ ≤ _
    unfold debited
    split <;> omega
  · split <;> omega

structure Losses (ord m : Order Double) (u v taker maker : User) (c : Coin) : Prop where
  taker : u.balance c - transactionQuantity ord m * rate c ord ≤ taker.balance c
  maker : v.balance c - transactionQuantity ord m * rate c m ≤ maker.balance c

theorem refund_gain (hint : u.FitsInt) (hrest : Resting r) (hfits : RefundFits u r) :
    u.balance c ≤ (refundBalance u r).balance c := by
  unfold refundBalance
  split
  · next hb =>
    exact creditOMG_gain (hint .omg)
      (fun q hx => product_nonneg hrest.quantity hrest.unitPrice hx) (hfits.buy hb)
  · rw [balance_addItem]
    have hq := hrest.quantity.1
    split <;> omega

end Parties

section Cushion

variable {db : Database Double} {ord m : Order Double} {u v taker maker : User} {id k : Int}
  {c : Coin}

theorem balanceOf_setBalance (hu : db.user k = some u) (h : v.SameAccount u) :
    balanceOf id c (db.setBalance v) =
      balanceOf id c db + if k = id then v.balance c - u.balance c else 0 := by
  split
  · next hk =>
    subst hk
    simp only [balanceOf, Database.user_setBalance_self hu h, hu, Option.elim_some]
    omega
  · next hk =>
    have hne : id ≠ v.userID := by
      rw [h.1, Database.user_userID hu]
      exact fun hid => hk hid.symm
    rw [balanceOf, Database.user_setBalance_other hne, balanceOf, add_zero]

theorem balanceOf_fill (hf : Fillable db ord m u v) (ht : taker.SameAccount u)
    (hm : maker.SameAccount v) :
    balanceOf id c (db.fill ord m taker maker) = balanceOf id c db +
      (if ord.userID = id then taker.balance c - u.balance c else 0) +
      if m.userID = id then maker.balance c - v.balance c else 0 := by
  have husers : balanceOf id c (db.fill ord m taker maker) =
      balanceOf id c ((db.setBalance taker).setBalance maker) := by
    simp only [balanceOf, Database.user, users_fill]
  rw [husers, balanceOf_setBalance (hf.maker_unmoved ht) hm, balanceOf_setBalance hf.taker ht]

theorem stake_reduce (o : Order Double) (n : Int) :
    stake id c (o.reduce n) = stake id c o - if o.userID = id then n * rate c o else 0 := by
  have hrate : rate c (o.reduce n) = rate c o := rfl
  simp only [stake, userID_reduce, quantity_reduce, hrate]
  split
  · rw [Int.sub_mul]
  · rfl

theorem atStake_fill (hf : Fillable db ord m u v) :
    atStake id c (db.fill ord m taker maker) =
      atStake id c db - if m.userID = id then transactionQuantity ord m * rate c m else 0 := by
  have hexhausted (hq : m.quantity - transactionQuantity ord m = 0) :
      stake id c (m.reduce (transactionQuantity ord m)) = 0 := by
    simp [stake, hq]
  rw [atStake, hf.total_orders_reduce hexhausted, stake_reduce, atStake]
  omega

theorem cushion_fill (hf : Fillable db ord m u v) (ht : taker.SameAccount u)
    (hm : maker.SameAccount v) (hloss : Losses ord m u v taker maker c) :
    cushion id c db - (if ord.userID = id then transactionQuantity ord m * rate c ord else 0) ≤
      cushion id c (db.fill ord m taker maker) := by
  obtain ⟨htaker, hmaker⟩ := hloss
  rw [cushion, cushion, balanceOf_fill hf ht hm, atStake_fill hf]
  split_ifs <;> omega

theorem cushion_rested (id : Int) (c : Coin) (hu : db.user ord.userID = some u)
    (hi : insufficientBalance u ord = false)
    (hwithheld : withheld c ord ≤ ord.quantity * rate c ord) :
    cushion id c db - 2 * stake id c ord ≤
      cushion id c ((db.place ord).setBalance (withholdBalance u ord)) := by
  have hu' : (db.place ord).user ord.userID = some u := hu
  have hbal : balanceOf id c (db.place ord) = balanceOf id c db := rfl
  have hplaced : atStake id c (db.place ord) = atStake id c db + stake id c ord :=
    Database.total_orders_place _ _ _
  have hstake : atStake id c ((db.place ord).setBalance (withholdBalance u ord)) =
      atStake id c (db.place ord) := rfl
  rw [cushion, cushion, balanceOf_setBalance hu' (withholdBalance_sameAccount u ord), hbal,
    balance_withholdBalance hi, hstake, hplaced, stake]
  split <;> omega

theorem cushion_cancelled (id : Int) (c : Coin) {r : Order Double} {orderID : Int}
    (hr : db.order orderID = some r) (hu : db.user k = some u) (hint : u.FitsInt)
    (hrest : Resting r) (hfits : RefundFits u r) : cushion id c db ≤
      cushion id c ((db.setBalance (refundBalance u r)).deleteOrderRow orderID) := by
  have hbal : balanceOf id c ((db.setBalance (refundBalance u r)).deleteOrderRow orderID) =
      balanceOf id c (db.setBalance (refundBalance u r)) := rfl
  have hstake : atStake id c ((db.setBalance (refundBalance u r)).deleteOrderRow orderID) =
      atStake id c db - stake id c r := Table.total_erase db.orders (stake id c) hr
  have hgain : u.balance c ≤ (refundBalance u r).balance c := refund_gain hint hrest hfits
  have hfreed : 0 ≤ stake id c r := stake_nonneg hrest.quantity.1.le hrest.unitPrice
  rw [cushion, cushion, hbal, balanceOf_setBalance hu (refundBalance_sameAccount u r), hstake]
  split <;> omega

theorem balanceOf_addUser {newUser : User} (hn : newUser.Nonneg) :
    balanceOf id c db ≤ balanceOf id c (db.addUser newUser) := by
  cases hu : db.user id with
  | some v => simp only [balanceOf, hu, Database.user_addUser hu, Option.elim_some, le_refl]
  | none =>
    cases hw : (db.addUser newUser).user id with
    | none => simp only [balanceOf, hu, hw, le_refl]
    | some w =>
      simp only [balanceOf, hu, hw, Option.elim_none, Option.elim_some]
      rcases Database.mem_users_addUser.mp (Database.user_mem hw) with hmem | rfl
      · have hold := Database.user_of_mem hmem
        rw [Database.user_userID hw, hu] at hold
        cases hold
      · have hc := hn c
        cases c <;> exact hc

end Cushion

section Step

variable {S : CreatedAtSort Double} {db : Database Double} {op : Op Double} {ord m : Order Double}
  {u v taker maker : User}

structure Offered (ord : Order Double) : Prop where
  quantity : 0 < ord.quantity ∧ ord.quantity ≤ INT_MAX
  unitPrice : NonnegPrice ord.unitPrice

theorem Offered.stake_nonneg (h : Offered ord) (id : Int) (c : Coin) : 0 ≤ stake id c ord :=
  Marketplace.stake_nonneg h.quantity.1.le h.unitPrice

theorem cushion_insertOutcome {res : Int × Database Double} (h : Offered ord)
    (hu : db.user ord.userID = some u) (hfits : InsertFits u ord)
    (hins : InsertOutcome db u ord res) (id : Int) (c : Coin) :
    cushion id c db - 2 * stake id c ord ≤ cushion id c res.2 := by
  have hunmoved : cushion id c db - 2 * stake id c ord ≤ cushion id c db := by
    have hstake := h.stake_nonneg id c
    omega
  cases hins with
  | refused hi => exact hunmoved
  | notNull hi hn => exact hunmoved
  | rested hi hn =>
    exact cushion_rested id c hu hi (withheld_le_rate h.quantity h.unitPrice hfits.cost)

theorem cushion_settleOutcome {res : Int × Database Double} (h : Offered ord) (hm : Resting m)
    (hf : Fillable db ord m u v) (htaker : taker.SameAccount u) (hmaker : maker.SameAccount v)
    (hfits : 0 < ord.quantity - transactionQuantity ord m → InsertFits taker (remainder db ord m))
    (hset : SettleOutcome db ord m taker maker res) (id : Int) (c : Coin)
    (hloss : Losses ord m u v taker maker c) :
    cushion id c db - 2 * stake id c ord ≤ cushion id c res.2 := by
  obtain ⟨ht, -⟩ := transactionQuantity_bounds h.quantity hm
  have hpart : transactionQuantity ord m * rate c ord ≤ ord.quantity * rate c ord :=
    mul_le_mul_of_nonneg_right (transactionQuantity_le_taker ord m) (rate_nonneg h.unitPrice)
  have hnonneg : 0 ≤ transactionQuantity ord m * rate c ord :=
    mul_nonneg ht.le (rate_nonneg h.unitPrice)
  have hfill : cushion id c db - _ ≤ _ := cushion_fill hf htaker hmaker hloss
  have hrest : stake id c (remainder db ord m) = stake id c ord -
      if ord.userID = id then transactionQuantity ord m * rate c ord else 0 :=
    stake_reduce (ord.stamp db) (transactionQuantity ord m)
  have hlost : 0 ≤ (if ord.userID = id then transactionQuantity ord m * rate c ord else 0) ∧
      (if ord.userID = id then transactionQuantity ord m * rate c ord else 0) ≤ stake id c ord := by
    rw [stake]
    split <;> omega
  have hfilled :
      cushion id c db - 2 * stake id c ord ≤ cushion id c (db.fill ord m taker maker) := by
    omega
  cases hset with
  | complete hq => exact hfilled
  | refused hq hi => exact hfilled
  | rested hq hi =>
    have hu : (db.fill ord m taker maker).user (remainder db ord m).userID = some taker :=
      hf.user_taker htaker hmaker
    have hmax : (remainder db ord m).quantity ≤ INT_MAX := by
      change ord.quantity - transactionQuantity ord m ≤ INT_MAX
      linarith [h.quantity.2]
    have hwithheld := withheld_le_rate (c := c) ⟨hq, hmax⟩ h.unitPrice (hfits hq).cost
    have hposted := cushion_rested id c hu hi hwithheld
    refine le_trans ?_ hposted
    omega

theorem cushion_buy (hop : (Op.buy ord).Admissible) (hfits : (Op.buy ord).Fits S db)
    (hb : BookSound db) (hint : db.FitsInt) (id : Int) (c : Coin) :
    cushion id c db - 2 * stake id c ord ≤ cushion id c (apply S (.buy ord) db) := by
  obtain ⟨hside, hq, hp⟩ := hop
  have hoffered : Offered ord := ⟨hq, hp⟩
  have hunmoved : cushion id c db - 2 * stake id c ord ≤ cushion id c db := by
    have hstake := hoffered.stake_nonneg id c
    omega
  obtain ⟨res, hout, hres⟩ := buy_applied S ord db
  rw [hres]
  cases hout with
  | unknownUser hu => exact hunmoved
  | refused u hu hl => exact hunmoved
  | unmatched u hu hl hm _ hins =>
    exact cushion_insertOutcome hoffered hu ((fits_buy_iff.mp hfits u hu hl).1 hm) hins id c
  | unfillable u m hu hl hm hv => exact hunmoved
  | matched u v m hl hm hf _ hset =>
    obtain ⟨hmem, hans⟩ := matchSell_some hm
    obtain ⟨-, hsell, -, hle, -⟩ := answersSell_iff.mp hans
    have hfill := (fits_buy_iff.mp hfits u hf.taker hl).2 m hm v hf
    refine cushion_settleOutcome hoffered (hb m hmem) hf (buyTaker_sameAccount u ord m)
      (buyMaker_sameAccount ord m v) hfill.2 hset id c ⟨?_, ?_⟩
    · exact buyTaker_loss (hint.user hf.taker .omg) hside hl hq hp (hb m hmem) hsell hle hfill
    · exact buyMaker_loss (hint.user hf.maker .omg) hsell hq (hb m hmem) hfill

theorem cushion_sell (hop : (Op.sell ord).Admissible) (hfits : (Op.sell ord).Fits S db)
    (hb : BookSound db) (hint : db.FitsInt) (id : Int) (c : Coin) :
    cushion id c db - 2 * stake id c ord ≤ cushion id c (apply S (.sell ord) db) := by
  obtain ⟨hside, hq, hp⟩ := hop
  have hoffered : Offered ord := ⟨hq, hp⟩
  have hunmoved : cushion id c db - 2 * stake id c ord ≤ cushion id c db := by
    have hstake := hoffered.stake_nonneg id c
    omega
  obtain ⟨res, hout, hres⟩ := sell_applied S ord db
  rw [hres]
  cases hout with
  | unknownUser hu => exact hunmoved
  | refused u hu hl => exact hunmoved
  | unmatched u hu hl hm _ hins =>
    exact cushion_insertOutcome hoffered hu ((fits_sell_iff.mp hfits u hu hl).1 hm) hins id c
  | unfillable u m hu hl hm hv => exact hunmoved
  | matched u v m hl hm hf _ hset =>
    obtain ⟨hmem, hans⟩ := matchBuy_some hm
    obtain ⟨-, hbuy, -, -, -⟩ := answersBuy_iff.mp hans
    have hfill := (fits_sell_iff.mp hfits u hf.taker hl).2 m hm v hf
    refine cushion_settleOutcome hoffered (hb m hmem) hf (sellTaker_sameAccount u ord m)
      (sellMaker_sameAccount ord m v) hfill.2 hset id c ⟨?_, ?_⟩
    · exact sellTaker_loss (hint.user hf.taker) hside hq (hb m hmem) hfill
    · exact sellMaker_loss (hint.user hf.taker) (hint.user hf.maker .omg) hbuy hq (hb m hmem) hfill

theorem cushion_cancelOrder {orderID currentUserID : Int}
    (hfits : (Op.cancelOrder orderID currentUserID).Fits S db) (hb : BookSound db)
    (hint : db.FitsInt) (id : Int) (c : Coin) :
    cushion id c db ≤ cushion id c (apply S (.cancelOrder orderID currentUserID) db) := by
  obtain ⟨res, hout, hres⟩ := cancelOrder_applied S orderID currentUserID db
  rw [hres]
  cases hout with
  | unknownOrder hr => exact le_refl _
  | unauthorized r hr hown => exact le_refl _
  | unknownUser r hr hown hu => exact le_refl _
  | cancelled r u hr hown hu =>
    exact cushion_cancelled id c hr hu (hint.user hu) (hb r (Database.order_mem hr))
      (fits_cancelOrder_iff.mp hfits r hr hown u hu)

theorem cushion_apply (hop : op.Admissible) (hfits : op.Fits S db) (hb : BookSound db)
    (hint : db.FitsInt) (id : Int) (c : Coin) :
    cushion id c db - 2 * authorized id c op ≤ cushion id c (apply S op db) := by
  have hnothing {n : Int} (h : cushion id c db ≤ n) : cushion id c db - 2 * 0 ≤ n := by
    omega
  cases op with
  | register newUser =>
    apply hnothing
    rw [apply_register]
    split
    · exact le_refl _
    · have hgain : balanceOf id c db ≤ balanceOf id c (db.addUser newUser) :=
        balanceOf_addUser hop.1
      have hsame : atStake id c (db.addUser newUser) = atStake id c db := rfl
      rw [cushion, cushion, hsame]
      omega
  | buy ord => exact cushion_buy hop hfits hb hint id c
  | sell ord => exact cushion_sell hop hfits hb hint id c
  | cancelOrder orderID currentUserID => exact hnothing (cushion_cancelOrder hfits hb hint id c)
  | elapse seconds => exact hnothing (le_refl _)

theorem Op.Admissible.grantsFit (h : op.Admissible) : op.GrantsFit := by
  cases op with
  | register newUser => exact h.2
  | _ => trivial

theorem cushion_run {ops : List (Op Double)} (hops : ∀ op ∈ ops, op.Admissible)
    (hfits : Along (apply S) (Op.Fits S) ops db) (hb : BookSound db) (hint : db.FitsInt) (id : Int)
    (c : Coin) :
    cushion id c db - 2 * (ops.map (authorized id c)).sum ≤ cushion id c (final (apply S) ops db) ∧
      BookSound (final (apply S) ops db) := by
  induction ops generalizing db with
  | nil => exact ⟨by simp, hb⟩
  | cons op ops ih =>
    obtain ⟨hop, hops⟩ := List.forall_mem_cons.mp hops
    have hstep := cushion_apply hop hfits.1 hb hint id c
    obtain ⟨hrun, hsound⟩ :=
      ih hops hfits.2 (bookSound_apply hop hb) (hint.applied hfits.1 hop.grantsFit)
    rw [List.map_cons, List.sum_cons]
    exact ⟨by rw [final_cons]; omega, hsound⟩

theorem atStake_nonneg (hb : BookSound db) (id : Int) (c : Coin) : 0 ≤ atStake id c db := by
  apply List.sum_nonneg
  intro n hn
  obtain ⟨r, hr, rfl⟩ := List.mem_map.mp hn
  exact stake_nonneg (hb r hr).quantity.1.le (hb r hr).unitPrice

end Step

theorem loss_bounded (S : CreatedAtSort Double) (db : Database Double) (hb : BookSound db)
    (hint : db.FitsInt) (ops : List (Op Double)) (hops : ∀ op ∈ ops, op.Admissible)
    (hfits : Along (apply S) (Op.Fits S) ops db) (id : Int) (c : Coin) :
    balanceOf id c db - atStake id c db - 2 * (ops.map (authorized id c)).sum ≤
      balanceOf id c (final (apply S) ops db) := by
  obtain ⟨hrun, hsound⟩ := cushion_run hops hfits hb hint id c
  have hnonneg := atStake_nonneg hsound id c
  simp only [cushion] at hrun
  omega

theorem loss_bounded_drainedMaker :
    balanceOf 1 .omg (final (apply (.stable Double)) (drainedMaker.drop 2)
        (final (apply (.stable Double)) (drainedMaker.take 2) .empty)) = 10000 - 2 * 10000 ∧
      10000 - 0 - 2 * ((drainedMaker.drop 2).map (authorized 1 .omg)).sum ≤
        balanceOf 1 .omg (final (apply (.stable Double)) (drainedMaker.drop 2)
          (final (apply (.stable Double)) (drainedMaker.take 2) .empty)) := by
  have hgrant : balanceOf 1 .omg (final (apply (.stable Double)) (drainedMaker.take 2) .empty) =
      10000 := by
    decide +kernel
  have hnone :
      atStake 1 .omg (final (apply (.stable Double)) (drainedMaker.take 2) .empty) = 0 := by
    decide +kernel
  have hbound := loss_bounded (.stable Double)
    (final (apply (.stable Double)) (drainedMaker.take 2) .empty) (by intro r hr; cases hr)
    (by decide +kernel) (drainedMaker.drop 2) (by decide +kernel) (by decide +kernel) 1 .omg
  rw [hgrant, hnone] at hbound
  exact ⟨by decide +kernel, hbound⟩

end Marketplace
