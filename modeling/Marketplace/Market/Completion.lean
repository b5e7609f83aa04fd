import Marketplace.Market.Overdraft
import Marketplace.Market.Transfer

namespace Marketplace
open CallTree KeyedTable Truncation Runs

variable {D : Type}

def newRows (before after : Database D) : List (Order D) :=
  after.orders.rows.filter (fun r => before.orders.seq < r.orderID)

def RestsExactly (ord : Order D) (n : Int) (before after : Database D) : Prop :=
  newRows before after = if n = 0 then [] else
    [{ ord with orderID := before.orders.seq + 1, quantity := n, createdAt := some before.now }]

def FallsBy (m : Order D) (n : Int) (after : Database D) : Prop :=
  after.order m.orderID = if m.quantity = n then none else some { m with quantity := m.quantity - n }

structure SoundRows [CDouble D] (db : Database D) : Prop where
  quantity : ∀ r ∈ db.orders.rows, 0 < r.quantity
  price : ∀ r ∈ db.orders.rows, CDouble.isNaN r.unitPrice = false
  owner : ∀ r ∈ db.orders.rows, (db.user r.userID).isSome

section Rows

variable {db db' : Database D} {ord m : Order D} {u v taker maker : User}

theorem newRows_place (h : db.orders.seq ≤ db'.orders.seq) :
    newRows db (db'.place ord) = newRows db db' ++ [db'.placed ord] := by
  have hnew : db.orders.seq < (db'.placed ord).orderID := Int.lt_add_one_of_le h
  have hrows : (db'.place ord).orders.rows = db'.orders.rows ++ [db'.placed ord] := rfl
  simp [newRows, hrows, List.filter_append, hnew]

theorem newRows_self (db : Database D) : newRows db db = [] := by
  refine List.filter_eq_nil_iff.mpr ?_
  intro r hr
  have hle := db.orders.bounded r hr
  simpa using hle

theorem newRows_fill (hrow : db.order m.orderID = some m) :
    newRows db (db.fill ord m taker maker) = [] := by
  refine List.filter_eq_nil_iff.mpr ?_
  intro r hr
  obtain ⟨r', hr', hid, -⟩ := row_of_fill hrow hr
  have hle := db.orders.bounded r' hr'
  simpa [← hid] using hle

theorem order_fill_self (hrow : db.order m.orderID = some m) :
    (db.fill ord m taker maker).order m.orderID =
      if m.quantity - transactionQuantity ord m = 0 then none
      else some (m.reduce (transactionQuantity ord m)) := by
  unfold Database.fill
  split
  · exact (Table.find_erase _ _ _).trans (if_pos rfl)
  · have hmoved : ((((db.archive m).archive (ord.stamp db)).setBalance taker).setBalance maker).order
        m.orderID = some m := hrow
    exact Database.order_rewrite_self hmoved

theorem fallsBy_fill (hrow : db.order m.orderID = some m) :
    FallsBy m (transactionQuantity ord m) (db.fill ord m taker maker) := by
  rw [FallsBy, order_fill_self hrow]
  simp only [sub_eq_zero]
  rfl

theorem fallsBy_place {o : Order D} {w : User} (hrow : db.order m.orderID = some m) :
    FallsBy m (transactionQuantity ord m) (((db.fill ord m taker maker).place o).setBalance w) := by
  have hid : m.orderID ≠ (db.fill ord m taker maker).orders.seq + 1 := by
    have hle := order_id_le hrow
    rw [seq_fill]
    omega
  exact ((order_place _ o m.orderID).trans (if_neg hid)).trans (fallsBy_fill hrow)

theorem restsExactly_fill (taker maker : User) (hrow : db.order m.orderID = some m)
    (hq : ord.quantity - transactionQuantity ord m ≤ 0) :
    RestsExactly ord (ord.quantity - transactionQuantity ord m) db (db.fill ord m taker maker) := by
  have hle := transactionQuantity_le_taker ord m
  rw [RestsExactly, newRows_fill hrow, if_pos (by omega)]

theorem restsExactly_remainder (taker maker w : User) (hrow : db.order m.orderID = some m)
    (hq : 0 < ord.quantity - transactionQuantity ord m) :
    RestsExactly ord (ord.quantity - transactionQuantity ord m) db
      (((db.fill ord m taker maker).place (remainder db ord m)).setBalance w) := by
  have hseq := seq_fill db ord m taker maker
  have hnow := now_fill db ord m taker maker
  have hnew : newRows db (((db.fill ord m taker maker).place (remainder db ord m)).setBalance w) =
      newRows db ((db.fill ord m taker maker).place (remainder db ord m)) := rfl
  rw [RestsExactly, hnew, newRows_place hseq.ge, newRows_fill hrow, if_neg (by omega)]
  simp [Database.placed, remainder, Order.stamp, Order.reduce, hseq, hnow]

theorem restsExactly_place (db : Database D) (w : User) (hq : 0 < ord.quantity) :
    RestsExactly ord ord.quantity db ((db.place ord).setBalance w) := by
  have hnew : newRows db ((db.place ord).setBalance w) = newRows db (db.place ord) := rfl
  rw [RestsExactly, hnew, newRows_place (le_refl _), newRows_self, if_neg (by omega)]
  rfl

theorem transactionQuantity_eq_min (ord m : Order D) :
    transactionQuantity ord m = min ord.quantity m.quantity := by
  unfold transactionQuantity
  split <;> omega

theorem balanceOf_rested [CDouble D] {w : User} {o : Order D} (hu : db.user o.userID = some w)
    (hi : insufficientBalance w o = false) (c : Coin) :
    balanceOf o.userID c ((db.place o).setBalance (withholdBalance w o)) =
      w.balance c - withheld c o := by
  have hplaced : (db.place o).user o.userID = some w := hu
  have hafter := Database.user_setBalance_self hplaced (withholdBalance_sameAccount w o)
  simp [balanceOf, hafter, balance_withholdBalance hi]

end Rows

section Buying

variable {S : CreatedAtSort ℚ} {db : Database ℚ} {ord m : Order ℚ} {u v : User}

structure BuyFilled (db : Database ℚ) (ord m : Order ℚ) (u : User) (after : Database ℚ) : Prop where
  falls : FallsBy m (min ord.quantity m.quantity) after
  accepted : insufficientBalance (buyTaker u ord m) (remainder db ord m) = false
  rests : RestsExactly ord (ord.quantity - min ord.quantity m.quantity) db after
  omg : balanceOf ord.userID .omg after =
    ⌊(u.OMG : ℚ) - (min ord.quantity m.quantity : Int) * m.unitPrice⌋ -
      ⌊((ord.quantity - min ord.quantity m.quantity : Int) : ℚ) * ord.unitPrice⌋ +
      if ord.item = COIN_OMG then min ord.quantity m.quantity else 0
  solvent : 0 ≤ balanceOf ord.userID .omg after

structure BuyRested (db : Database ℚ) (ord : Order ℚ) (u : User) (after : Database ℚ) : Prop where
  rests : RestsExactly ord ord.quantity db after
  omg : balanceOf ord.userID .omg after = u.OMG - ⌊(ord.quantity : ℚ) * ord.unitPrice⌋

theorem insufficientBalance_buy (h : ord.buyOrSell = BUY) :
    insufficientBalance u ord = decide (u.OMG < trunc ord.total) := by
  have h0 : ord.buyOrSell = 0 := h
  rw [insufficientBalance, if_pos h0]
  rfl

theorem cost_add_rest_le (db : Database ℚ) (hq : 0 < ord.quantity) (hm : 0 < m.quantity)
    (hp : m.unitPrice ≤ ord.unitPrice) :
    transactionCost ord m + (remainder db ord m).total ≤ ord.total := by
  have ht : (0 : ℚ) ≤ transactionQuantity ord m := by
    exact_mod_cast (transactionQuantity_pos hq hm).le
  have hcost : transactionCost ord m ≤ transactionQuantity ord m * ord.unitPrice :=
    mul_le_mul_of_nonneg_left hp ht
  have hrest : (remainder db ord m).total =
      ord.total - transactionQuantity ord m * ord.unitPrice := by
    have hexp : (remainder db ord m).total =
        ((ord.quantity - transactionQuantity ord m : Int) : ℚ) * ord.unitPrice := rfl
    rw [hexp, Int.cast_sub, sub_mul]
    rfl
  linarith

theorem rest_nonneg (db : Database ℚ) (m : Order ℚ) (hp : 0 ≤ ord.unitPrice) : 0 ≤ (remainder db ord m).total := by
  have hle := transactionQuantity_le_taker ord m
  have hrest : (0 : ℚ) ≤ ((ord.quantity - transactionQuantity ord m : Int) : ℚ) := by
    exact_mod_cast Int.sub_nonneg_of_le hle
  exact mul_nonneg hrest hp

theorem buyTaker_omg (hitem : m.item = ord.item) (hfunds : transactionCost ord m ≤ u.OMG) :
    (buyTaker u ord m).OMG = ⌊u.OMG - transactionCost ord m⌋ +
      if ord.item = COIN_OMG then transactionQuantity ord m else 0 := by
  have hbal := omg_debited (n := transactionQuantity ord m) hfunds
  rw [hitem, ← trunc_debit hfunds, trunc_of_nonneg (sub_nonneg.mpr hfunds)] at hbal
  exact hbal

theorem rest_le_floor (db : Database ℚ) (hq : 0 < ord.quantity) (hm : 0 < m.quantity)
    (hp : m.unitPrice ≤ ord.unitPrice) (hfunds : ord.total ≤ u.OMG) :
    ⌊(remainder db ord m).total⌋ ≤ ⌊u.OMG - transactionCost ord m⌋ := by
  refine Int.floor_le_floor ?_
  have hsplit := cost_add_rest_le db hq hm hp
  linarith

theorem remainder_accepted (db : Database ℚ) (hel : eligibleSell ord m = true)
    (hside : ord.buyOrSell = BUY) (hq : 0 < ord.quantity) (hm : 0 < m.quantity)
    (hp : 0 ≤ ord.unitPrice) (hfunds : ord.total ≤ u.OMG) :
    insufficientBalance (buyTaker u ord m) (remainder db ord m) = false ∧
      ⌊(remainder db ord m).total⌋ ≤ (buyTaker u ord m).OMG := by
  obtain ⟨hitem, -, -, hle, -⟩ := answersSell_iff.mp hel
  have hle' : m.unitPrice ≤ ord.unitPrice := by simpa using hle
  have hrest0 := rest_nonneg db m hp
  have hcost : transactionCost ord m ≤ u.OMG := by
    have hsplit := cost_add_rest_le db hq hm hle'
    linarith
  have hfloor := rest_le_floor db hq hm hle' hfunds
  have ht := transactionQuantity_pos hq hm
  have homg := buyTaker_omg hitem.symm hcost
  have hbound : ⌊(remainder db ord m).total⌋ ≤ (buyTaker u ord m).OMG := by
    rw [homg]
    split <;> omega
  have hside' : (remainder db ord m).buyOrSell = BUY := hside
  refine ⟨?_, hbound⟩
  rw [insufficientBalance_buy hside', trunc_of_nonneg hrest0]
  simpa using hbound

theorem buyFilled_of_outcome {res : Int × Database ℚ} (hf : Fillable db ord m u v)
    (hel : eligibleSell ord m = true) (hside : ord.buyOrSell = BUY) (hq : 0 < ord.quantity)
    (hm : 0 < m.quantity) (hp : 0 ≤ ord.unitPrice) (hfunds : ord.total ≤ u.OMG)
    (hout : SettleOutcome db ord m (buyTaker u ord m) (buyMaker ord m v) res) :
    res.1 = 0 ∧ BuyFilled db ord m u res.2 := by
  obtain ⟨hacc, hbound⟩ := remainder_accepted db hel hside hq hm hp hfunds
  obtain ⟨hitem, -, -, hle, -⟩ := answersSell_iff.mp hel
  have hle' : m.unitPrice ≤ ord.unitPrice := by simpa using hle
  have hrest0 := rest_nonneg db m hp
  have hcost : transactionCost ord m ≤ u.OMG := by
    have hsplit := cost_add_rest_le db hq hm hle'
    linarith
  have homg := buyTaker_omg hitem.symm hcost
  have htaker := hf.user_taker (buyTaker_sameAccount u ord m) (buyMaker_sameAccount ord m v)
  have htrunc : trunc (remainder db ord m).total = ⌊(remainder db ord m).total⌋ :=
    trunc_of_nonneg hrest0
  have hmin := transactionQuantity_eq_min ord m
  have hside' : (remainder db ord m).buyOrSell = BUY := hside
  have hspent : (buyTaker u ord m).OMG - ⌊(remainder db ord m).total⌋ =
      ⌊(u.OMG : ℚ) - (min ord.quantity m.quantity : Int) * m.unitPrice⌋ -
        ⌊((ord.quantity - min ord.quantity m.quantity : Int) : ℚ) * ord.unitPrice⌋ +
        if ord.item = COIN_OMG then min ord.quantity m.quantity else 0 := by
    have htotal : (remainder db ord m).total =
        ((ord.quantity - min ord.quantity m.quantity : Int) : ℚ) * ord.unitPrice := by
      rw [← hmin]
      rfl
    rw [homg, htotal, transactionCost_eq, hmin]
    omega
  cases hout with
  | complete hle0 =>
    have hzero : ⌊(remainder db ord m).total⌋ = 0 := by
      have hqt := transactionQuantity_le_taker ord m
      have heq : ord.quantity - transactionQuantity ord m = 0 := by omega
      have htotal : (remainder db ord m).total =
          ((ord.quantity - transactionQuantity ord m : Int) : ℚ) * ord.unitPrice := rfl
      rw [htotal, heq]
      simp
    have hbal : balanceOf ord.userID .omg (db.fill ord m (buyTaker u ord m) (buyMaker ord m v)) =
        (buyTaker u ord m).OMG - ⌊(remainder db ord m).total⌋ := by
      rw [hzero, sub_zero]
      simp [balanceOf, htaker, User.balance]
    exact ⟨rfl, hmin ▸ fallsBy_fill hf.row, hacc, hmin ▸ restsExactly_fill _ _ hf.row hle0,
      hbal.trans hspent, by rw [hbal]; omega⟩
  | refused hq' hi => cases hacc.symm.trans hi
  | rested hq' hi =>
    have hrest : (db.fill ord m (buyTaker u ord m) (buyMaker ord m v)).user
        (remainder db ord m).userID = some (buyTaker u ord m) := htaker
    have hbal := balanceOf_rested hrest hi .omg
    rw [withheld_buy hside', if_pos rfl, CDouble.rat_toInt, htrunc] at hbal
    exact ⟨rfl, hmin ▸ fallsBy_place hf.row, hacc, hmin ▸ restsExactly_remainder _ _ _ hf.row hq',
      hbal.trans hspent, hbal.symm ▸ Int.sub_nonneg_of_le hbound⟩

theorem buy_completes (S : CreatedAtSort ℚ) (hbook : SoundRows db) (hside : ord.buyOrSell = BUY)
    (hq : 0 < ord.quantity) (hp : 0 ≤ ord.unitPrice) (hu : db.user ord.userID = some u)
    (hfunds : (ord.quantity : ℚ) * ord.unitPrice ≤ u.OMG) :
    ((buy ord).run (perform S) db).1 = 0 ∧
      (∀ m, matchSell S db ord = some m →
        BuyFilled db ord m u ((buy ord).run (perform S) db).2) ∧
      (matchSell S db ord = none → BuyRested db ord u ((buy ord).run (perform S) db).2) := by
  have hout : BuyOutcome S db ord ((buy ord).run (perform S) db) := buy_outcome
  have htotal : ord.total ≤ u.OMG := hfunds
  generalize (buy ord).run (perform S) db = res at hout
  cases hout with
  | unknownUser hu' => cases hu.symm.trans hu'
  | refused u' hu' hl =>
    cases hu.symm.trans hu'
    exact absurd htotal (not_le.mpr (by simpa using hl))
  | unmatched u' hu' hl hm res hins =>
    cases hu.symm.trans hu'
    have htrunc : trunc ord.total ≤ u.OMG := trunc_le_int htotal
    cases hins with
    | refused hi =>
      rw [insufficientBalance_buy hside] at hi
      exact absurd htrunc (not_le.mpr (by simpa using hi))
    | notNull hi hn => cases hn
    | rested hi hn =>
      refine ⟨rfl, fun m hm' => ?_, fun _ => ⟨restsExactly_place db _ hq, ?_⟩⟩
      · cases hm.symm.trans hm'
      have hq' : (0 : ℚ) ≤ ord.quantity := by exact_mod_cast hq.le
      have hnonneg : 0 ≤ ord.total := mul_nonneg hq' hp
      rw [balanceOf_rested hu hi, withheld_buy hside, if_pos rfl, CDouble.rat_toInt,
        trunc_of_nonneg hnonneg]
      rfl
  | unfillable u' m hu' hl hm hv =>
    obtain ⟨hmem, -⟩ := matchSell_some hm
    have howner := hbook.owner m hmem
    have hprice := hbook.price m hmem
    rcases hv with hv | hv
    · simp [hv] at howner
    · cases hprice.symm.trans hv
  | matched u' v m hl hm hf res hset =>
    cases hu.symm.trans hf.taker
    obtain ⟨hmem, hel⟩ := matchSell_some hm
    obtain ⟨hzero, hfilled⟩ :=
      buyFilled_of_outcome hf hel hside hq (hbook.quantity m hmem) hp htotal hset
    refine ⟨hzero, fun m' hm' => ?_, fun hnone => by cases hm.symm.trans hnone⟩
    cases hm.symm.trans hm'
    exact hfilled

theorem buy_completes_wholePrice :
    ((buy (createOrder COIN_DOGE BUY 10 (3 / 4) 2)).run (perform (.stable ℚ))
      (final (apply (.stable ℚ)) wholePrice Database.empty)).1 = 0 :=
  (buy_completes (u := ⟨2, ['b'], ['p'], ['B'], 10000, 200, 50, 75⟩) (.stable ℚ)
    ⟨by decide +kernel, by decide +kernel, by decide +kernel⟩ (by decide +kernel) (by decide +kernel)
    (by decide +kernel) (by decide +kernel) (by decide +kernel)).1

end Buying

section Selling

variable [CDouble D] {S : CreatedAtSort D} {db : Database D} {ord m : Order D} {u v : User} {c : Coin}

def sellProceeds (u : User) (ord m : Order D) : Int :=
  (sellTaker u ord m).OMG - (u.addItem ord.item (-transactionQuantity ord m)).OMG

structure SellCompletes (S : CreatedAtSort D) (db : Database D) (ord : Order D) (u : User) (c : Coin)
    (res : Int × Database D) : Prop where
  accepted : res.1 = 0
  whole : (matchBuy S db ord).elim 0 (transactionQuantity ord) +
    ((newRows db res.2).map Order.quantity).sum = ord.quantity
  rests : ∀ r ∈ newRows db res.2,
    r.buyOrSell = SELL ∧ r.item = ord.item ∧ r.userID = ord.userID ∧ r.unitPrice = ord.unitPrice
  falls : ∀ m, matchBuy S db ord = some m → FallsBy m (transactionQuantity ord m) res.2
  holding : balanceOf ord.userID c res.2 = u.balance c - ord.quantity +
    if c = .omg then (matchBuy S db ord).elim 0 (sellProceeds u ord) else 0

omit [CDouble D] in
theorem insufficientHolding_iff (hc : ord.item = c.code) :
    insufficientHolding u ord = true ↔ u.balance c < ord.quantity := by
  rw [insufficientHolding]
  cases c <;> simp [hc, Coin.code, COIN_OMG, COIN_DOGE, COIN_BTC, COIN_ETH, User.balance]

theorem insufficientBalance_sell_iff (hside : ord.buyOrSell = SELL) (hc : ord.item = c.code) :
    insufficientBalance u ord = true ↔ c = .omg ∨ u.balance c < ord.quantity := by
  rw [insufficientBalance]
  cases c <;>
    simp [hside, hc, SELL, Coin.code, COIN_OMG, COIN_DOGE, COIN_BTC, COIN_ETH, User.balance]

theorem balance_sellTaker (hc : ord.item = c.code) :
    (sellTaker u ord m).balance c = u.balance c - transactionQuantity ord m +
      if c = .omg then sellProceeds u ord m else 0 := by
  have hgiven := balance_addItem u ord.item (-transactionQuantity ord m) c
  rw [if_pos hc] at hgiven
  cases c with
  | omg =>
    simp only [User.balance, sellProceeds, if_true] at hgiven ⊢
    omega
  | _ => exact hgiven.trans (by simp [sub_eq_add_neg])

omit [CDouble D] in
theorem quantities_of_restsExactly {n : Int} {after : Database D} (h : RestsExactly ord n db after) :
    ((newRows db after).map Order.quantity).sum = n ∧ ∀ r ∈ newRows db after,
      r.buyOrSell = ord.buyOrSell ∧ r.item = ord.item ∧ r.userID = ord.userID ∧
        r.unitPrice = ord.unitPrice := by
  rw [h]
  split
  · next hn => simp [hn]
  · simp

theorem sellCompletes_unmatched (hside : ord.buyOrSell = SELL) (hc : ord.item = c.code)
    (hq : 0 < ord.quantity) (hu : db.user ord.userID = some u) (hm : matchBuy S db ord = none)
    (hi : insufficientBalance u ord = false) :
    SellCompletes S db ord u c (SQLITE_OK, (db.place ord).setBalance (withholdBalance u ord)) := by
  obtain ⟨hsum, hrows⟩ := quantities_of_restsExactly
    (restsExactly_place db (withholdBalance u ord) hq)
  refine ⟨rfl, by simpa [hm] using hsum, hside ▸ hrows, fun m hm' => ?_, ?_⟩
  · cases hm.symm.trans hm'
  · rw [balanceOf_rested hu hi, withheld_sell hside, if_pos hc, hm]
    simp

theorem sellCompletes_settled {res : Int × Database D} (hf : Fillable db ord m u v)
    (hm : matchBuy S db ord = some m) (hside : ord.buyOrSell = SELL) (hc : ord.item = c.code)
    (hhold : ord.quantity ≤ u.balance c)
    (hout : SettleOutcome db ord m (sellTaker u ord m) (sellMaker ord m v) res) :
    SellCompletes S db ord u c res ↔ c ≠ .omg ∨ ord.quantity ≤ m.quantity := by
  have htaker := hf.user_taker (sellTaker_sameAccount u ord m) (sellMaker_sameAccount ord m v)
  have hbal := balance_sellTaker (u := u) (m := m) hc
  have hside' : (remainder db ord m).buyOrSell = SELL := hside
  have hc' : (remainder db ord m).item = c.code := hc
  have hmin := transactionQuantity_eq_min ord m
  cases hout with
  | complete hq =>
    have hle := transactionQuantity_le_taker ord m
    obtain ⟨hsum, hrows⟩ := quantities_of_restsExactly
      (restsExactly_fill (sellTaker u ord m) (sellMaker ord m v) hf.row hq)
    refine iff_of_true ⟨rfl, ?_, hside ▸ hrows, fun m' hm' => ?_, ?_⟩ (.inr (by omega))
    · simp only [hm, Option.elim_some, hsum]
      omega
    · cases hm.symm.trans hm'
      exact fallsBy_fill hf.row
    · simp only [balanceOf, htaker, Option.elim_some, hbal, hm]
      omega
  | refused hq hi =>
    have hok : ¬ SellCompletes S db ord u c (-1, db.fill ord m (sellTaker u ord m) (sellMaker ord m v)) := by
      rintro ⟨hcode, -⟩
      cases hcode
    refine iff_of_false hok ?_
    have hrest : (remainder db ord m).quantity = ord.quantity - transactionQuantity ord m := rfl
    rintro (hne | hle)
    · have hshort := ((insufficientBalance_sell_iff hside' hc').mp hi).resolve_left hne
      rw [hbal, if_neg hne, hrest] at hshort
      omega
    · omega
  | rested hq hi =>
    have hne : c ≠ .omg := by
      rintro rfl
      cases hi.symm.trans ((insufficientBalance_sell_iff hside' hc').mpr (.inl rfl))
    obtain ⟨hsum, hrows⟩ := quantities_of_restsExactly
      (restsExactly_remainder (sellTaker u ord m) (sellMaker ord m v)
        (withholdBalance (sellTaker u ord m) (remainder db ord m)) hf.row hq)
    refine iff_of_true ⟨rfl, ?_, hside ▸ hrows, fun m' hm' => ?_, ?_⟩ (.inl hne)
    · simp only [hm, Option.elim_some, hsum]
      omega
    · cases hm.symm.trans hm'
      exact fallsBy_place hf.row
    · have hrest : (db.fill ord m (sellTaker u ord m) (sellMaker ord m v)).user
          (remainder db ord m).userID = some (sellTaker u ord m) := htaker
      have hafter := balanceOf_rested hrest hi c
      have hquantity : (remainder db ord m).quantity = ord.quantity - transactionQuantity ord m := rfl
      rw [withheld_sell hside', if_pos hc', hbal, hquantity] at hafter
      refine hafter.trans ?_
      simp only [hne, if_false]
      omega

theorem sell_completes_iff (S : CreatedAtSort D) (hbook : SoundRows db) (hside : ord.buyOrSell = SELL)
    (hc : ord.item = c.code) (hq : 0 < ord.quantity) (hu : db.user ord.userID = some u)
    (hhold : ord.quantity ≤ u.balance c) :
    SellCompletes S db ord u c ((sell ord).run (perform S) db) ↔
      CDouble.isNaN ord.unitPrice = false ∧
        (c ≠ .omg ∨ ∃ m, matchBuy S db ord = some m ∧ ord.quantity ≤ m.quantity) := by
  have hout : SellOutcome S db ord ((sell ord).run (perform S) db) := sell_outcome
  generalize (sell ord).run (perform S) db = res at hout
  cases hout with
  | unknownUser hu' => cases hu.symm.trans hu'
  | refused u' hu' hl =>
    cases hu.symm.trans hu'
    exact absurd hhold (not_le.mpr ((insufficientHolding_iff hc).mp hl))
  | unmatched u' hu' hl hm res hins =>
    cases hu.symm.trans hu'
    have hnone : ¬ ∃ m, matchBuy S db ord = some m ∧ ord.quantity ≤ m.quantity := by
      rintro ⟨m, hm', -⟩
      cases hm.symm.trans hm'
    rw [or_iff_left hnone]
    cases hins with
    | refused hi =>
      have hok : ¬ SellCompletes S db ord u c (SQLITE_ERROR, db) := by
        rintro ⟨hcode, -⟩
        cases hcode
      refine iff_of_false hok ?_
      rintro ⟨-, hne⟩
      have hshort := ((insufficientBalance_sell_iff hside hc).mp hi).resolve_left hne
      omega
    | notNull hi hn =>
      have hok : ¬ SellCompletes S db ord u c (SQLITE_CONSTRAINT, db) := by
        rintro ⟨hcode, -⟩
        cases hcode
      exact iff_of_false hok (fun h => by cases hn.symm.trans h.1)
    | rested hi hn =>
      refine iff_of_true (sellCompletes_unmatched hside hc hq hu hm hi) ⟨hn, ?_⟩
      rintro rfl
      cases hi.symm.trans ((insufficientBalance_sell_iff hside hc).mpr (.inl rfl))
  | unfillable u' m hu' hl hm hv =>
    obtain ⟨hmem, -⟩ := matchBuy_some hm
    have howner := hbook.owner m hmem
    have hprice := hbook.price m hmem
    rcases hv with hv | hv
    · simp [hv] at howner
    · cases hprice.symm.trans hv
  | matched u' v m hl hm hf res hset =>
    cases hu.symm.trans hf.taker
    rw [sellCompletes_settled hf hm hside hc hhold hset, and_iff_right hf.price]
    simp [hm]

def newcomer : List (Op ℚ) :=
  [.register (newUser ['a'] ['p'] ['A'])]

theorem sell_omg_refused :
    ¬ ∀ (S : CreatedAtSort ℚ) (db : Database ℚ) (ord : Order ℚ) (u : User) (c : Coin), SoundRows db →
      ord.buyOrSell = SELL → ord.item = c.code → 0 < ord.quantity → db.user ord.userID = some u →
      ord.quantity ≤ u.balance c → SellCompletes S db ord u c ((sell ord).run (perform S) db) := by
  intro h
  have hsell := h (.stable ℚ) (final (apply (.stable ℚ)) newcomer Database.empty)
    (createOrder COIN_OMG SELL 1 1 1) ⟨1, ['a'], ['p'], ['A'], 10000, 200, 50, 75⟩ .omg
    ⟨by decide +kernel, by decide +kernel, by decide +kernel⟩ (by decide +kernel) (by decide +kernel)
    (by decide +kernel) (by decide +kernel) (by decide +kernel)
  have hcode := hsell.accepted
  revert hcode
  decide +kernel

theorem sell_completes_doge :
    SellCompletes (.stable ℚ) (final (apply (.stable ℚ)) newcomer Database.empty)
      (createOrder COIN_DOGE SELL 5 1 1) ⟨1, ['a'], ['p'], ['A'], 10000, 200, 50, 75⟩ .doge
      ((sell (createOrder COIN_DOGE SELL 5 1 1)).run (perform (.stable ℚ))
        (final (apply (.stable ℚ)) newcomer Database.empty)) :=
  (sell_completes_iff (.stable ℚ) ⟨by decide +kernel, by decide +kernel, by decide +kernel⟩
    (by decide +kernel) (by decide +kernel) (by decide +kernel) (by decide +kernel)
    (by decide +kernel)).mpr ⟨rfl, .inl (by decide)⟩

end Selling

end Marketplace
