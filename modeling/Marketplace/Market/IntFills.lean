import Marketplace.Market.IntBounds

namespace Marketplace
open CallTree KeyedTable Truncation Rounding

variable {db : Database Double} {ord m r : Order Double} {u v taker maker : User} {c : Coin}

section Exchange

variable {x : ℚ} {cost : Double} {z w W W' : Int}

theorem Int32.moderate (hz : Int32 z) : |z| ≤ 2 ^ 40 := by
  obtain ⟨hlow, hhigh⟩ := hz
  exact abs_le.mpr ⟨le_trans (by decide) hlow, hhigh.trans (by decide)⟩

theorem cost_moderate (hmax : x ≤ INT_MAX) : x ≤ 2 ^ 40 :=
  hmax.trans (by decide +kernel)

theorem value_credit (hz : Int32 z) (hx : 0 ≤ x) (hmax : x ≤ INT_MAX) (hv : cost.value = some x) :
    ((Double.ofRat z).add cost).value = some (binary64.round (z + x)) := by
  rw [Double.add_of_value (value_ofInt hz) hv]
  exact Double.value_ofRat_of_le ((abs_add_le_moderate hz.moderate hx (cost_moderate hmax)).trans
    (by decide +kernel))

theorem value_debit (hz : Int32 z) (hx : 0 ≤ x) (hmax : x ≤ INT_MAX) (hv : cost.value = some x) :
    ((Double.ofRat z).add cost.neg).value = some (binary64.round (z - x)) := by
  rw [Double.sub_of_value (value_ofInt hz) hv]
  have hneg : Int32 z → |((-z : Int) : ℚ) + x| ≤ 2 ^ 41 := fun hz =>
    abs_add_le_moderate (by rw [abs_neg]; exact hz.moderate) hx (cost_moderate hmax)
  have habs : |(z : ℚ) - x| = |((-z : Int) : ℚ) + x| := by
    rw [abs_sub_comm]
    push_cast
    ring_nf
  exact Double.value_ofRat_of_le ((habs.trans_le (hneg hz)).trans (by decide +kernel))

theorem credit_fits (hz : Int32 z) (hx : 0 ≤ x) (hmax : x ≤ INT_MAX) (hv : cost.value = some x)
    (hfits : Int32 (credited z x)) :
    ConversionFits (CDouble.add (CDouble.ofInt z) cost) ∧
      CDouble.toInt (CDouble.add (CDouble.ofInt z) cost) = credited z x := by
  have hvalue := value_credit hz hx hmax hv
  exact ⟨⟨_, Double.integralPart_of_value hvalue, hfits⟩, Double.toInt_of_value hvalue hfits⟩

theorem debit_fits (hz : Int32 z) (hx : 0 ≤ x) (hmax : x ≤ INT_MAX) (hv : cost.value = some x)
    (hfits : Int32 (debited z x)) :
    ConversionFits (CDouble.sub (CDouble.ofInt z) cost) ∧
      CDouble.toInt (CDouble.sub (CDouble.ofInt z) cost) = debited z x := by
  have hvalue := value_debit hz hx hmax hv
  exact ⟨⟨_, Double.integralPart_of_value hvalue, hfits⟩, Double.toInt_of_value hvalue hfits⟩

-- the money a buy moves: the taker has been checked, so what it pays covers what the maker gets
theorem buy_money (hz : Int32 z) (hw : Int32 w) (hx : 0 ≤ x) (hrep : binary64.Representable x)
    (hpaid : x ≤ z) : 0 ≤ debited z x ∧ debited z x ≤ z ∧ w ≤ credited w x ∧
      debited z x + credited w x ≤ z + max w 0 :=
  ⟨trunc_round_sub_nonneg hpaid, trunc_round_sub_le hz.moderate hx, le_trunc_round_add hw.moderate hx,
    trunc_round_exchange_le hz.moderate hx hrep hw.moderate hpaid⟩

-- the money a sell moves: the taker w is paid, the maker z pays a second time, and the matched
-- order holds W' of the W that was withheld for it
theorem sell_money (hz : Int32 z) (hw : Int32 w) (hx : 0 ≤ x) (hmax : x ≤ INT_MAX)
    (hrep : binary64.Representable x) (hrest : W' ≤ W)
    (hclear : x ≤ z ∨ (0 < w → binary64.Clear (w + x)) ∧ (z < 0 → binary64.Clear (z - x)) ∧
      trunc x + W' ≤ W) :
    w ≤ credited w x ∧ debited z x ≤ z ∧
      max (credited w x) 0 + max (debited z x) 0 + W' ≤ max w 0 + max z 0 + W ∧
      max (-debited z x) 0 + W' ≤ max (-z) 0 + W := by
  have hup : w ≤ credited w x := le_trunc_round_add hw.moderate hx
  have hdown : debited z x ≤ z := trunc_round_sub_le hz.moderate hx
  have hnonneg := trunc_nonneg hx
  rcases hclear with hpaid | ⟨hwclear, hzclear, hsplit⟩
  · have hpos : 0 ≤ debited z x := trunc_round_sub_nonneg hpaid
    have hsum : debited z x + credited w x ≤ z + max w 0 :=
      trunc_round_exchange_le hz.moderate hx hrep hw.moderate hpaid
    omega
  · have hcredit : credited w x ≤ max w 0 + trunc x :=
      trunc_round_add_le hw.moderate hx (cost_moderate hmax) hrep hwclear
    have hdebit : -debited z x ≤ max (-z) 0 + trunc x :=
      neg_trunc_round_sub_le hz.moderate hx (cost_moderate hmax) hrep hzclear
    omega

end Exchange

section Cost

variable {x : ℚ}

theorem cost_value (hm : PayableRow m) (ho : Payable ord) {ord' : Order Double} (ho' : Payable ord')
    (hq : transactionQuantity ord m ≤ ord'.quantity)
    (hp : CDouble.le m.unitPrice ord'.unitPrice = true) (hx : ord'.total.value = some x) :
    ∃ y : ℚ, 0 ≤ y ∧ y ≤ x ∧ (transactionCost ord m).value = some y := by
  obtain ⟨mp, hmp, hmprice⟩ := hm.price
  obtain ⟨p, hp0, hprice⟩ := ho'.price
  have ht := transactionQuantity_nonneg ho hm.toPayable
  have hle : mp ≤ p := by
    rw [Double.le_eq, Double.le_of_value hmprice hprice] at hp
    exact of_decide_eq_true hp
  rw [total_eq (int32_of_nonneg ho'.quantity) hprice] at hx
  rw [transactionCost_eq_ofRat (transactionQuantity_int32 ho hm.toPayable) hmprice]
  obtain ⟨hround, -⟩ := Double.ofRat_value hx
  have ht' : (0 : ℚ) ≤ transactionQuantity ord m := by exact_mod_cast ht
  have hq' : (transactionQuantity ord m : ℚ) ≤ ord'.quantity := by exact_mod_cast hq
  have hprod : (transactionQuantity ord m : ℚ) * mp ≤ ord'.quantity * p :=
    mul_le_mul hq' hle hmp (ht'.trans hq')
  have hnonneg := mul_nonneg ht' hmp
  exact ⟨_, Format.round_nonneg hnonneg, hround ▸ Format.round_mono hprod,
    Double.value_ofRat_mono hnonneg hprod (hround ▸ hx)⟩

theorem funded_total (ho : Payable ord) (hu : Int32 u.OMG)
    (hl : CDouble.lt (CDouble.ofInt u.OMG) ord.total = false) :
    ∃ x : ℚ, 0 ≤ x ∧ x ≤ u.OMG ∧ ord.total.value = some x := by
  obtain ⟨p, hp, hprice⟩ := ho.price
  have hq : (0 : ℚ) ≤ ord.quantity := by exact_mod_cast ho.quantity.1
  have htotal := total_eq (int32_of_nonneg ho.quantity) hprice
  rw [htotal] at hl ⊢
  obtain ⟨hvalue, hle⟩ := Double.value_of_not_lt (value_ofInt hu) (mul_nonneg hq hp) hl
  exact ⟨_, Format.round_nonneg (mul_nonneg hq hp), hle, hvalue⟩

theorem int_le_max {n : Int} (h : Int32 n) (hx : x ≤ n) : x ≤ INT_MAX :=
  hx.trans (by exact_mod_cast h.2)

theorem buy_cost (ho : Payable ord) (hm : PayableRow m) (hu : Int32 u.OMG)
    (hp : CDouble.le m.unitPrice ord.unitPrice = true)
    (hl : CDouble.lt (CDouble.ofInt u.OMG) ord.total = false) :
    ∃ x : ℚ, 0 ≤ x ∧ x ≤ u.OMG ∧ (transactionCost ord m).value = some x := by
  obtain ⟨x, -, hx, hvalue⟩ := funded_total ho hu hl
  obtain ⟨y, hy, hyx, hcost⟩ :=
    cost_value hm ho ho (transactionQuantity_le_taker ord m) hp hvalue
  exact ⟨y, hy, hyx.trans hx, hcost⟩

theorem Payable.le_refl (h : Payable ord) : CDouble.le ord.unitPrice ord.unitPrice = true := by
  obtain ⟨p, -, hprice⟩ := h.price
  rw [Double.le_eq, Double.le_of_value hprice hprice]
  exact decide_eq_true le_rfl

theorem sell_cost (ho : Payable ord) (hm : PayableRow m) (hb : m.buyOrSell = BUY) :
    ∃ x : ℚ, 0 ≤ x ∧ x ≤ INT_MAX ∧ (transactionCost ord m).value = some x := by
  obtain ⟨x, -, hmax, hvalue⟩ := hm.total_value hb
  obtain ⟨y, hy, hyx, hcost⟩ := cost_value hm ho hm.toPayable
    (transactionQuantity_le_maker ord m) hm.toPayable.le_refl hvalue
  exact ⟨y, hy, hyx.trans hmax, hcost⟩

theorem withheld_reduce_le (ho : Payable ord) (hm : PayableRow m) (hb : m.buyOrSell = BUY) :
    withheld .omg (m.reduce (transactionQuantity ord m)) ≤ withheld .omg m := by
  have hnonneg := transactionQuantity_nonneg ho hm.toPayable
  have hrow := hm.reduce ho
  have hb' : (m.reduce (transactionQuantity ord m)).buyOrSell = BUY := hb
  have hle : (m.reduce (transactionQuantity ord m)).quantity ≤ m.quantity := by
    rw [quantity_reduce]
    omega
  obtain ⟨x, hx, hmax, hvalue⟩ := hm.total_value hb
  obtain ⟨x', hx', hle', hvalue'⟩ := total_value_mono hrow.quantity.1 hle hm.toPayable rfl hvalue
  rw [withheld_of_value hb hx hmax hvalue, withheld_of_value hb' hx' (hle'.trans hmax) hvalue']
  exact trunc_mono hle'

end Cost

section Fills

variable {x : ℚ}

theorem itemFits_of_fitsInt {item n : Int} (h : (u.addItem item n).FitsInt) : ItemFits u item n := by
  intro c hc
  have hfits := h c
  rwa [balance_addItem, if_pos hc] at hfits

theorem FillBounds.fits {m' : Order Double} (hb : FillBounds u v taker maker m m')
    (h : Headroom u v m) (hm' : PayableRow m') : taker.FitsInt ∧ maker.FitsInt := by
  have hrow (c : Coin) := hm'.withheld_nonneg c
  have htaker (c : Coin) := held_nonneg c taker
  have hmaker (c : Coin) := held_nonneg c maker
  refine ⟨fitsInt_of (fun c => ?_) (fun c => ?_), fitsInt_of (fun c => ?_) (fun c => ?_)⟩
  · linarith [hb.held c, h.held c, hrow c, hmaker c]
  · linarith [hb.taker c, h.taker c]
  · linarith [hb.held c, h.held c, hrow c, htaker c]
  · linarith [hb.maker c, h.maker c, hrow c]

theorem fillBounds_of {m' : Order Double}
    (h : ∀ c, held c taker + held c maker + withheld c m' ≤ held c u + held c v + withheld c m ∧
      owed c maker + withheld c m' ≤ owed c v + withheld c m ∧ owed c taker ≤ owed c u) :
    FillBounds u v taker maker m m' :=
  ⟨fun c => (h c).1, fun c => (h c).2.1, fun c => (h c).2.2⟩

theorem buy_money_fits (ho : Payable ord) (hm : PayableRow m) (hs : m.buyOrSell = SELL)
    (hitem : ord.item = m.item) (hu : Int32 u.OMG) (hv : Int32 v.OMG)
    (hp : CDouble.le m.unitPrice ord.unitPrice = true)
    (hl : CDouble.lt (CDouble.ofInt u.OMG) ord.total = false) (h : Headroom u v m) :
    FillBounds u v (buyTaker u ord m) (buyMaker ord m v) m (m.reduce (transactionQuantity ord m)) ∧
      ConversionFits (CDouble.sub (CDouble.ofInt u.OMG) (transactionCost ord m)) ∧
      ConversionFits (CDouble.add (CDouble.ofInt v.OMG) (transactionCost ord m)) := by
  have ht := transactionQuantity_nonneg ho hm.toPayable
  have hne : m.item ≠ COIN_OMG := by
    rcases hm.side with hb | ⟨-, hne⟩
    · rw [hs] at hb
      cases hb
    · exact hne
  have hs' : (m.reduce (transactionQuantity ord m)).buyOrSell = SELL := hs
  obtain ⟨x, hx, hpaid, hcost⟩ := buy_cost ho hm hu hp hl
  have hmax := int_le_max hu hpaid
  obtain ⟨ha, hau, hvb, hsum⟩ := buy_money hu hv hx (Double.representable_of_value hcost) hpaid
  have hheld := h.held .omg
  have hrow := hm.withheld_nonneg .omg
  simp only [held, User.balance] at hheld
  obtain ⟨hulow, huhigh⟩ := hu
  obtain ⟨hvlow, hvhigh⟩ := hv
  obtain ⟨hdebit, hdebit'⟩ := debit_fits ⟨hulow, huhigh⟩ hx hmax hcost (int32_of_nonneg ⟨ha, by omega⟩)
  obtain ⟨hcredit, hcredit'⟩ := credit_fits ⟨hvlow, hvhigh⟩ hx hmax hcost ⟨by omega, by omega⟩
  refine ⟨fillBounds_of (fun c => ?_), hdebit, hcredit⟩
  simp only [held, owed, buyTaker, buyMaker, balance_addItem, balance_debitOMG, balance_creditOMG,
    hdebit', hcredit', withheld_sell hs, withheld_sell hs', item_reduce, quantity_reduce, hitem]
  -- the coin bought is not OMG: at each coin goods move, money moves, or nothing does
  by_cases hi : m.item = c.code
  · have homg : c ≠ .omg := by
      rintro rfl
      exact hne hi
    simp only [hi, homg, if_true, if_false]
    omega
  · by_cases homg : c = .omg
    · subst homg
      simp only [hi, if_true, if_false, User.balance]
      omega
    · simp only [hi, homg, if_false]
      omega

theorem sell_money_fits (ho : Payable ord) (hm : PayableRow m) (hb : m.buyOrSell = BUY)
    (hitem : ord.item = m.item) (hhold : ∀ c : Coin, ord.item = c.code → ord.quantity ≤ u.balance c)
    (hw : Int32 (u.addItem ord.item (-transactionQuantity ord m)).OMG) (hv : Int32 v.OMG)
    (hclear : SellClear u v ord m) (h : Headroom u v m) :
    FillBounds u v (sellTaker u ord m) (sellMaker ord m v) m (m.reduce (transactionQuantity ord m)) ∧
      ConversionFits (CDouble.add (CDouble.ofInt
        (u.addItem ord.item (-transactionQuantity ord m)).OMG) (transactionCost ord m)) ∧
      ConversionFits (CDouble.sub (CDouble.ofInt v.OMG) (transactionCost ord m)) := by
  have ht := transactionQuantity_nonneg ho hm.toPayable
  have hle := transactionQuantity_le_taker ord m
  have hb' : (m.reduce (transactionQuantity ord m)).buyOrSell = BUY := hb
  obtain ⟨x, hx, hmax, hcost⟩ := sell_cost ho hm hb
  obtain ⟨hwa, hbv, hsum, howed⟩ := sell_money hv hw hx hmax (Double.representable_of_value hcost)
    (withheld_reduce_le ho hm hb) (hclear x hcost)
  have hheld := h.held .omg
  have hmaker := h.maker .omg
  have hrest := (hm.reduce ho).withheld_nonneg .omg
  have hgoods (c : Coin) (hi : m.item = c.code) : ord.quantity ≤ u.balance c := hhold c (hitem.trans hi)
  have hgoodsOMG := hgoods .omg
  simp only [held, owed, User.balance] at hheld hmaker hgoodsOMG
  -- what the taker gives is OMG only where OMG is the coin sold
  have hgiven : (u.addItem ord.item (-transactionQuantity ord m)).OMG =
      u.OMG + if m.item = Coin.omg.code then -transactionQuantity ord m else 0 := by
    rw [← hitem]
    exact balance_addItem u ord.item (-transactionQuantity ord m) .omg
  obtain ⟨w, hw'⟩ : ∃ w, (u.addItem ord.item (-transactionQuantity ord m)).OMG = w := ⟨_, rfl⟩
  rw [hw'] at hw hwa hsum hgiven ⊢
  have hfitsA : Int32 (credited w x) := by
    obtain ⟨hwlow, hwhigh⟩ := hw
    refine ⟨by omega, ?_⟩
    split at hgiven <;> omega
  have hfitsB : Int32 (debited v.OMG x) := by
    obtain ⟨hvlow, hvhigh⟩ := hv
    refine ⟨?_, by omega⟩
    unfold INT_MIN
    unfold INT_MAX at hmaker
    omega
  obtain ⟨hcredit, hcredit'⟩ := credit_fits hw hx hmax hcost hfitsA
  obtain ⟨hdebit, hdebit'⟩ := debit_fits hv hx hmax hcost hfitsB
  refine ⟨fillBounds_of (fun c => ?_), hcredit, hdebit⟩
  simp only [held, owed, sellTaker, sellMaker, balance_addItem, balance_debitOMG, balance_creditOMG,
    hw', hdebit', hcredit', withheld_buy hb, withheld_buy hb']
  simp only [withheld_buy hb, withheld_buy hb', if_true] at hsum howed
  rw [hitem]
  by_cases hi : m.item = c.code
  · have hq := hgoods c hi
    by_cases homg : c = .omg
    · subst homg
      simp only [hi, if_true, User.balance] at hgiven hq ⊢
      omega
    · simp only [hi, homg, if_true, if_false] at hq ⊢
      omega
  · by_cases homg : c = .omg
    · subst homg
      simp only [hi, if_true, if_false, User.balance] at hgiven ⊢
      omega
    · simp only [hi, homg, if_false]
      omega

theorem quantities_int32 (ho : Payable ord) (hm : PayableRow m) :
    Int32 (ord.quantity - transactionQuantity ord m) ∧ Int32 (m.quantity - transactionQuantity ord m) := by
  have ht := transactionQuantity_nonneg ho hm.toPayable
  have hle := transactionQuantity_le_taker ord m
  have hle' := transactionQuantity_le_maker ord m
  obtain ⟨-, hmax⟩ := ho.quantity
  obtain ⟨-, hmmax⟩ := hm.quantity
  exact ⟨int32_of_nonneg ⟨by omega, by omega⟩, int32_of_nonneg ⟨by omega, by omega⟩⟩

theorem insertFits (hu : u.FitsInt) (ho : Payable ord)
    (hside : ord.buyOrSell = BUY ∨ ord.buyOrSell = SELL)
    (hcost : ord.buyOrSell = BUY → ∃ x : ℚ, ord.total.value = some x ∧ x ≤ INT_MAX) :
    InsertFits u ord := by
  refine ⟨fun hb => ?_, fun hi _ => ?_⟩
  · obtain ⟨x, hvalue, hmax⟩ := hcost hb
    obtain ⟨x', hx', -, hvalue'⟩ := total_value_mono ho.quantity.1 le_rfl ho rfl hvalue
    rw [hvalue] at hvalue'
    cases hvalue'
    exact ⟨_, Double.integralPart_of_value hvalue, trunc_int32 hx' hmax⟩
  · have hrow := payableRow_of_accepted ho hi hside hcost
    have hbounds (c : Coin) : Int32 (u.balance c - withheld c ord) := by
      have hnonneg := hrow.withheld_nonneg c
      obtain ⟨hlow, hhigh⟩ := hu c
      unfold INT_MIN at hlow
      rcases withheld_or_le hi hside c with hzero | hle
      · constructor
        · unfold INT_MIN
          omega
        · omega
      · exact int32_of_nonneg ⟨by omega, by omega⟩
    refine ⟨fun hb => ?_, fun hs c _ hc => ?_⟩
    · have homg := hbounds .omg
      rwa [withheld_buy hb, if_pos rfl] at homg
    · have hcoin := hbounds c
      rwa [withheld_sell hs, if_pos hc] at hcoin

theorem refund_bounds (h : PayableRow r) (hu : u.FitsInt) (hclear : RefundClear u r)
    (hroom : ∀ c, held c u + withheld c r ≤ INT_MAX) : RefundFits u r ∧
      ∀ c, u.balance c ≤ (refundBalance u r).balance c ∧
        held c (refundBalance u r) ≤ held c u + withheld c r := by
  rcases h.side with hb | ⟨hs, -⟩
  · obtain ⟨x, hx, hmax, hvalue⟩ := h.total_value hb
    have hwithheld := withheld_of_value hb hx hmax hvalue
    have hnonneg := trunc_nonneg hx
    have homg32 : Int32 u.OMG := hu .omg
    have hup : u.OMG ≤ credited u.OMG x := le_trunc_round_add homg32.moderate hx
    have hdown : credited u.OMG x ≤ max u.OMG 0 + trunc x :=
      trunc_round_add_le homg32.moderate hx (cost_moderate hmax) (Double.representable_of_value hvalue)
        (hclear hb x hvalue)
    have homg := hroom .omg
    rw [hwithheld, if_pos rfl] at homg
    simp only [held, User.balance] at homg
    obtain ⟨hlow, hhigh⟩ := homg32
    obtain ⟨hfits, hsum⟩ := credit_fits ⟨hlow, hhigh⟩ hx hmax hvalue ⟨by omega, by omega⟩
    refine ⟨⟨fun _ => hfits, fun hne => absurd hb hne⟩, fun c => ?_⟩
    have h0 : r.buyOrSell = 0 := hb
    rw [refundBalance, if_pos h0, hwithheld, held, held, balance_creditOMG, hsum]
    split
    · next hc =>
      subst hc
      simp only [User.balance]
      constructor <;> omega
    · constructor <;> omega
  · have h0 : ¬ r.buyOrSell = 0 := by
      rw [hs]
      decide
    have hq := h.quantity.1
    have hne : r.buyOrSell ≠ BUY := h0
    refine ⟨⟨fun hb => absurd hb hne, fun _ c hc => ?_⟩, fun c => ?_⟩
    · have hcoin := hroom c
      obtain ⟨hlow, hhigh⟩ := hu c
      rw [withheld_sell hs, if_pos hc] at hcoin
      simp only [held] at hcoin
      exact ⟨by omega, by omega⟩
    · rw [refundBalance, if_neg h0, withheld_sell hs, held, held, balance_addItem]
      split <;> constructor <;> omega

theorem remainder_total {x : ℚ} (ho : Payable ord) (hm : Payable m)
    (hvalue : ord.total.value = some x) (hx : x ≤ INT_MAX) :
    ∃ x' : ℚ, (remainder db ord m).total.value = some x' ∧ x' ≤ INT_MAX := by
  have ht := transactionQuantity_nonneg ho hm
  have hless : (remainder db ord m).quantity ≤ ord.quantity := by
    change ord.quantity - transactionQuantity ord m ≤ ord.quantity
    omega
  have hrest : Payable (remainder db ord m) := ho.remainder hm
  obtain ⟨x', -, hx', hvalue'⟩ := total_value_mono hrest.quantity.1 hless ho rfl hvalue
  exact ⟨x', hvalue', hx'.trans hx⟩

theorem buyFill_fits (ho : Payable ord) (hm : PayableRow m) (hs : m.buyOrSell = SELL)
    (hside : ord.buyOrSell = BUY) (hitem : ord.item = m.item) (hu : u.FitsInt) (hv : v.FitsInt)
    (hp : CDouble.le m.unitPrice ord.unitPrice = true)
    (hl : CDouble.lt (CDouble.ofInt u.OMG) ord.total = false) (h : Headroom u v m) :
    FillBounds u v (buyTaker u ord m) (buyMaker ord m v) m (m.reduce (transactionQuantity ord m)) ∧
      BuyFillFits db ord m u v := by
  obtain ⟨hbounds, hdebit, hcredit⟩ := buy_money_fits ho hm hs hitem (hu .omg) (hv .omg) hp hl h
  obtain ⟨htaker, hmaker⟩ := hbounds.fits h (hm.reduce ho)
  obtain ⟨hquantity, hrow⟩ := quantities_int32 ho hm
  refine ⟨hbounds, ⟨hquantity, hrow, ⟨hdebit, itemFits_of_fitsInt htaker⟩,
    ⟨hcredit, itemFits_of_fitsInt hmaker⟩⟩, fun _ => ?_⟩
  obtain ⟨x, -, hx, hvalue⟩ := funded_total ho (hu .omg) hl
  refine insertFits htaker (ho.remainder hm.toPayable) (.inl hside) (fun _ => ?_)
  exact remainder_total ho hm.toPayable hvalue (int_le_max (hu .omg) hx)

theorem sellFill_fits (ho : Payable ord) (hm : PayableRow m) (hb : m.buyOrSell = BUY)
    (hside : ord.buyOrSell = SELL) (hitem : ord.item = m.item) (hu : u.FitsInt) (hv : v.FitsInt)
    (hhold : ∀ c : Coin, ord.item = c.code → ord.quantity ≤ u.balance c)
    (hclear : SellClear u v ord m) (h : Headroom u v m) :
    FillBounds u v (sellTaker u ord m) (sellMaker ord m v) m (m.reduce (transactionQuantity ord m)) ∧
      SellFillFits db ord m u v := by
  have ht := transactionQuantity_nonneg ho hm.toPayable
  have hle := transactionQuantity_le_taker ord m
  have hgiven : (u.addItem ord.item (-transactionQuantity ord m)).FitsInt := by
    intro c
    obtain ⟨hlow, hhigh⟩ := hu c
    rw [balance_addItem]
    split
    · next hc =>
      have hq := hhold c hc
      exact int32_of_nonneg ⟨by omega, by omega⟩
    · rw [add_zero]
      exact ⟨hlow, hhigh⟩
  obtain ⟨hbounds, hcredit, hdebit⟩ :=
    sell_money_fits ho hm hb hitem hhold (hgiven .omg) (hv .omg) hclear h
  obtain ⟨htaker, hmaker⟩ := hbounds.fits h (hm.reduce ho)
  obtain ⟨hquantity, hrow⟩ := quantities_int32 ho hm
  refine ⟨hbounds, ⟨hquantity, hrow, ⟨itemFits_of_fitsInt hgiven, hcredit⟩,
    ⟨hdebit, itemFits_of_fitsInt hmaker⟩⟩, fun _ => ?_⟩
  refine insertFits htaker (ho.remainder hm.toPayable) (.inr hside) (fun hbuy => ?_)
  have hsell : (remainder db ord m).buyOrSell = SELL := hside
  rw [hbuy] at hsell
  cases hsell

end Fills

end Marketplace
