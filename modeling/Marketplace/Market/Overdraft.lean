import Marketplace.Market.IntFills

namespace Marketplace
open CallTree KeyedTable Truncation Rounding Runs

section Definitions

variable {D : Type} [CDouble D]

def User.Nonneg (u : User) : Prop :=
  ∀ c : Coin, 0 ≤ u.balance c

omit [CDouble D] in
def Solvent (db : Database D) : Prop :=
  ∀ u ∈ db.users.rows, u.Nonneg

def NonnegPrice (p : D) : Prop :=
  CDouble.le (CDouble.ofInt 0) p = true

def Op.Admissible : Op D → Prop
  | .register newUser => newUser.Nonneg ∧ newUser.FitsInt
  | .buy ord => ord.buyOrSell = BUY ∧ (0 < ord.quantity ∧ ord.quantity ≤ INT_MAX) ∧
      NonnegPrice ord.unitPrice
  | .sell ord => ord.buyOrSell = SELL ∧ (0 < ord.quantity ∧ ord.quantity ≤ INT_MAX) ∧
      NonnegPrice ord.unitPrice
  | .cancelOrder _ _ => True
  | .elapse _ => True

structure Resting (r : Order D) : Prop where
  side : r.buyOrSell = BUY ∨ (r.buyOrSell = SELL ∧ r.item ≠ COIN_OMG)
  quantity : 0 < r.quantity ∧ r.quantity ≤ INT_MAX
  unitPrice : NonnegPrice r.unitPrice

def BookSound (db : Database D) : Prop :=
  ∀ r ∈ db.orders.rows, Resting r

-- the cost is a product of doubles: it may have rounded up to the next whole coin
def MakerCanPay (S : CreatedAtSort D) : Op D → Database D → Prop
  | .buy ord, db => ∀ u ∈ db.user ord.userID, CDouble.lt (CDouble.ofInt u.OMG) ord.total = false →
      ∀ m ∈ matchSell S db ord, ∀ v ∈ db.user m.userID, ∀ c : Coin, m.item = c.code →
        transactionQuantity ord m ≤ v.balance c
  | .sell ord, db => ∀ u ∈ db.user ord.userID, insufficientHolding u ord = false →
      ∀ m ∈ matchBuy S db ord, ∀ v ∈ db.user m.userID,
        CDouble.lt (transactionCost ord m) (CDouble.ofInt
          (v.OMG + (if m.item = COIN_OMG then transactionQuantity ord m else 0) + 1)) = true
  | _, _ => True

instance (u : User) : Decidable u.Nonneg :=
  inferInstanceAs (Decidable (∀ c : Coin, 0 ≤ u.balance c))

instance (db : Database D) : Decidable (Solvent db) :=
  inferInstanceAs (Decidable (∀ u ∈ db.users.rows, u.Nonneg))

instance (p : D) : Decidable (NonnegPrice p) :=
  inferInstanceAs (Decidable (_ = true))

instance : DecidablePred (Op.Admissible (D := D))
  | .register newUser => inferInstanceAs (Decidable (newUser.Nonneg ∧ newUser.FitsInt))
  | .buy ord => inferInstanceAs (Decidable (ord.buyOrSell = BUY ∧ _ ∧ NonnegPrice ord.unitPrice))
  | .sell ord => inferInstanceAs (Decidable (ord.buyOrSell = SELL ∧ _ ∧ NonnegPrice ord.unitPrice))
  | .cancelOrder _ _ => inferInstanceAs (Decidable True)
  | .elapse _ => inferInstanceAs (Decidable True)

instance decidableMakerCanPay (S : CreatedAtSort D) :
    ∀ (op : Op D) (db : Database D), Decidable (MakerCanPay S op db)
  | .buy ord, db => inferInstanceAs (Decidable (∀ u ∈ db.user ord.userID, _ → ∀ m ∈ _, _))
  | .sell ord, db => inferInstanceAs (Decidable (∀ u ∈ db.user ord.userID, _ → ∀ m ∈ _, _))
  | .register _, _ => inferInstanceAs (Decidable True)
  | .cancelOrder _ _, _ => inferInstanceAs (Decidable True)
  | .elapse _, _ => inferInstanceAs (Decidable True)

end Definitions

section Book

variable {D : Type} [CDouble D] {db : Database D} {ord r : Order D} {op : Op D}

theorem resting_new (hb : BookSound db) (hq : 0 < ord.quantity ∧ ord.quantity ≤ INT_MAX)
    (hp : NonnegPrice ord.unitPrice)
    (hside : ord.buyOrSell = BUY ∨ ord.buyOrSell = SELL) (h : NewRow db ord r) : Resting r := by
  have unposted {u : User} {o : Order D} (hs : o.buyOrSell = BUY ∨ o.buyOrSell = SELL)
      (hi : insufficientBalance u o = false) :
      o.buyOrSell = BUY ∨ (o.buyOrSell = SELL ∧ o.item ≠ COIN_OMG) := by
    refine hs.imp_right (fun hs => ⟨hs, ?_⟩)
    rcases insufficientBalance_sell hs hi with ⟨hc, -⟩ | ⟨hc, -⟩ | ⟨hc, -⟩ <;> rw [hc] <;> decide
  cases h with
  | posted u hu hi hn hr =>
    subst hr
    exact ⟨unposted hside hi, hq, hp⟩
  | reduced m hm hq' hr =>
    subst hr
    obtain ⟨hms, hmq, hmp⟩ := hb m hm
    have hle := transactionQuantity_le_maker ord m
    have hpos := transactionQuantity_pos hq.1 hmq.1
    refine ⟨hms, ?_, hmp⟩
    rw [quantity_reduce]
    exact ⟨by omega, by linarith [hmq.2]⟩
  | remainder m u old hm hq' hi hn hr =>
    subst hr
    have hpos := transactionQuantity_pos hq.1 (hb m hm).quantity.1
    have hmax : ord.quantity - transactionQuantity ord m ≤ INT_MAX := by
      linarith [hq.2]
    exact ⟨unposted (o := remainder db ord m) hside hi, ⟨hq', hmax⟩, hp⟩

theorem bookSound_apply {S : CreatedAtSort D} (hop : op.Admissible) (hb : BookSound db) :
    BookSound (apply S op db) := by
  refine apply_rows hb (fun ord r hord hr => ?_)
  rcases hord with rfl | rfl
  · exact resting_new hb hop.2.1 hop.2.2 (.inl hop.1) hr
  · exact resting_new hb hop.2.1 hop.2.2 (.inr hop.1) hr

end Book

section Balances

variable {D : Type} [CDouble D] {db : Database D} {u v taker maker : User} {ord m : Order D}
  {id : Int}

omit [CDouble D] in
theorem solvent_setBalance (hu : db.user id = some u) (h : v.SameAccount u) :
    Solvent (db.setBalance v) ↔
      v.Nonneg ∧ ∀ r ∈ db.users.rows, r.userID ≠ id → r.Nonneg := by
  constructor
  · intro hs
    exact ⟨hs v ((Database.mem_users_setBalance hu h).mpr (.inl rfl)),
      fun r hr hk => hs r ((Database.mem_users_setBalance hu h).mpr (.inr ⟨hr, hk⟩))⟩
  · rintro ⟨hv, hrest⟩ r hr
    rcases (Database.mem_users_setBalance hu h).mp hr with rfl | ⟨hr, hk⟩
    · exact hv
    · exact hrest r hr hk

theorem solvent_withhold (hs : Solvent db) (hu : db.user ord.userID = some u)
    (hw : (withholdBalance u ord).Nonneg) :
    Solvent ((db.place ord).setBalance (withholdBalance u ord)) := by
  have hu' : (db.place ord).user ord.userID = some u := hu
  exact (solvent_setBalance hu' (withholdBalance_sameAccount u ord)).mpr ⟨hw, fun r hr _ => hs r hr⟩

theorem solvent_fill (hs : Solvent db) (hf : Fillable db ord m u v) (ht : taker.SameAccount u)
    (hm : maker.SameAccount v) (hn : taker.Nonneg) :
    Solvent (db.fill ord m taker maker) ↔ maker.Nonneg := by
  have husers : Solvent (db.fill ord m taker maker) ↔
      Solvent ((db.setBalance taker).setBalance maker) := by
    rw [Solvent, users_fill]
    rfl
  have htaker : Solvent (db.setBalance taker) :=
    (solvent_setBalance hf.taker ht).mpr ⟨hn, fun r hr _ => hs r hr⟩
  rw [husers, solvent_setBalance (hf.maker_unmoved ht) hm]
  exact and_iff_left (fun r hr _ => htaker r hr)

theorem withhold_nonneg (hu : u.Nonneg) (hi : insufficientBalance u ord = false)
    (hside : ord.buyOrSell = BUY ∨ ord.buyOrSell = SELL) : (withholdBalance u ord).Nonneg := by
  intro c
  have hc := hu c
  rw [balance_withholdBalance hi]
  rcases withheld_or_le hi hside c with h | h <;> omega

theorem solvent_settleOutcome {res : Int × Database D} (hs : Solvent db)
    (hf : Fillable db ord m u v) (ht : taker.SameAccount u) (hm : maker.SameAccount v)
    (hn : taker.Nonneg) (hside : ord.buyOrSell = BUY ∨ ord.buyOrSell = SELL)
    (h : SettleOutcome db ord m taker maker res) : Solvent res.2 ↔ maker.Nonneg := by
  have hfill := solvent_fill hs hf ht hm hn
  cases h with
  | complete hq => exact hfill
  | refused hq hi => exact hfill
  | rested hq hi =>
    have hu : (db.fill ord m taker maker).user (remainder db ord m).userID = some taker :=
      hf.user_taker ht hm
    constructor
    · intro hres
      have hu' : ((db.fill ord m taker maker).place (remainder db ord m)).user
          (remainder db ord m).userID = some taker := hu
      obtain ⟨-, hrest⟩ := (solvent_setBalance hu' (withholdBalance_sameAccount _ _)).mp hres
      have hmaker : maker ∈ (db.fill ord m taker maker).users.rows :=
        Database.user_mem (hf.user_maker ht hm)
      apply hrest maker hmaker
      rw [hm.1, Database.user_userID hf.maker]
      exact hf.other
    · intro hmaker
      have hside' : (remainder db ord m).buyOrSell = BUY ∨ (remainder db ord m).buyOrSell = SELL :=
        hside
      exact solvent_withhold (hfill.mpr hmaker) hu (withhold_nonneg hn hi hside')

end Balances

section Prices

variable {p x : Double} {q : ℚ} {n z : Int}

theorem nonnegPrice_value (hp : NonnegPrice p) (hq : p.value = some q) : 0 ≤ q := by
  have hzero : (Double.ofRat ((0 : Int) : ℚ)).value = some ((0 : Int) : ℚ) :=
    value_ofInt (by decide)
  rw [NonnegPrice, Double.ofInt_eq, Double.le_eq, Double.le_of_value hzero hq] at hp
  simpa using of_decide_eq_true hp

theorem nonnegPrice_cases (hp : NonnegPrice p) :
    (∃ q : ℚ, 0 ≤ q ∧ p.value = some q) ∨ p = .inf false := by
  cases p with
  | finite b => exact .inl ⟨b.val, nonnegPrice_value hp rfl, rfl⟩
  | inf negative =>
    cases negative with
    | false => exact .inr rfl
    | true => exact absurd hp (by decide +kernel)
  | nan => exact absurd hp (by decide +kernel)

theorem mul_inf (hn : 0 < n ∧ n ≤ INT_MAX) : (Double.ofRat n).mul (.inf false) = .inf false := by
  obtain ⟨b, hb, hval⟩ := Double.finite_of_value (value_ofInt (int32_of_nonneg ⟨hn.1.le, hn.2⟩))
  have hpos : (0 : ℚ) < n := by exact_mod_cast hn.1
  rw [hb, Double.mul, hval, if_neg hpos.ne', decide_eq_false hpos.not_gt]
  rfl

theorem product_nonneg (hn : 0 < n ∧ n ≤ INT_MAX) (hp : NonnegPrice p)
    (hq : (CDouble.mul (CDouble.ofInt n) p).value = some q) : 0 ≤ q := by
  have hint : Int32 n := int32_of_nonneg ⟨hn.1.le, hn.2⟩
  rw [Double.ofInt_eq, Double.mul_eq] at hq
  rcases nonnegPrice_cases hp with ⟨r, hr, hvalue⟩ | rfl
  · rw [Double.mul_of_value (value_ofInt hint) hvalue] at hq
    obtain ⟨hround, -⟩ := Double.ofRat_value hq
    have hn' : (0 : ℚ) ≤ n := by exact_mod_cast hn.1.le
    exact hround ▸ Format.round_nonneg (mul_nonneg hn' hr)
  · rw [mul_inf hn] at hq
    cases hq

-- a conversion that fits has converted a finite double
theorem conversionFits_value (h : ConversionFits x) :
    ∃ q : ℚ, x.value = some q ∧ Int32 (trunc q) ∧ CDouble.toInt x = trunc q := by
  obtain ⟨n, hn, hfits⟩ := h
  obtain ⟨q, hq, rfl⟩ := Option.map_eq_some_iff.mp hn
  exact ⟨q, hq, hfits, Double.toInt_of_value hq hfits⟩

theorem credit_value (hz : Int32 z) (h : ConversionFits (CDouble.add (CDouble.ofInt z) x)) :
    ∃ q : ℚ, x.value = some q ∧ q ≤ 2 ^ 40 ∧
      CDouble.toInt (CDouble.add (CDouble.ofInt z) x) = credited z q := by
  obtain ⟨r, hr, ⟨-, hmax⟩, htoInt⟩ := conversionFits_value h
  rw [htoInt]
  rw [Double.ofInt_eq, Double.add_eq] at hr
  obtain ⟨b, hb, hval⟩ := Double.finite_of_value (value_ofInt hz)
  rw [hb] at hr
  cases x with
  | finite c =>
    obtain ⟨rfl, -⟩ := Double.ofRat_value hr
    rw [hval] at hmax ⊢
    refine ⟨c.val, rfl, ?_, rfl⟩
    by_contra hlarge
    have hbig : ((2 ^ 31 : Int) : ℚ) ≤ z + c.val := by
      have hlow : ((INT_MIN : Int) : ℚ) ≤ z := by exact_mod_cast hz.1
      have hpow : ((2 ^ 31 : Int) : ℚ) ≤ (INT_MIN : Int) + 2 ^ 40 := by decide +kernel
      linarith [not_le.mp hlarge]
    have hround := (representable_moderate (by decide)).le_round hbig
    have htrunc := trunc_mono hround
    rw [trunc_intCast] at htrunc
    exact absurd (htrunc.trans hmax) (by decide)
  | inf negative => cases hr
  | nan => cases hr

theorem debit_value (hz : Int32 z) (hq : x.value = some q)
    (h : ConversionFits (CDouble.sub (CDouble.ofInt z) x)) :
    CDouble.toInt (CDouble.sub (CDouble.ofInt z) x) = debited z q := by
  obtain ⟨r, hr, -, htoInt⟩ := conversionFits_value h
  rw [Double.ofInt_eq, Double.sub_eq, Double.sub_of_value (value_ofInt hz) hq] at hr
  obtain ⟨rfl, -⟩ := Double.ofRat_value hr
  exact htoInt

end Prices

section Parties

variable {u v : User} {ord m r : Order Double} {x : Double} {q : ℚ}

theorem Resting.payable (h : Resting r) (hp : r.unitPrice ≠ .inf false) : Payable r :=
  ⟨⟨h.quantity.1.le, h.quantity.2⟩, (nonnegPrice_cases h.unitPrice).resolve_right hp⟩

theorem transactionQuantity_bounds (hq : 0 < ord.quantity ∧ ord.quantity ≤ INT_MAX)
    (hm : Resting m) : 0 < transactionQuantity ord m ∧ transactionQuantity ord m ≤ INT_MAX :=
  ⟨transactionQuantity_pos hq.1 hm.quantity.1, (transactionQuantity_le_taker ord m).trans hq.2⟩

theorem transactionCost_nonneg (hq : 0 < ord.quantity ∧ ord.quantity ≤ INT_MAX) (hm : Resting m)
    (hx : (transactionCost ord m).value = some q) : 0 ≤ q :=
  product_nonneg (transactionQuantity_bounds hq hm) hm.unitPrice hx

-- an infinite price makes the total infinite, which no balance covers
theorem payable_of_funded (hq : 0 < ord.quantity ∧ ord.quantity ≤ INT_MAX)
    (hp : NonnegPrice ord.unitPrice) (hu : Int32 u.OMG)
    (hl : CDouble.lt (CDouble.ofInt u.OMG) ord.total = false) : Payable ord := by
  refine ⟨⟨hq.1.le, hq.2⟩, (nonnegPrice_cases hp).resolve_right (fun hinf => ?_)⟩
  obtain ⟨b, hb, -⟩ := Double.finite_of_value (value_ofInt hu)
  have htotal : ord.total = .inf false := by
    rw [Order.total, hinf]
    exact mul_inf hq
  rw [htotal, Double.ofInt_eq, hb] at hl
  cases hl

theorem payableRow_of_matched (ho : Payable ord) (hm : Resting m) (hs : m.buyOrSell = SELL)
    (hp : CDouble.le m.unitPrice ord.unitPrice = true) : PayableRow m := by
  obtain ⟨p, -, hprice⟩ := ho.price
  refine ⟨hm.payable (fun hinf => ?_), hm.side, fun hb => ?_⟩
  · obtain ⟨b, hb, -⟩ := Double.finite_of_value hprice
    rw [hinf, hb] at hp
    cases hp
  · rw [hs] at hb
    cases hb

theorem creditOMG_nonneg (hu : u.Nonneg) (hint : Int32 u.OMG)
    (hx : ∀ q : ℚ, x.value = some q → 0 ≤ q)
    (h : ConversionFits (CDouble.add (CDouble.ofInt u.OMG) x)) : (u.creditOMG x).Nonneg := by
  obtain ⟨q, hvalue, -, hsum⟩ := credit_value hint h
  intro c
  rw [balance_creditOMG]
  split
  · have hOMG : (0 : ℚ) ≤ u.OMG := by exact_mod_cast hu .omg
    rw [hsum]
    exact trunc_nonneg (Format.round_nonneg (add_nonneg hOMG (hx q hvalue)))
  · exact hu c

theorem debitOMG_nonneg (hu : u.Nonneg) (hint : Int32 u.OMG) (hx : x.value = some q)
    (hpaid : q ≤ u.OMG) (h : ConversionFits (CDouble.sub (CDouble.ofInt u.OMG) x)) :
    (u.debitOMG x).Nonneg := by
  intro c
  rw [balance_debitOMG]
  split
  · rw [debit_value hint hx h]
    exact trunc_round_sub_nonneg hpaid
  · exact hu c

theorem addItem_nonneg (hu : u.Nonneg) {item n : Int}
    (h : ∀ c : Coin, item = c.code → 0 ≤ u.balance c + n) : (u.addItem item n).Nonneg := by
  intro c
  rw [balance_addItem]
  split
  · next hc => exact h c hc
  · simpa using hu c

variable {db : Database Double}

theorem buyTaker_nonneg (hu : u.Nonneg) (hint : Int32 u.OMG)
    (hl : CDouble.lt (CDouble.ofInt u.OMG) ord.total = false)
    (hq : 0 < ord.quantity ∧ ord.quantity ≤ INT_MAX) (hprice : NonnegPrice ord.unitPrice)
    (hm : Resting m) (hs : m.buyOrSell = SELL) (hp : CDouble.le m.unitPrice ord.unitPrice = true)
    (hfits : BuyFillFits db ord m u v) : (buyTaker u ord m).Nonneg := by
  obtain ⟨⟨-, -, ⟨hdebit, -⟩, -⟩, -⟩ := hfits
  have ho : Payable ord := payable_of_funded hq hprice hint hl
  have hrow : PayableRow m := payableRow_of_matched ho hm hs hp
  obtain ⟨x, -, hpaid, hcost⟩ := buy_cost ho hrow hint hp hl
  have hpay := debitOMG_nonneg hu hint hcost hpaid hdebit
  refine addItem_nonneg hpay (fun c _ => ?_)
  have hc := hpay c
  have ht := transactionQuantity_pos hq.1 hm.quantity.1
  omega

theorem buyMaker_nonneg_iff (hv : v.Nonneg) (hint : Int32 v.OMG)
    (hq : 0 < ord.quantity ∧ ord.quantity ≤ INT_MAX) (hm : Resting m) (hitem : m.item ≠ COIN_OMG)
    (hfits : BuyFillFits db ord m u v) :
    (buyMaker ord m v).Nonneg ↔
      ∀ c : Coin, m.item = c.code → transactionQuantity ord m ≤ v.balance c := by
  obtain ⟨⟨-, -, -, ⟨hcredit, -⟩⟩, -⟩ := hfits
  have hpaid : (v.creditOMG (transactionCost ord m)).Nonneg :=
    creditOMG_nonneg hv hint (fun q hx => transactionCost_nonneg hq hm hx) hcredit
  have hsame (c : Coin) (hc : m.item = c.code) :
      (v.creditOMG (transactionCost ord m)).balance c = v.balance c := by
    rw [balance_creditOMG, if_neg]
    rintro rfl
    exact hitem hc
  constructor
  · intro h c hc
    have hbal := h c
    rw [buyMaker, balance_addItem, if_pos hc, hsame c hc] at hbal
    omega
  · intro h
    refine addItem_nonneg hpaid (fun c hc => ?_)
    have := h c hc
    rw [hsame c hc]
    omega

theorem sellTaker_nonneg (hu : u.Nonneg) (hint : u.FitsInt) (hl : insufficientHolding u ord = false)
    (hq : 0 < ord.quantity ∧ ord.quantity ≤ INT_MAX) (hm : Resting m)
    (hfits : SellFillFits db ord m u v) : (sellTaker u ord m).Nonneg := by
  obtain ⟨⟨-, -, ⟨hgive, hcredit⟩, -⟩, -⟩ := hfits
  have hgiven : (u.addItem ord.item (-transactionQuantity ord m)).FitsInt :=
    fitsInt_addItem hint hgive
  refine creditOMG_nonneg (addItem_nonneg hu (fun c hc => ?_)) (hgiven .omg)
    (fun q hx => transactionCost_nonneg hq hm hx) hcredit
  have hhold := quantity_le_holding hl hc
  have hle := transactionQuantity_le_taker ord m
  omega

theorem sellMaker_nonneg_iff (hu : u.FitsInt) (hv : v.Nonneg) (hint : Int32 v.OMG)
    (hq : 0 < ord.quantity ∧ ord.quantity ≤ INT_MAX) (hm : Resting m)
    (hfits : SellFillFits db ord m u v) :
    (sellMaker ord m v).Nonneg ↔
      CDouble.lt (transactionCost ord m) (CDouble.ofInt
        (v.OMG + (if m.item = COIN_OMG then transactionQuantity ord m else 0) + 1)) = true := by
  obtain ⟨⟨-, -, ⟨hgive, hcredit⟩, ⟨hdebit, -⟩⟩, -⟩ := hfits
  obtain ⟨ht, htmax⟩ := transactionQuantity_bounds hq hm
  have hgiven : (u.addItem ord.item (-transactionQuantity ord m)).FitsInt :=
    fitsInt_addItem hu hgive
  obtain ⟨x, hcost, hmax, -⟩ := credit_value (hgiven .omg) hcredit
  have hleft := debit_value hint hcost hdebit
  have hbal (c : Coin) : (sellMaker ord m v).balance c =
      (if c = .omg then debited v.OMG x else v.balance c) +
        if m.item = c.code then transactionQuantity ord m else 0 := by
    rw [sellMaker, balance_addItem, balance_debitOMG, hleft]
  have hOMG : 0 ≤ v.OMG := hv .omg
  obtain ⟨-, hhigh⟩ := hint
  set back : Int := if m.item = COIN_OMG then transactionQuantity ord m else 0 with hback
  have hback0 : 0 ≤ back ∧ back ≤ INT_MAX := by
    rw [hback]
    split
    · exact ⟨ht.le, htmax⟩
    · decide
  have hsum : (Double.ofRat ((v.OMG + back + 1 : Int) : ℚ)).value =
      some ((v.OMG + back + 1 : Int) : ℚ) := by
    refine Double.value_ofInt (abs_lt.mpr ?_)
    unfold INT_MAX at hhigh hback0
    constructor <;> omega
  have hneg : -back ≤ 0 := by omega
  have hrep : binary64.Representable x := Double.representable_of_value hcost
  have hround : -back ≤ debited v.OMG x ↔ CDouble.lt (transactionCost ord m)
      (CDouble.ofInt (v.OMG + back + 1)) = true := by
    rw [Double.ofInt_eq, Double.lt_eq, Double.lt_of_value hcost hsum, decide_eq_true_iff, debited,
      nonpos_le_trunc_round_sub_iff hOMG hrep hneg hmax]
    push_cast
    constructor <;> intro h <;> linarith
  rw [← hround]
  constructor
  · intro h
    have homg := h .omg
    rw [hbal] at homg
    change 0 ≤ debited v.OMG x + back at homg
    omega
  · intro h c
    rw [hbal]
    split
    · next hc =>
      subst hc
      change 0 ≤ debited v.OMG x + back
      omega
    · have hc := hv c
      split <;> omega

end Parties

section Step

variable {S : CreatedAtSort Double} {db : Database Double} {ord : Order Double}

theorem solvent_insertOutcome {u : User} {res : Int × Database Double} (hs : Solvent db)
    (hu : db.user ord.userID = some u) (hside : ord.buyOrSell = BUY ∨ ord.buyOrSell = SELL)
    (h : InsertOutcome db u ord res) : Solvent res.2 := by
  cases h with
  | refused hi => exact hs
  | notNull hi hn => exact hs
  | rested hi hn =>
    exact solvent_withhold hs hu (withhold_nonneg (hs u (Database.user_mem hu)) hi hside)

theorem isNaN_of_nonnegPrice {p : Double} (hp : NonnegPrice p) : CDouble.isNaN p = false := by
  rcases nonnegPrice_cases hp with ⟨q, -, hq⟩ | rfl
  · obtain ⟨b, rfl, -⟩ := Double.finite_of_value hq
    rfl
  · rfl

theorem solvent_buy (hop : (Op.buy ord).Admissible) (hfits : (Op.buy ord).Fits S db)
    (hb : BookSound db) (hint : db.FitsInt) (hs : Solvent db) :
    Solvent (apply S (.buy ord) db) ↔ MakerCanPay S (.buy ord) db := by
  obtain ⟨hside, hq, hp⟩ := hop
  obtain ⟨res, hout, hres⟩ := buy_applied S ord db
  rw [hres]
  simp only [MakerCanPay]
  cases hout with
  | unknownUser hu => simp [hs, hu]
  | refused u hu hl => simp [hs, hu, hl, -Double.lt_eq, -Double.ofInt_eq]
  | unmatched u hu hl hm _ hins =>
    simp [hu, hm, solvent_insertOutcome hs hu (.inl hside) hins]
  | unfillable u m hu hl hm hv =>
    have hprice := isNaN_of_nonnegPrice (hb m (matchSell_some hm).1).unitPrice
    have hnone : db.user m.userID = none := hv.resolve_right (by simp [hprice, -Double.isNaN_eq])
    simp [hs, hu, hm, hnone]
  | matched u v m hl hm hf _ hset =>
    obtain ⟨hmem, hans⟩ := matchSell_some hm
    obtain ⟨-, hsell, -, hle, -⟩ := answersSell_iff.mp hans
    have hrest := hb m hmem
    have hfill := (fits_buy_iff.mp hfits u hf.taker hl).2 m hm v hf
    have hitem : m.item ≠ COIN_OMG := by
      rcases hrest.side with hbuy | ⟨-, hitem⟩
      · rw [hsell] at hbuy
        cases hbuy
      · exact hitem
    have htaker := buyTaker_nonneg (hs u (Database.user_mem hf.taker)) (hint.user hf.taker .omg)
      hl hq hp hrest hsell hle hfill
    rw [solvent_settleOutcome hs hf (buyTaker_sameAccount u ord m) (buyMaker_sameAccount ord m v)
      htaker (.inl hside) hset,
      buyMaker_nonneg_iff (hs v (Database.user_mem hf.maker)) (hint.user hf.maker .omg) hq hrest
        hitem hfill]
    simp [hf.taker, hl, hm, hf.maker, -Double.lt_eq, -Double.ofInt_eq]

theorem solvent_sell (hop : (Op.sell ord).Admissible) (hfits : (Op.sell ord).Fits S db)
    (hb : BookSound db) (hint : db.FitsInt) (hs : Solvent db) :
    Solvent (apply S (.sell ord) db) ↔ MakerCanPay S (.sell ord) db := by
  obtain ⟨hside, hq, hp⟩ := hop
  obtain ⟨res, hout, hres⟩ := sell_applied S ord db
  rw [hres]
  simp only [MakerCanPay]
  cases hout with
  | unknownUser hu => simp [hs, hu]
  | refused u hu hl => simp [hs, hu, hl]
  | unmatched u hu hl hm _ hins =>
    simp [hu, hm, solvent_insertOutcome hs hu (.inr hside) hins]
  | unfillable u m hu hl hm hv =>
    have hprice := isNaN_of_nonnegPrice (hb m (matchBuy_some hm).1).unitPrice
    have hnone : db.user m.userID = none := hv.resolve_right (by simp [hprice, -Double.isNaN_eq])
    simp [hs, hu, hm, hnone]
  | matched u v m hl hm hf _ hset =>
    have hrest := hb m (matchBuy_some hm).1
    have hfill := (fits_sell_iff.mp hfits u hf.taker hl).2 m hm v hf
    have htaker := sellTaker_nonneg (hs u (Database.user_mem hf.taker)) (hint.user hf.taker) hl hq
      hrest hfill
    rw [solvent_settleOutcome hs hf (sellTaker_sameAccount u ord m) (sellMaker_sameAccount ord m v)
      htaker (.inr hside) hset,
      sellMaker_nonneg_iff (hint.user hf.taker) (hs v (Database.user_mem hf.maker))
        (hint.user hf.maker .omg) hq hrest hfill]
    simp [hf.taker, hl, hm, hf.maker, -Double.lt_eq, -Double.ofInt_eq]

theorem refund_nonneg {u : User} {r : Order Double} (hu : u.Nonneg) (hint : u.FitsInt)
    (hr : Resting r) (hfits : RefundFits u r) : (refundBalance u r).Nonneg := by
  unfold refundBalance
  split
  · next hb =>
    exact creditOMG_nonneg hu (hint .omg) (fun q hx => product_nonneg hr.quantity hr.unitPrice hx)
      (hfits.buy hb)
  · refine addItem_nonneg hu (fun c _ => ?_)
    have hc := hu c
    have hpos := hr.quantity.1
    omega

theorem solvent_cancelOrder {orderID currentUserID : Int}
    (hfits : (Op.cancelOrder orderID currentUserID).Fits S db) (hb : BookSound db)
    (hint : db.FitsInt) (hs : Solvent db) :
    Solvent (apply S (.cancelOrder orderID currentUserID) db) := by
  obtain ⟨res, hout, hres⟩ := cancelOrder_applied S orderID currentUserID db
  rw [hres]
  cases hout with
  | unknownOrder hr => exact hs
  | unauthorized r hr hown => exact hs
  | unknownUser r hr hown hu => exact hs
  | cancelled r u hr hown hu =>
    have hrefund := refund_nonneg (hs u (Database.user_mem hu)) (hint.user hu)
      (hb r (Database.order_mem hr)) (fits_cancelOrder_iff.mp hfits r hr hown u hu)
    exact (solvent_setBalance hu (refundBalance_sameAccount u r)).mpr
      ⟨hrefund, fun w hw _ => hs w hw⟩

theorem solvent_register {newUser : User} (hn : newUser.Nonneg) (hs : Solvent db) :
    Solvent (apply S (.register newUser) db) := by
  rw [apply_register]
  split
  · exact hs
  · intro r hr
    rcases Database.mem_users_addUser.mp hr with hr | rfl
    · exact hs r hr
    · intro c
      have hc := hn c
      cases c <;> exact hc

theorem solvent_apply {op : Op Double} (hop : op.Admissible) (hfits : op.Fits S db)
    (hb : BookSound db) (hint : db.FitsInt) (hs : Solvent db) :
    Solvent (apply S op db) ↔ MakerCanPay S op db := by
  cases op with
  | register newUser => exact iff_of_true (solvent_register hop.1 hs) trivial
  | buy ord => exact solvent_buy hop hfits hb hint hs
  | sell ord => exact solvent_sell hop hfits hb hint hs
  | cancelOrder orderID currentUserID =>
    exact iff_of_true (solvent_cancelOrder hfits hb hint hs) trivial
  | elapse seconds => exact iff_of_true hs trivial

end Step

theorem solvent_run_iff (S : CreatedAtSort Double) (ops : List (Op Double))
    (h : ∀ op ∈ ops, op.Admissible) (hfits : Along (apply S) (Op.Fits S) ops Database.empty) :
    Along (apply S) (fun op db => Solvent (apply S op db)) ops Database.empty ↔
      Along (apply S) (MakerCanPay S) ops Database.empty := by
  have hadm : Along (apply S) (fun op _ => op.Admissible) ops Database.empty :=
    along_of_forall (fun op hop _ => h op hop) _
  have hstep (op : Op Double) (db : Database Double) (hop : op.Admissible ∧ op.Fits S db)
      (hdb : BookSound db ∧ db.FitsInt) : BookSound (apply S op db) ∧ (apply S op db).FitsInt := by
    refine ⟨bookSound_apply hop.1 hdb.1, hdb.2.applied hop.2 ?_⟩
    cases op with
    | register newUser => exact hop.1.2
    | _ => trivial
  apply along_iff hstep (fun op db hop hdb hs => solvent_apply hop.1 hop.2 hdb.1 hdb.2 hs)
    (along_and hadm hfits)
  · constructor
    · intro r hr
      cases hr
    · intro u hu
      cases hu
  · intro u hu
    cases hu

def drainedMaker : List (Op Double) :=
  [.register (newUser ['a'] ['p'] ['A']), .register (newUser ['b'] ['p'] ['B']),
    .buy (createOrder COIN_DOGE BUY 100 (.ofRat 100) 1),
    .sell (createOrder COIN_DOGE SELL 100 (.ofRat 100) 2)]

theorem overdraft_reachable :
    ¬ ∀ (S : CreatedAtSort Double) (ops : List (Op Double)), (∀ op ∈ ops, op.Admissible) →
      Along (apply S) (fun op db => Solvent (apply S op db)) ops Database.empty := by
  intro h
  have hrun := h (.stable Double) drainedMaker (by decide +kernel)
  revert hrun
  decide +kernel

-- the cost of the three coins rounds up to a whole coin
example : ¬ Along (apply (.stable Double)) (MakerCanPay (.stable Double))
    [.register (newUser ['a'] ['p'] ['A']), .register (newUser ['b'] ['p'] ['B']),
      .buy (createOrder COIN_BTC BUY 1 (.ofRat 9999) 1),
      .buy (createOrder COIN_DOGE BUY 3 (.ofRat (3333333333333333 / 10000000000000000)) 1),
      .sell (createOrder COIN_DOGE SELL 3 (.ofRat (3 / 10)) 2)] Database.empty := by
  decide +kernel

def smallFill : List (Op Double) :=
  [.register (newUser ['a'] ['p'] ['A']), .register (newUser ['b'] ['p'] ['B']),
    .buy (createOrder COIN_DOGE BUY 10 (.ofRat (5 / 2)) 1),
    .sell (createOrder COIN_DOGE SELL 4 (.ofRat 2) 2), .cancelOrder 1 1]

theorem solvent_run_iff_smallFill :
    Along (apply (.stable Double)) (fun op db => Solvent (apply (.stable Double) op db)) smallFill
        Database.empty ↔
      Along (apply (.stable Double)) (MakerCanPay (.stable Double)) smallFill Database.empty :=
  solvent_run_iff (.stable Double) smallFill (by decide +kernel) (by decide +kernel)

end Marketplace
