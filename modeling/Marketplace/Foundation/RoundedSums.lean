import Marketplace.Foundation.Rounding
import Marketplace.Foundation.Truncation

namespace Rounding
open Truncation

namespace Format

-- more than half a spacing below the next integer away from zero
def Clear (F : Format) (x : ℚ) : Prop :=
  F.spacing x / 2 < ⌊|x|⌋ + 1 - |x|

instance (F : Format) (x : ℚ) : Decidable (F.Clear x) :=
  inferInstanceAs (Decidable (_ < _))

end Format

variable {x q : ℚ} {z w : Int}

-- the bounds here and below stay far from 2 ^ 53, where integers stop being representable
theorem representable_moderate (h : |z| ≤ 2 ^ 41) : binary64.Representable z :=
  Format.representable_intCast (by decide) (lt_of_le_of_lt h (by decide))

theorem abs_trunc_le (x : ℚ) : (|trunc x| : ℚ) ≤ |x| := by
  rcases le_total 0 x with hx | hx
  · rw [trunc_of_nonneg hx, abs_of_nonneg hx,
      abs_of_nonneg (by exact_mod_cast Int.floor_nonneg.mpr hx)]
    exact Int.floor_le x
  · rw [trunc_of_nonpos hx, abs_of_nonpos hx,
      abs_of_nonpos (by exact_mod_cast Int.ceil_nonpos.mpr hx)]
    exact neg_le_neg (Int.le_ceil x)

theorem representable_trunc (h : |x| ≤ 2 ^ 41) : binary64.Representable (trunc x) := by
  have hcast : (|trunc x| : ℚ) ≤ 2 ^ 41 := (abs_trunc_le x).trans h
  exact representable_moderate (by exact_mod_cast hcast)

theorem abs_round_sub_le_quarter (h : |x| ≤ 2 ^ 41) : |binary64.round x - x| ≤ 1 / 4 := by
  by_cases h0 : x = 0
  · rw [h0, Format.round_zero]
    norm_num
  · have hlt : |x| < 2 ^ ((-1 : Int) + binary64.precision) := lt_of_le_of_lt h (by decide +kernel)
    have hexp : binary64.exponent x ≤ -1 := binary64.exponent_le h0 hlt (by decide)
    have hspacing : binary64.spacing x ≤ 2 ^ (-1 : Int) :=
      zpow_le_zpow_right₀ (by norm_num) hexp
    have hround := binary64.abs_round_sub_le x
    norm_num at hspacing
    linarith

section Trunc

theorem trunc_round_eq (hx : 0 ≤ x) (h : |x| ≤ 2 ^ 41) (hclear : binary64.Clear x) :
    trunc (binary64.round x) = trunc x := by
  have hrep := representable_trunc h
  rw [trunc_of_nonneg hx] at hrep ⊢
  rw [Format.Clear, abs_of_nonneg hx] at hclear
  rw [trunc_of_nonneg (Format.round_nonneg hx)]
  exact Format.floor_round hrep hclear

end Trunc

theorem trunc_round_sub_nonneg (hpaid : q ≤ z) : 0 ≤ trunc (binary64.round (z - q)) :=
  trunc_nonneg (Format.round_nonneg (sub_nonneg.mpr hpaid))

-- a product of doubles is at most the product with the price rounded up to a whole coin
theorem round_mul_le_ceil {n : Int} (hn : 0 ≤ n) (hn31 : n ≤ 2 ^ 31) (hq : 0 ≤ q)
    (hround : binary64.round (n * q) ≤ 2 ^ 40) :
    binary64.round (n * q) ≤ (n * ⌈q⌉ : Int) ∧ n * ⌈q⌉ ≤ 2 ^ 42 := by
  have hn' : (0 : ℚ) ≤ n := by exact_mod_cast hn
  have hn31' : (n : ℚ) ≤ 2 ^ 31 := by exact_mod_cast hn31
  have hsmall : (n : ℚ) * q < 2 ^ 41 := by
    by_contra hlarge
    have hrep : binary64.Representable ((2 ^ 41 : Int) : ℚ) := representable_moderate (by decide)
    have hle : ((2 ^ 41 : Int) : ℚ) ≤ binary64.round (n * q) := by
      refine hrep.le_round ?_
      push_cast
      exact not_lt.mp hlarge
    push_cast at hle
    linarith
  have hceil : (n : ℚ) * ⌈q⌉ ≤ n * q + n := by
    have hlt := mul_le_mul_of_nonneg_left (Int.ceil_lt_add_one q).le hn'
    linarith
  have hbound : n * ⌈q⌉ ≤ 2 ^ 42 := by
    have hcast : (n : ℚ) * ⌈q⌉ ≤ 2 ^ 42 := by linarith
    exact_mod_cast hcast
  have hnonneg : 0 ≤ n * ⌈q⌉ := mul_nonneg hn (Int.ceil_nonneg hq)
  have hrep : binary64.Representable ((n * ⌈q⌉ : Int) : ℚ) := by
    refine Format.representable_intCast (by decide) ?_
    rw [abs_of_nonneg hnonneg]
    exact lt_of_le_of_lt hbound (by decide)
  refine ⟨hrep.round_le ?_, hbound⟩
  push_cast
  exact mul_le_mul_of_nonneg_left (Int.le_ceil q) hn'

theorem sub_le_trunc_round_sub {n : Int} (hz : |z| ≤ 2 ^ 40) (hn : 0 ≤ n) (hn42 : n ≤ 2 ^ 42)
    (hq : q ≤ n) : z - n ≤ trunc (binary64.round (z - q)) := by
  obtain ⟨hlow, hhigh⟩ := abs_le.mp hz
  have hrep : binary64.Representable ((z - n : Int) : ℚ) := by
    refine Format.representable_intCast (by decide) (abs_lt.mpr ⟨?_, ?_⟩)
    · exact lt_of_lt_of_le (by decide) (sub_le_sub hlow hn42)
    · exact lt_of_le_of_lt (sub_le_sub hhigh hn) (by decide)
  have hle : ((z - n : Int) : ℚ) ≤ binary64.round (z - q) := by
    refine hrep.le_round ?_
    push_cast
    linarith
  have htrunc := trunc_mono hle
  rwa [trunc_intCast] at htrunc

section Exchange

variable (hz : |z| ≤ 2 ^ 40) (hq : 0 ≤ q) (hq40 : q ≤ 2 ^ 40)
include hz hq

theorem le_trunc_round_add : z ≤ trunc (binary64.round (z + q)) := by
  have hrep : binary64.Representable z := representable_moderate (hz.trans (by norm_num))
  have hle : (z : ℚ) ≤ binary64.round (z + q) := hrep.le_round (le_add_of_nonneg_right hq)
  simpa using trunc_mono hle

theorem trunc_round_sub_le : trunc (binary64.round (z - q)) ≤ z := by
  have hrep : binary64.Representable z := representable_moderate (hz.trans (by norm_num))
  exact trunc_le_int (hrep.round_le (sub_le_self _ hq))

include hq40

theorem abs_add_le_moderate : |z + q| ≤ 2 ^ 41 := by
  have hz' : |(z : ℚ)| ≤ 2 ^ 40 := by exact_mod_cast hz
  have hsum := abs_add_le (z : ℚ) q
  rw [abs_of_nonneg hq] at hsum
  linarith

-- a debt that is reduced cannot carry: only a balance above zero can
theorem trunc_round_add_le (hrep : binary64.Representable q) (hclear : 0 < z → binary64.Clear (z + q)) :
    trunc (binary64.round (z + q)) ≤ max z 0 + trunc q := by
  rcases le_or_gt z 0 with hz0 | hz0
  · have hcast : (z : ℚ) ≤ 0 := by exact_mod_cast hz0
    have hle : binary64.round (z + q) ≤ q := hrep.round_le (by linarith)
    have htrunc := trunc_mono hle
    omega
  · have hcast : (0 : ℚ) ≤ z := by exact_mod_cast hz0.le
    rw [trunc_round_eq (add_nonneg hcast hq) (abs_add_le_moderate hz hq hq40) (hclear hz0),
      trunc_int_add hq (add_nonneg hcast hq)]
    omega

theorem neg_trunc_round_sub_le (hrep : binary64.Representable q)
    (hclear : z < 0 → binary64.Clear (z - q)) :
    -trunc (binary64.round (z - q)) ≤ max (-z) 0 + trunc q := by
  have hneg : (z : ℚ) - q = -((-z : Int) + q) := by
    push_cast
    ring
  have hclear' : 0 < -z → binary64.Clear ((-z : Int) + q) := by
    intro hpos
    have h := hclear (by omega)
    rwa [hneg, Format.Clear, Format.spacing_neg, abs_neg] at h
  rw [hneg, Format.round_neg, trunc_neg, neg_neg]
  exact trunc_round_add_le (by rwa [abs_neg]) hq hq40 hrep hclear'

omit hq40

theorem trunc_round_sub_add_le (hpaid : q ≤ z) : trunc (binary64.round (z - q)) + trunc q ≤ z := by
  have hz' : (z : ℚ) ≤ 2 ^ 40 := (le_abs_self _).trans (by exact_mod_cast hz)
  have hfloor : (trunc q : ℚ) ≤ q := by
    rw [trunc_of_nonneg hq]
    exact Int.floor_le q
  have hnonneg := trunc_nonneg hq
  have hdiff : |z - trunc q| ≤ 2 ^ 41 := by
    have htrunc : trunc q ≤ z := trunc_le_int hpaid
    have habs := le_abs_self z
    rw [abs_of_nonneg (by omega)]
    omega
  have hle : binary64.round (z - q) ≤ ((z - trunc q : Int) : ℚ) := by
    refine (representable_moderate hdiff).round_le ?_
    push_cast
    linarith
  have htrunc := trunc_le_int hle
  omega

-- what one side is paid and the other pays round apart by less than a coin
theorem trunc_round_exchange_le (hrep : binary64.Representable q) (hw : |w| ≤ 2 ^ 40) (hpaid : q ≤ z) :
    trunc (binary64.round (z - q)) + trunc (binary64.round (w + q)) ≤ z + max w 0 := by
  have hz' : (z : ℚ) ≤ 2 ^ 40 := (le_abs_self _).trans (by exact_mod_cast hz)
  have hq40 : q ≤ 2 ^ 40 := hpaid.trans hz'
  rcases le_or_gt w 0 with hw0 | hw0
  · have hcredit := trunc_round_add_le hw hq hq40 hrep (fun hpos => absurd hpos hw0.not_gt)
    have hdebit := trunc_round_sub_add_le hz hq hpaid
    omega
  · have hcast : (0 : ℚ) ≤ w := by exact_mod_cast hw0.le
    have hdebit : |(z : ℚ) - q| ≤ 2 ^ 41 := by
      rw [abs_of_nonneg (sub_nonneg.mpr hpaid)]
      linarith
    have hlow := abs_le.mp (abs_round_sub_le_quarter hdebit)
    have hhigh := abs_le.mp (abs_round_sub_le_quarter (abs_add_le_moderate hw hq hq40))
    have hsum := trunc_add_trunc_le (Format.round_nonneg (F := binary64) (sub_nonneg.mpr hpaid))
      (Format.round_nonneg (F := binary64) (add_nonneg hcast hq))
    have hbound : trunc (binary64.round (z - q) + binary64.round (w + q)) < z + w + 1 := by
      have hlt : binary64.round (z - q) + binary64.round (w + q) < ((z + w + 1 : Int) : ℚ) := by
        push_cast
        linarith
      rw [trunc_of_nonneg (by
        have h1 := Format.round_nonneg (F := binary64) (sub_nonneg.mpr hpaid)
        have h2 := Format.round_nonneg (F := binary64) (add_nonneg hcast hq)
        linarith)]
      exact Int.floor_lt.mpr hlt
    omega

end Exchange

section Overdrawn

variable (hz : 0 ≤ z) (hrep : binary64.Representable q)
include hz hrep

-- the difference of a double and a smaller integer is a double
theorem representable_sub_int (hlt : (z : ℚ) < q) (hq : q ≤ 2 ^ 40) :
    binary64.Representable (q - z) := by
  have hz' : (0 : ℚ) ≤ z := by exact_mod_cast hz
  have hdiff : 0 < q - z := sub_pos.mpr hlt
  have hpos : 0 < q := hz'.trans_lt hlt
  have hlarge : |q| < 2 ^ ((0 : Int) + binary64.precision) := by
    rw [abs_of_pos hpos]
    exact lt_of_le_of_lt hq (by decide +kernel)
  have hexp : binary64.exponent q ≤ 0 := binary64.exponent_le hpos.ne' hlarge (by decide)
  have hmultiple : Multiple (binary64.exponent q) (q - z) := by
    have hint : Multiple (binary64.exponent q) (z : ℚ) := multiple_intCast z hexp
    exact hrep.multiple.sub hint
  exact Format.representable_of_multiple hmultiple (binary64.exponent_mono hdiff (by linarith))

theorem nonpos_le_trunc_round_sub_iff {n : Int} (hn : n ≤ 0) (hq : q ≤ 2 ^ 40) :
    n ≤ trunc (binary64.round (z - q)) ↔ (n : ℚ) - 1 < z - q := by
  rcases le_or_gt q z with hle | hlt
  · have hnonneg := trunc_round_sub_nonneg hle
    have hn' : (n : ℚ) ≤ 0 := by exact_mod_cast hn
    exact ⟨fun _ => by linarith, fun _ => hn.trans hnonneg⟩
  · have hexact : binary64.round (z - q) = z - q := by
      have hneg := (representable_sub_int hz hrep hlt hq).neg
      rwa [neg_sub] at hneg
    rw [hexact, nonpos_le_trunc_iff hn]

end Overdrawn

end Rounding
