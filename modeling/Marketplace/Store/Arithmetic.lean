import Marketplace.Foundation.Rounding
import Marketplace.Foundation.Truncation

namespace Marketplace
open Truncation Rounding

def INT_MAX : Int := 2147483647
def INT_MIN : Int := -2147483648

def Int32 (n : Int) : Prop :=
  INT_MIN ≤ n ∧ n ≤ INT_MAX

instance (n : Int) : Decidable (Int32 n) :=
  inferInstanceAs (Decidable (_ ∧ _))

-- integralPart is the value that toInt has in C, where it has one: an int result outside int and
-- the conversion of an infinity or a NaN are undefined there
class CDouble (D : Type) where
  ofInt : Int → D
  add : D → D → D
  sub : D → D → D
  mul : D → D → D
  lt : D → D → Bool
  le : D → D → Bool
  toInt : D → Int
  isNaN : D → Bool
  integralPart : D → Option Int
  toInt_eq : ∀ {x : D} {n : Int}, integralPart x = some n → Int32 n → toInt x = n

instance : CDouble ℚ where
  ofInt z := z
  add x y := x + y
  sub x y := x - y
  mul x y := x * y
  lt x y := decide (x < y)
  le x y := decide (x ≤ y)
  toInt := trunc
  isNaN _ := false
  integralPart x := some (trunc x)
  toInt_eq h _ := Option.some.inj h

namespace CDouble

@[simp] theorem rat_ofInt (z : Int) : (ofInt z : ℚ) = z := rfl
@[simp] theorem rat_add (x y : ℚ) : CDouble.add x y = x + y := rfl
@[simp] theorem rat_sub (x y : ℚ) : CDouble.sub x y = x - y := rfl
@[simp] theorem rat_mul (x y : ℚ) : CDouble.mul x y = x * y := rfl
@[simp] theorem rat_lt (x y : ℚ) : CDouble.lt x y = decide (x < y) := rfl
@[simp] theorem rat_le (x y : ℚ) : CDouble.le x y = decide (x ≤ y) := rfl
@[simp] theorem rat_toInt (x : ℚ) : CDouble.toInt x = trunc x := rfl
@[simp] theorem rat_isNaN (x : ℚ) : CDouble.isNaN x = false := rfl
@[simp] theorem rat_integralPart (x : ℚ) : CDouble.integralPart x = some (trunc x) := rfl

end CDouble

def DBL_MAX : ℚ := 2 ^ 1024 - 2 ^ 971

-- the zeros are not told apart: no function of the marketplace can
structure Binary64 where
  val : ℚ
  representable : binary64.Representable val
  bounded : |val| ≤ DBL_MAX
deriving DecidableEq, Repr

inductive Double where
  | finite (x : Binary64)
  | inf (negative : Bool)
  | nan
deriving DecidableEq, Repr

namespace Double

def ofRat (q : ℚ) : Double :=
  if h : |binary64.round q| ≤ DBL_MAX then
    .finite ⟨binary64.round q, Format.representable_round q, h⟩
  else .inf (decide (q < 0))

def neg : Double → Double
  | .finite x => .finite ⟨-x.val, x.representable.neg, (abs_neg x.val).trans_le x.bounded⟩
  | .inf s => .inf (!s)
  | .nan => .nan

def add : Double → Double → Double
  | .nan, _ => .nan
  | _, .nan => .nan
  | .finite x, .finite y => ofRat (x.val + y.val)
  | .inf s, .inf t => if s = t then .inf s else .nan
  | .inf s, .finite _ => .inf s
  | .finite _, .inf t => .inf t

def mul : Double → Double → Double
  | .nan, _ => .nan
  | _, .nan => .nan
  | .finite x, .finite y => ofRat (x.val * y.val)
  | .inf s, .inf t => .inf (s != t)
  | .inf s, .finite y => if y.val = 0 then .nan else .inf (s != decide (y.val < 0))
  | .finite x, .inf t => if x.val = 0 then .nan else .inf (decide (x.val < 0) != t)

def lt : Double → Double → Bool
  | .nan, _ => false
  | _, .nan => false
  | .finite x, .finite y => decide (x.val < y.val)
  | .inf s, .inf t => s && !t
  | .inf s, .finite _ => s
  | .finite _, .inf t => !t

def le : Double → Double → Bool
  | .nan, _ => false
  | _, .nan => false
  | .finite x, .finite y => decide (x.val ≤ y.val)
  | .inf s, .inf t => s || !t
  | .inf s, .finite _ => s
  | .finite _, .inf t => !t

def value : Double → Option ℚ
  | .finite x => some x.val
  | _ => none

def integralPart (x : Double) : Option Int :=
  x.value.map trunc

-- the x86-64 conversion gives INT_MIN where C leaves it undefined
def toInt (x : Double) : Int :=
  (x.integralPart.filter (fun n => decide (Int32 n))).getD INT_MIN

def isNaN : Double → Bool
  | .nan => true
  | _ => false

theorem toInt_of_integralPart {x : Double} {n : Int} (h : x.integralPart = some n)
    (hn : Int32 n) : x.toInt = n := by
  rw [toInt, h, Option.filter_some, if_pos (decide_eq_true hn), Option.getD_some]

end Double

instance : CDouble Double where
  ofInt z := Double.ofRat z
  add := Double.add
  sub x y := x.add y.neg
  mul := Double.mul
  lt := Double.lt
  le := Double.le
  toInt := Double.toInt
  isNaN := Double.isNaN
  integralPart := Double.integralPart
  toInt_eq := Double.toInt_of_integralPart

namespace Double

@[simp] theorem ofInt_eq (z : Int) : (CDouble.ofInt z : Double) = ofRat z := rfl
@[simp] theorem add_eq (x y : Double) : CDouble.add x y = x.add y := rfl
@[simp] theorem sub_eq (x y : Double) : CDouble.sub x y = x.add y.neg := rfl
@[simp] theorem mul_eq (x y : Double) : CDouble.mul x y = x.mul y := rfl
@[simp] theorem lt_eq (x y : Double) : CDouble.lt x y = x.lt y := rfl
@[simp] theorem le_eq (x y : Double) : CDouble.le x y = x.le y := rfl
@[simp] theorem toInt_eq (x : Double) : CDouble.toInt x = x.toInt := rfl
@[simp] theorem isNaN_eq (x : Double) : CDouble.isNaN x = x.isNaN := rfl
@[simp] theorem integralPart_eq (x : Double) : CDouble.integralPart x = x.integralPart := rfl

section Values

variable {x y : Double} {p q : ℚ}

theorem representable_of_value (h : x.value = some p) : binary64.Representable p := by
  cases x with
  | finite x =>
    cases h
    exact x.representable
  | inf negative => cases h
  | nan => cases h

theorem finite_of_value (h : x.value = some p) : ∃ b : Binary64, x = .finite b ∧ b.val = p := by
  cases x with
  | finite x => exact ⟨x, rfl, Option.some.inj h⟩
  | inf negative => cases h
  | nan => cases h

theorem value_ofRat (h : |binary64.round q| ≤ DBL_MAX) : (ofRat q).value = some (binary64.round q) := by
  rw [ofRat, dif_pos h]
  rfl

theorem ofRat_value (h : (ofRat q).value = some p) : binary64.round q = p ∧ |p| ≤ DBL_MAX := by
  unfold ofRat at h
  split at h
  · next hle =>
    cases h
    exact ⟨rfl, hle⟩
  · cases h

theorem abs_round_le {b : ℚ} (hb : binary64.Representable b) (h : |q| ≤ b) : |binary64.round q| ≤ b := by
  obtain ⟨hlow, hhigh⟩ := abs_le.mp h
  exact abs_le.mpr ⟨hb.neg.le_round hlow, hb.round_le hhigh⟩

-- no sum of an int and a product that the functions have checked comes near the largest double
def SAFE : ℚ := 2 ^ 60

theorem value_ofRat_of_le (h : |q| ≤ SAFE) : (ofRat q).value = some (binary64.round q) := by
  have hsafe : binary64.Representable SAFE := by decide +kernel
  have hmax : SAFE ≤ DBL_MAX := by decide +kernel
  exact value_ofRat ((abs_round_le hsafe h).trans hmax)

theorem representable_int {z : Int} (h : |z| < 2 ^ 53) : binary64.Representable z :=
  Format.representable_intCast (by decide) h

theorem value_ofInt {z : Int} (h : |z| < 2 ^ 53) : (ofRat z).value = some (z : ℚ) := by
  have hround : binary64.round z = z := representable_int h
  have hle : |(z : ℚ)| ≤ SAFE := by
    have hcast : |(z : ℚ)| < 2 ^ 53 := by exact_mod_cast h
    exact hcast.le.trans (by decide +kernel)
  rw [value_ofRat_of_le hle, hround]

theorem mul_of_value (hx : x.value = some p) (hy : y.value = some q) : x.mul y = ofRat (p * q) := by
  obtain ⟨b, rfl, rfl⟩ := finite_of_value hx
  obtain ⟨c, rfl, rfl⟩ := finite_of_value hy
  rfl

theorem add_of_value (hx : x.value = some p) (hy : y.value = some q) : x.add y = ofRat (p + q) := by
  obtain ⟨b, rfl, rfl⟩ := finite_of_value hx
  obtain ⟨c, rfl, rfl⟩ := finite_of_value hy
  rfl

theorem value_neg (hx : x.value = some p) : x.neg.value = some (-p) := by
  obtain ⟨b, rfl, rfl⟩ := finite_of_value hx
  rfl

theorem sub_of_value (hx : x.value = some p) (hy : y.value = some q) :
    x.add y.neg = ofRat (p - q) := by
  rw [add_of_value hx (value_neg hy), sub_eq_add_neg]

theorem lt_of_value (hx : x.value = some p) (hy : y.value = some q) : x.lt y = decide (p < q) := by
  obtain ⟨b, rfl, rfl⟩ := finite_of_value hx
  obtain ⟨c, rfl, rfl⟩ := finite_of_value hy
  rfl

theorem le_of_value (hx : x.value = some p) (hy : y.value = some q) : x.le y = decide (p ≤ q) := by
  obtain ⟨b, rfl, rfl⟩ := finite_of_value hx
  obtain ⟨c, rfl, rfl⟩ := finite_of_value hy
  rfl

theorem ofRat_of_not_finite (h : (ofRat q).value = none) : ofRat q = .inf (decide (q < 0)) := by
  unfold ofRat at h ⊢
  split at h
  · cases h
  · next hmax => exact dif_neg hmax

-- what a double comparison has bounded from above did not overflow
theorem value_of_not_lt (hx : x.value = some p) (hq : 0 ≤ q) (h : x.lt (ofRat q) = false) :
    (ofRat q).value = some (binary64.round q) ∧ binary64.round q ≤ p := by
  obtain ⟨b, rfl, rfl⟩ := finite_of_value hx
  cases hv : (ofRat q).value with
  | none =>
    rw [ofRat_of_not_finite hv, decide_eq_false (not_lt.mpr hq)] at h
    cases h
  | some r =>
    obtain ⟨rfl, -⟩ := ofRat_value hv
    rw [lt_of_value hx hv] at h
    exact ⟨rfl, not_lt.mp (of_decide_eq_false h)⟩

theorem value_ofRat_mono (hp : 0 ≤ p) (h : p ≤ q) (hq : (ofRat q).value = some (binary64.round q)) :
    (ofRat p).value = some (binary64.round p) := by
  obtain ⟨-, hmax⟩ := ofRat_value hq
  refine value_ofRat ?_
  rw [abs_of_nonneg (Format.round_nonneg hp)]
  rw [abs_of_nonneg (Format.round_nonneg (hp.trans h))] at hmax
  exact (Format.round_mono h).trans hmax

theorem integralPart_of_value (h : x.value = some p) : x.integralPart = some (trunc p) := by
  rw [integralPart, h, Option.map_some]

theorem toInt_of_value (h : x.value = some p) (hfits : Int32 (trunc p)) : x.toInt = trunc p :=
  toInt_of_integralPart (integralPart_of_value h) hfits

end Values

end Double

end Marketplace
