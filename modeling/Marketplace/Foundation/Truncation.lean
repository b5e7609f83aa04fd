import Mathlib.Data.Rat.Floor
import Mathlib.Tactic.Linarith
import Mathlib.Tactic.Push

namespace Truncation

def trunc (q : ℚ) : Int :=
  q.num.tdiv q.den

@[simp] theorem trunc_intCast (z : Int) : trunc z = z := by
  simp [trunc]

@[simp] theorem trunc_zero : trunc 0 = 0 := by
  simp [trunc]

theorem trunc_of_nonneg {q : ℚ} (hq : 0 ≤ q) : trunc q = ⌊q⌋ := by
  have hn : 0 ≤ q.num := Rat.num_nonneg.mpr hq
  rw [trunc, Int.tdiv_eq_ediv_of_nonneg hn, Rat.floor_def']

theorem trunc_neg (q : ℚ) : trunc (-q) = -trunc q := by
  simp [trunc, Int.neg_tdiv]

theorem trunc_of_nonpos {q : ℚ} (hq : q ≤ 0) : trunc q = ⌈q⌉ := by
  have h := trunc_of_nonneg (neg_nonneg.mpr hq)
  rw [trunc_neg, Int.floor_neg] at h
  omega

theorem trunc_mono {p q : ℚ} (h : p ≤ q) : trunc p ≤ trunc q := by
  rcases le_total 0 p with hp | hp
  · rw [trunc_of_nonneg hp, trunc_of_nonneg (hp.trans h)]
    exact Int.floor_le_floor h
  · rcases le_total 0 q with hq | hq
    · rw [trunc_of_nonpos hp, trunc_of_nonneg hq]
      exact (Int.ceil_nonpos.mpr hp).trans (Int.floor_nonneg.mpr hq)
    · rw [trunc_of_nonpos hp, trunc_of_nonpos hq]
      exact Int.ceil_le_ceil h

theorem trunc_nonneg {q : ℚ} (hq : 0 ≤ q) : 0 ≤ trunc q := by
  have h := trunc_mono hq
  rwa [trunc_zero] at h

theorem trunc_le_int {q : ℚ} {z : Int} (h : q ≤ z) : trunc q ≤ z := by
  simpa using trunc_mono h

theorem nonpos_le_trunc_iff {q : ℚ} {z : Int} (hz : z ≤ 0) : z ≤ trunc q ↔ (z : ℚ) - 1 < q := by
  rcases le_total 0 q with hq | hq
  · have hz' : (z : ℚ) ≤ 0 := by exact_mod_cast hz
    exact ⟨fun _ => by linarith, fun _ => hz.trans (trunc_nonneg hq)⟩
  · rw [trunc_of_nonpos hq, ← Int.sub_one_lt_iff, Int.lt_ceil]
    push_cast
    rfl

theorem trunc_le_nonneg_iff {q : ℚ} {z : Int} (hz : 0 ≤ z) : trunc q ≤ z ↔ q < z + 1 := by
  have hneg := nonpos_le_trunc_iff (neg_nonpos.mpr hz) (q := -q)
  rw [trunc_neg, neg_le_neg_iff] at hneg
  rw [hneg]
  push_cast
  constructor <;> intro h <;> linarith

theorem trunc_int_add {z : Int} {q : ℚ} (hq : 0 ≤ q) (h : 0 ≤ z + q) :
    trunc (z + q) = z + trunc q := by
  rw [trunc_of_nonneg h, trunc_of_nonneg hq, Int.floor_intCast_add]

theorem trunc_int_add_of_nonpos {z : Int} {q : ℚ} (hq : q ≤ 0) (h : z + q ≤ 0) :
    trunc (z + q) = z + trunc q := by
  rw [trunc_of_nonpos h, trunc_of_nonpos hq, Int.ceil_intCast_add]

theorem floor_lt_ceil {q : ℚ} (hq : ∀ z : Int, q ≠ z) : ⌊q⌋ < ⌈q⌉ := by
  have hlt : (⌊q⌋ : ℚ) < q := lt_of_le_of_ne (Int.floor_le q) (hq _).symm
  exact Int.lt_ceil.mpr hlt

theorem trunc_int_add_iff (z : Int) (q : ℚ) :
    trunc (z + q) = z + trunc q ↔ (∃ n : Int, q = n) ∨ 0 < q * (z + q) := by
  by_cases hq : ∃ n : Int, q = n
  · obtain ⟨n, rfl⟩ := hq
    have h : trunc ((z : ℚ) + n) = z + n := by exact_mod_cast trunc_intCast (z + n)
    exact ⟨fun _ => .inl ⟨n, rfl⟩, fun _ => by rw [h, trunc_intCast]⟩
  · have hne : ∀ n : Int, q ≠ n := fun n hn => hq ⟨n, hn⟩
    have hlt := floor_lt_ceil hne
    have hq0 : q ≠ 0 := by exact_mod_cast hne 0
    have hzq0 : z + q ≠ 0 := fun h => hne (-z) (by push_cast; linarith)
    simp only [hq, false_or]
    rcases lt_or_gt_of_ne hq0 with hneg | hpos
    · rcases lt_or_gt_of_ne hzq0 with hzneg | hzpos
      · exact ⟨fun _ => mul_pos_of_neg_of_neg hneg hzneg,
          fun _ => trunc_int_add_of_nonpos hneg.le hzneg.le⟩
      · rw [trunc_of_nonneg hzpos.le, trunc_of_nonpos hneg.le, Int.floor_intCast_add]
        have hprod : q * (z + q) < 0 := mul_neg_of_neg_of_pos hneg hzpos
        exact ⟨fun h => by omega, fun h => by linarith⟩
    · rcases lt_or_gt_of_ne hzq0 with hzneg | hzpos
      · rw [trunc_of_nonpos hzneg.le, trunc_of_nonneg hpos.le, Int.ceil_intCast_add]
        have hprod : q * (z + q) < 0 := mul_neg_of_pos_of_neg hpos hzneg
        exact ⟨fun h => by omega, fun h => by linarith⟩
      · exact ⟨fun _ => mul_pos hpos hzpos, fun _ => trunc_int_add hpos.le hzpos.le⟩

theorem trunc_add_trunc_le {p q : ℚ} (hp : 0 ≤ p) (hq : 0 ≤ q) : trunc p + trunc q ≤ trunc (p + q) := by
  rw [trunc_of_nonneg hp, trunc_of_nonneg hq, trunc_of_nonneg (add_nonneg hp hq)]
  exact Int.le_floor_add p q

section Exchange

variable {z : Int} {q : ℚ}

theorem le_trunc_add (hq : 0 ≤ q) : z ≤ trunc (z + q) := by
  have hle : (z : ℚ) ≤ z + q := le_add_of_nonneg_right hq
  simpa using trunc_mono hle

end Exchange

end Truncation
