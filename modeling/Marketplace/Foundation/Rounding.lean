import Mathlib.Data.Int.Log
import Mathlib.Data.Rat.Floor
import Mathlib.Tactic.Linarith
import Mathlib.Tactic.Ring

namespace Rounding

def nearestEven (y : ℚ) : Int :=
  if Int.fract y < 1 / 2 then ⌊y⌋
  else if 1 / 2 < Int.fract y ∨ ⌊y⌋ % 2 = 1 then ⌊y⌋ + 1
  else ⌊y⌋

section Nearest

variable {y z : ℚ} {n : Int}

theorem nearestEven_bounds (y : ℚ) : ⌊y⌋ ≤ nearestEven y ∧ nearestEven y ≤ ⌊y⌋ + 1 := by
  unfold nearestEven
  split_ifs <;> omega

theorem abs_nearestEven_sub_le (y : ℚ) : |(nearestEven y : ℚ) - y| ≤ 1 / 2 := by
  have hfract : y = ⌊y⌋ + Int.fract y := (Int.floor_add_fract y).symm
  have hnonneg := Int.fract_nonneg y
  rw [abs_le]
  unfold nearestEven
  split_ifs with h h'
  · constructor <;> linarith
  · push_cast
    have hlt := Int.fract_lt_one y
    constructor <;> linarith [not_lt.mp h]
  · have hle : Int.fract y ≤ 1 / 2 := not_lt.mp (fun hgt => h' (.inl hgt))
    constructor <;> linarith

theorem nearestEven_intCast (n : Int) : nearestEven n = n := by
  simp [nearestEven]

theorem nearestEven_neg (y : ℚ) : nearestEven (-y) = -nearestEven y := by
  by_cases h0 : Int.fract y = 0
  · obtain ⟨n, rfl⟩ := Int.fract_eq_zero_iff.mp h0
    have hcast : -(n : ℚ) = ((-n : Int) : ℚ) := (Int.cast_neg n).symm
    rw [hcast, nearestEven_intCast, nearestEven_intCast]
  · have hfract : Int.fract (-y) = 1 - Int.fract y := Int.fract_neg h0
    have hfloor : ⌊-y⌋ = -⌊y⌋ - 1 := by
      have hcast : ((⌊-y⌋ : Int) : ℚ) = ((-⌊y⌋ - 1 : Int) : ℚ) := by
        have h1 := Int.floor_add_fract y
        have h2 := Int.floor_add_fract (-y)
        push_cast
        linarith
      exact_mod_cast hcast
    unfold nearestEven
    rw [hfract, hfloor]
    rcases lt_trichotomy (Int.fract y) (1 / 2) with hlt | heq | hgt
    · have h1 : ¬ 1 - Int.fract y < 1 / 2 := by linarith
      have h2 : 1 / 2 < 1 - Int.fract y := by linarith
      simp only [hlt, h1, h2, if_true, if_false, true_or]
      omega
    · simp only [heq]
      norm_num
      split_ifs <;> omega
    · have h1 : ¬ Int.fract y < 1 / 2 := hgt.not_gt
      have h2 : 1 - Int.fract y < 1 / 2 := by linarith
      simp only [hgt, h1, h2, if_true, if_false, true_or]
      omega

theorem floor_lt_nearestEven_iff (y : ℚ) :
    ⌊y⌋ < nearestEven y ↔ 1 / 2 ≤ Int.fract y ∧ (1 / 2 < Int.fract y ∨ ⌊y⌋ % 2 = 1) := by
  unfold nearestEven
  split_ifs with h h'
  · exact iff_of_false (lt_irrefl _) (fun hup => absurd hup.1 (not_le.mpr h))
  · exact iff_of_true (by omega) ⟨not_lt.mp h, h'⟩
  · exact iff_of_false (lt_irrefl _) (fun hup => h' hup.2)

theorem nearestEven_mono (h : y ≤ z) : nearestEven y ≤ nearestEven z := by
  obtain ⟨hylow, hyhigh⟩ := nearestEven_bounds y
  obtain ⟨hzlow, hzhigh⟩ := nearestEven_bounds z
  have hfloor := Int.floor_le_floor h
  rcases hfloor.lt_or_eq with hlt | heq
  · omega
  · have hfract : Int.fract y ≤ Int.fract z := by
      have hcast : (⌊y⌋ : ℚ) = ⌊z⌋ := by exact_mod_cast heq
      have hy := Int.floor_add_fract y
      have hz := Int.floor_add_fract z
      linarith
    have hup : ⌊y⌋ < nearestEven y → ⌊z⌋ < nearestEven z := by
      rw [floor_lt_nearestEven_iff, floor_lt_nearestEven_iff, heq]
      rintro ⟨hhalf, hodd⟩
      exact ⟨hhalf.trans hfract, hodd.imp_left (fun hgt => hgt.trans_le hfract)⟩
    omega

theorem le_nearestEven (h : (n : ℚ) ≤ y) : n ≤ nearestEven y := by
  simpa [nearestEven_intCast] using nearestEven_mono h

end Nearest

def Multiple (e : Int) (x : ℚ) : Prop :=
  ∃ m : Int, x = m * 2 ^ e

section Multiples

variable {e e' : Int} {x y : ℚ}

theorem two_zpow_pos (e : Int) : (0 : ℚ) < 2 ^ e :=
  zpow_pos (by norm_num) e

theorem two_zpow_multiple (h : e ≤ e') : Multiple e ((2 : ℚ) ^ e') := by
  obtain ⟨k, rfl⟩ := Int.le.dest h
  refine ⟨2 ^ k, ?_⟩
  rw [zpow_add₀ (by norm_num), zpow_natCast]
  push_cast
  ring

theorem Multiple.mono (hx : Multiple e' x) (h : e ≤ e') : Multiple e x := by
  obtain ⟨m, rfl⟩ := hx
  obtain ⟨k, hk⟩ := two_zpow_multiple h
  refine ⟨m * k, ?_⟩
  rw [hk]
  push_cast
  ring

theorem Multiple.neg (hx : Multiple e x) : Multiple e (-x) := by
  obtain ⟨m, rfl⟩ := hx
  refine ⟨-m, ?_⟩
  push_cast
  ring

theorem Multiple.sub (hx : Multiple e x) (hy : Multiple e y) : Multiple e (x - y) := by
  obtain ⟨m, rfl⟩ := hx
  obtain ⟨n, rfl⟩ := hy
  refine ⟨m - n, ?_⟩
  push_cast
  ring

theorem multiple_intCast (n : Int) (h : e ≤ 0) : Multiple e (n : ℚ) := by
  have hzero : Multiple 0 (n : ℚ) := ⟨n, by simp⟩
  exact hzero.mono h

end Multiples

-- neighbours among the numbers with at most precision digits are 2 ^ exponent apart, and never
-- closer than 2 ^ least
structure Format where
  precision : Nat
  least : Int
  precision_pos : 0 < precision

namespace Format

variable (F : Format) {x y b : ℚ} {e : Int}

def exponent (x : ℚ) : Int :=
  max F.least (Int.log 2 |x| - (F.precision - 1))

def spacing (x : ℚ) : ℚ :=
  2 ^ F.exponent x

def round (x : ℚ) : ℚ :=
  nearestEven (x / F.spacing x) * F.spacing x

def Representable (x : ℚ) : Prop :=
  F.round x = x

instance (x : ℚ) : Decidable (F.Representable x) :=
  inferInstanceAs (Decidable (F.round x = x))

section Exponent

@[simp] theorem exponent_neg (x : ℚ) : F.exponent (-x) = F.exponent x := by
  rw [exponent, exponent, abs_neg]

@[simp] theorem spacing_neg (x : ℚ) : F.spacing (-x) = F.spacing x := by
  rw [spacing, spacing, exponent_neg]

theorem spacing_pos (x : ℚ) : 0 < F.spacing x :=
  two_zpow_pos _

theorem exponent_mono (hx : 0 < x) (h : x ≤ y) : F.exponent x ≤ F.exponent y := by
  rw [exponent, exponent, abs_of_pos hx, abs_of_pos (hx.trans_le h)]
  have hlog := Int.log_mono_right (b := 2) hx h
  exact max_le_max_left _ (by omega)

theorem exponent_le (hx : x ≠ 0) {k : Int} (h : |x| < 2 ^ (k + F.precision)) (hk : F.least ≤ k) :
    F.exponent x ≤ k := by
  have hlog := (Int.lt_zpow_iff_log_lt (b := 2) (by norm_num) (abs_pos.mpr hx)).mp h
  exact max_le hk (by omega)

-- where the spacing changes, a power of two lies between
theorem exists_binade (hx : 0 < x) (hy : 0 < y) (h : F.exponent x < F.exponent y) :
    ∃ b, x < b ∧ b ≤ y ∧ Multiple (F.exponent y) b := by
  have hprecision := F.precision_pos
  have hleast : F.least ≤ F.exponent x := le_max_left _ _
  have hxlog : Int.log 2 |x| - (F.precision - 1) ≤ F.exponent x := le_max_right _ _
  have hylog : F.exponent y = Int.log 2 |y| - (F.precision - 1) := by
    rcases max_choice F.least (Int.log 2 |y| - (F.precision - 1)) with hmax | hmax
    · have hexp : F.exponent y = F.least := hmax
      omega
    · exact hmax
  rw [abs_of_pos hx] at hxlog
  rw [abs_of_pos hy] at hylog
  refine ⟨2 ^ Int.log 2 y, ?_, ?_, two_zpow_multiple (by omega)⟩
  · exact (Int.lt_zpow_iff_log_lt (b := 2) (by norm_num) hx).mpr (by omega)
  · exact Int.zpow_log_le_self (b := 2) (by norm_num) hy

end Exponent

section Round

@[simp] theorem round_zero : F.round 0 = 0 := by
  simp [round, nearestEven]

@[simp] theorem round_neg (x : ℚ) : F.round (-x) = -F.round x := by
  rw [round, round, spacing_neg, neg_div, nearestEven_neg]
  push_cast
  ring

theorem multiple_round (x : ℚ) : Multiple (F.exponent x) (F.round x) :=
  ⟨_, rfl⟩

theorem abs_round_sub_le (x : ℚ) : |F.round x - x| ≤ F.spacing x / 2 := by
  have hpos := F.spacing_pos x
  have hscaled : F.round x - x = (nearestEven (x / F.spacing x) - x / F.spacing x) * F.spacing x := by
    rw [sub_mul, div_mul_cancel₀ _ hpos.ne', round]
  rw [hscaled, abs_mul, abs_of_pos hpos]
  have hnear := mul_le_mul_of_nonneg_right (abs_nearestEven_sub_le (x / F.spacing x)) hpos.le
  linarith

variable {F}

theorem le_round_of_multiple (hb : Multiple (F.exponent x) b) (h : b ≤ x) : b ≤ F.round x := by
  obtain ⟨m, rfl⟩ := hb
  have hm : (m : ℚ) ≤ x / F.spacing x := (le_div_iff₀ (F.spacing_pos x)).mpr h
  have hcast : (m : ℚ) ≤ nearestEven (x / F.spacing x) := by exact_mod_cast le_nearestEven hm
  exact mul_le_mul_of_nonneg_right hcast (F.spacing_pos x).le

theorem round_le_of_multiple (hb : Multiple (F.exponent x) b) (h : x ≤ b) : F.round x ≤ b := by
  have hneg := le_round_of_multiple (F := F) (x := -x) (b := -b)
  rw [exponent_neg, round_neg] at hneg
  exact neg_le_neg_iff.mp (hneg hb.neg (neg_le_neg h))

theorem representable_of_multiple (hx : Multiple e x) (h : F.exponent x ≤ e) : F.Representable x :=
  le_antisymm (round_le_of_multiple (hx.mono h) le_rfl) (le_round_of_multiple (hx.mono h) le_rfl)

theorem round_nonneg (h : 0 ≤ x) : 0 ≤ F.round x :=
  le_round_of_multiple ⟨0, by simp⟩ h

theorem round_mono_of_pos (hx : 0 < x) (h : x ≤ y) : F.round x ≤ F.round y := by
  rcases (F.exponent_mono hx h).lt_or_eq with hlt | heq
  · obtain ⟨b, hxb, hby, hb⟩ := F.exists_binade hx (hx.trans_le h) hlt
    exact (round_le_of_multiple (hb.mono hlt.le) hxb.le).trans (le_round_of_multiple hb hby)
  · have hspacing : F.spacing x = F.spacing y := by rw [spacing, spacing, heq]
    have hscaled : x / F.spacing y ≤ y / F.spacing y :=
      div_le_div_of_nonneg_right h (F.spacing_pos y).le
    have hnear : (nearestEven (x / F.spacing y) : ℚ) ≤ nearestEven (y / F.spacing y) := by
      exact_mod_cast nearestEven_mono hscaled
    rw [round, round, hspacing]
    exact mul_le_mul_of_nonneg_right hnear (F.spacing_pos y).le

theorem round_mono (h : x ≤ y) : F.round x ≤ F.round y := by
  rcases lt_trichotomy 0 x with hx | rfl | hx
  · exact round_mono_of_pos hx h
  · rw [round_zero]
    exact round_nonneg h
  · rcases lt_or_ge y 0 with hy | hy
    · have hneg := round_mono_of_pos (F := F) (neg_pos.mpr hy) (neg_le_neg h)
      rw [round_neg, round_neg] at hneg
      exact neg_le_neg_iff.mp hneg
    · have hneg := round_nonneg (F := F) (neg_nonneg.mpr hx.le)
      rw [round_neg] at hneg
      exact (neg_nonneg.mp hneg).trans (round_nonneg hy)

theorem representable_zero : F.Representable 0 :=
  F.round_zero

theorem Representable.neg (h : F.Representable x) : F.Representable (-x) := by
  rw [Representable, round_neg, h]

theorem Representable.multiple (h : F.Representable x) : Multiple (F.exponent x) x := by
  have hround := F.multiple_round x
  rwa [h] at hround

theorem representable_round_of_pos (hx : 0 < x) : F.Representable (F.round x) := by
  rcases le_or_gt (F.exponent (F.round x)) (F.exponent x) with hle | hlt
  · exact representable_of_multiple (F.multiple_round x) hle
  · rcases (round_nonneg (F := F) hx.le).eq_or_lt with hzero | hpos
    · rw [← hzero]
      exact representable_zero
    · obtain ⟨b, hxb, hb, hmul⟩ := F.exists_binade hx hpos hlt
      have heq : b = F.round x := le_antisymm hb (round_le_of_multiple (hmul.mono hlt.le) hxb.le)
      rw [heq] at hmul
      exact representable_of_multiple hmul le_rfl

theorem representable_round (x : ℚ) : F.Representable (F.round x) := by
  rcases lt_trichotomy 0 x with hx | rfl | hx
  · exact representable_round_of_pos hx
  · rw [round_zero]
    exact representable_zero
  · have hneg := (representable_round_of_pos (F := F) (neg_pos.mpr hx)).neg
    rwa [round_neg, neg_neg] at hneg

theorem representable_intCast (hleast : F.least ≤ 0) {n : Int} (hn : |n| < 2 ^ F.precision) :
    F.Representable n := by
  by_cases h0 : n = 0
  · rw [h0, Int.cast_zero]
    exact representable_zero
  · have habs : |(n : ℚ)| < 2 ^ ((0 : Int) + F.precision) := by
      rw [zero_add, zpow_natCast]
      exact_mod_cast hn
    exact representable_of_multiple (multiple_intCast n le_rfl)
      (F.exponent_le (by exact_mod_cast h0) habs hleast)

theorem Representable.le_round (hb : F.Representable b) (h : b ≤ x) : b ≤ F.round x :=
  hb.symm.trans_le (round_mono h)

theorem Representable.round_le (hb : F.Representable b) (h : x ≤ b) : F.round x ≤ b :=
  (round_mono h).trans_eq hb

-- more than half a spacing below the next integer, rounding does not carry to it
theorem floor_round (hx : F.Representable ⌊x⌋) (hgap : F.spacing x / 2 < ⌊x⌋ + 1 - x) :
    ⌊F.round x⌋ = ⌊x⌋ := by
  have hlow : (⌊x⌋ : ℚ) ≤ F.round x := hx.le_round (Int.floor_le x)
  have hnear := (abs_le.mp (F.abs_round_sub_le x)).2
  exact Int.floor_eq_iff.mpr ⟨hlow, by linarith⟩

end Round

end Format

def binary64 : Format where
  precision := 53
  least := -1074
  precision_pos := by decide

end Rounding
