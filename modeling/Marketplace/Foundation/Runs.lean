import Mathlib.Logic.Basic
import Mathlib.Algebra.Group.Int.Defs
import Mathlib.Data.List.Induction

namespace Runs

variable {A W : Type} (step : A → W → W)

def final (as : List A) (w : W) : W :=
  as.foldl (fun w a => step a w) w

def Along (P : A → W → Prop) : List A → W → Prop
  | [], _ => True
  | a :: as, w => P a w ∧ Along P as (step a w)

def summed (f : A → W → Int) : List A → W → Int
  | [], _ => 0
  | a :: as, w => f a w + summed f as (step a w)

instance decidableAlong {P : A → W → Prop} [∀ a w, Decidable (P a w)] :
    ∀ (as : List A) (w : W), Decidable (Along step P as w)
  | [], _ => inferInstanceAs (Decidable True)
  | a :: as, w =>
    have := decidableAlong (P := P) as (step a w)
    inferInstanceAs (Decidable (P a w ∧ Along step P as (step a w)))

variable {step}

@[simp] theorem final_nil (w : W) : final step [] w = w := rfl

@[simp] theorem final_cons (a : A) (as : List A) (w : W) :
    final step (a :: as) w = final step as (step a w) := rfl

theorem final_append (as bs : List A) (w : W) :
    final step (as ++ bs) w = final step bs (final step as w) := by
  simp [final]

theorem final_concat (as : List A) (a : A) (w : W) :
    final step (as ++ [a]) w = step a (final step as w) := by
  simp [final]

theorem history_final {H : List A → W → Prop} {w : W} (hstart : H [] w)
    (hstep : ∀ as a, H as (final step as w) → H (as ++ [a]) (step a (final step as w)))
    (as : List A) : H as (final step as w) := by
  induction as using List.reverseRecOn with
  | nil => exact hstart
  | append_singleton as a ih =>
    rw [final_concat]
    exact hstep as a ih

theorem along_mono {P Q : A → W → Prop} (hPQ : ∀ a w, P a w → Q a w) {as : List A} {w : W}
    (h : Along step P as w) : Along step Q as w := by
  induction as generalizing w with
  | nil => trivial
  | cons a as ih => exact ⟨hPQ a w h.1, ih h.2⟩

theorem along_and {P Q : A → W → Prop} {as : List A} {w : W} (hP : Along step P as w)
    (hQ : Along step Q as w) : Along step (fun a w => P a w ∧ Q a w) as w := by
  induction as generalizing w with
  | nil => trivial
  | cons a as ih => exact ⟨⟨hP.1, hQ.1⟩, ih hP.2 hQ.2⟩

theorem invariant_along {P : A → W → Prop} {I : W → Prop}
    (hstep : ∀ a w, P a w → I w → I (step a w)) {as : List A} {w : W}
    (hrun : Along step P as w) (hw : I w) : I (final step as w) := by
  induction as generalizing w with
  | nil => exact hw
  | cons a as ih => exact ih hrun.2 (hstep a w hrun.1 hw)

theorem along_of_invariant {P Q : A → W → Prop} {I : W → Prop}
    (hstep : ∀ a w, P a w → I w → I (step a w)) (hQ : ∀ a w, P a w → I w → Q a w)
    {as : List A} {w : W} (hrun : Along step P as w) (hw : I w) : Along step Q as w := by
  induction as generalizing w with
  | nil => trivial
  | cons a as ih => exact ⟨hQ a w hrun.1 hw, ih hrun.2 (hstep a w hrun.1 hw)⟩

theorem measure_final {μ : W → Int} {f : A → W → Int} {P : A → W → Prop} {I : W → Prop}
    (hinv : ∀ a w, P a w → I w → I (step a w))
    (hstep : ∀ a w, P a w → I w → μ (step a w) = μ w + f a w) {as : List A} {w : W}
    (hrun : Along step P as w) (hw : I w) :
    μ (final step as w) = μ w + summed step f as w := by
  induction as generalizing w with
  | nil => simp [summed]
  | cons a as ih =>
    have htail := ih hrun.2 (hinv a w hrun.1 hw)
    have hhead := hstep a w hrun.1 hw
    simp only [final_cons, summed]
    omega

theorem summed_add (f g : A → W → Int) (as : List A) (w : W) :
    summed step (fun a w => f a w + g a w) as w = summed step f as w + summed step g as w := by
  induction as generalizing w with
  | nil => rfl
  | cons a as ih =>
    simp only [summed, ih]
    omega

theorem summed_nonneg {f : A → W → Int} (step : A → W → W) (hf : ∀ a w, 0 ≤ f a w) (as : List A)
    (w : W) : 0 ≤ summed step f as w := by
  induction as generalizing w with
  | nil => exact Int.le_refl 0
  | cons a as ih =>
    have hhead := hf a w
    have htail := ih (step a w)
    simp only [summed]
    omega

theorem summed_eq_zero_iff {f : A → W → Int} (hf : ∀ a w, 0 ≤ f a w) (as : List A) (w : W) :
    summed step f as w = 0 ↔ Along step (fun a w => f a w = 0) as w := by
  induction as generalizing w with
  | nil => simp [summed, Along]
  | cons a as ih =>
    have hhead := hf a w
    have htail := summed_nonneg step hf as (step a w)
    simp only [summed, Along, ← ih]
    omega

theorem along_forall {K : Type} {P : K → A → W → Prop} (as : List A) (w : W) :
    Along step (fun a w => ∀ k, P k a w) as w ↔ ∀ k, Along step (P k) as w := by
  induction as generalizing w with
  | nil => simp [Along]
  | cons a as ih => simp only [Along, ih, forall_and]

theorem along_iff {P C : A → W → Prop} {I J : W → Prop}
    (hinv : ∀ a w, P a w → J w → J (step a w))
    (hstep : ∀ a w, P a w → J w → I w → (I (step a w) ↔ C a w)) {as : List A} {w : W}
    (hrun : Along step P as w) (hJ : J w) (hI : I w) :
    Along step (fun a w => I (step a w)) as w ↔ Along step C as w := by
  induction as generalizing w with
  | nil => exact Iff.rfl
  | cons a as ih =>
    have hJ' := hinv a w hrun.1 hJ
    have hhead := hstep a w hrun.1 hJ hI
    constructor
    · rintro ⟨hI', htail⟩
      exact ⟨hhead.mp hI', (ih hrun.2 hJ' hI').mp htail⟩
    · rintro ⟨hC, htail⟩
      have hI' := hhead.mpr hC
      exact ⟨hI', (ih hrun.2 hJ' hI').mpr htail⟩

theorem along_congr {P C : A → W → Prop} {I : W → Prop} (hinv : ∀ a w, I w → I (step a w))
    (hPC : ∀ a w, I w → (P a w ↔ C a w)) (as : List A) {w : W} (hI : I w) :
    Along step P as w ↔ Along step C as w := by
  induction as generalizing w with
  | nil => exact Iff.rfl
  | cons a as ih => exact and_congr (hPC a w hI) (ih (hinv a w hI))

theorem along_of_forall {P : A → W → Prop} {as : List A} (h : ∀ a ∈ as, ∀ w, P a w) (w : W) :
    Along step P as w := by
  induction as generalizing w with
  | nil => trivial
  | cons a as ih =>
    exact ⟨h a (List.mem_cons_self ..) w, ih (fun b hb => h b (List.mem_cons_of_mem _ hb)) _⟩

end Runs
