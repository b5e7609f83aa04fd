import Mathlib.Logic.Basic

namespace CallTree

inductive Prog (C : Type) (R : C → Type) (α : Type) where
  | ret (a : α)
  | call (c : C) (k : R c → Prog C R α)

variable {C : Type} {R : C → Type} {α β W : Type}

namespace Prog

def bind : Prog C R α → (α → Prog C R β) → Prog C R β
  | .ret a, f => f a
  | .call c k, f => .call c (fun r => (k r).bind f)

instance : Monad (Prog C R) where
  pure := .ret
  bind := bind

def request (c : C) : Prog C R (R c) :=
  .call c .ret

def run (h : (c : C) → W → R c × W) : Prog C R α → W → α × W
  | .ret a, w => (a, w)
  | .call c k, w => (k (h c w).1).run h (h c w).2

def calls (h : (c : C) → W → R c × W) : Prog C R α → W → List C
  | .ret _, _ => []
  | .call c k, w => c :: (k (h c w).1).calls h (h c w).2

def Keeps (h : (c : C) → W → R c × W) (I : W → Prop) (p : Prog C R α) (P : α → Prop) : Prop :=
  ∀ w, I w → P (p.run h w).1 ∧ I (p.run h w).2

def All (Q : C → Prop) (P : α → Prop) : Prog C R α → Prop
  | .ret a => P a
  | .call c k => Q c ∧ ∀ r, (k r).All Q P

theorem pure_bind (a : α) (f : α → Prog C R β) : (pure a : Prog C R α) >>= f = f a := rfl

section Run

variable (h : (c : C) → W → R c × W) (w : W)

@[simp] theorem run_pure (a : α) : (pure a : Prog C R α).run h w = (a, w) := rfl

@[simp] theorem run_request (c : C) : (request c).run h w = h c w := rfl

@[simp] theorem run_bind (p : Prog C R α) (f : α → Prog C R β) :
    (p >>= f).run h w = (f (p.run h w).1).run h (p.run h w).2 := by
  induction p generalizing w with
  | ret a => rfl
  | call c k ih => exact ih _ _

@[simp] theorem run_ite (P : Prop) [Decidable P] (p q : Prog C R α) :
    (if P then p else q).run h w = if P then p.run h w else q.run h w := by
  split <;> rfl

@[simp] theorem calls_pure (a : α) : (pure a : Prog C R α).calls h w = [] := rfl

@[simp] theorem calls_request (c : C) : (request c).calls h w = [c] := rfl

@[simp] theorem calls_bind (p : Prog C R α) (f : α → Prog C R β) :
    (p >>= f).calls h w = p.calls h w ++ (f (p.run h w).1).calls h (p.run h w).2 := by
  induction p generalizing w with
  | ret a => rfl
  | call c k ih => exact congrArg (c :: ·) (ih _ _)

end Run

section Keeps

variable {h : (c : C) → W → R c × W} {I : W → Prop} {P : α → Prop} {T : β → Prop}

theorem keeps_pure {a : α} (ha : P a) : Keeps h I (pure a : Prog C R α) P :=
  fun _ hw => ⟨ha, hw⟩

theorem keeps_bind {p : Prog C R α} {f : α → Prog C R β} (hp : p.Keeps h I P)
    (hf : ∀ a, P a → (f a).Keeps h I T) : (p >>= f).Keeps h I T := by
  intro w hw
  obtain ⟨ha, hw'⟩ := hp w hw
  rw [run_bind]
  exact hf _ ha _ hw'

theorem keeps_ite {b : Prop} [Decidable b] {p q : Prog C R α} (hp : b → p.Keeps h I P)
    (hq : ¬ b → q.Keeps h I P) : (if b then p else q).Keeps h I P := by
  split
  · next hb => exact hp hb
  · next hb => exact hq hb

end Keeps

section All

variable {Q : C → Prop} {P : α → Prop} {T : β → Prop}

@[simp] theorem all_pure (a : α) : (pure a : Prog C R α).All Q P ↔ P a := Iff.rfl

@[simp] theorem all_request (c : C) (P : R c → Prop) :
    (request c : Prog C R (R c)).All Q P ↔ Q c ∧ ∀ r, P r := Iff.rfl

theorem all_bind {p : Prog C R α} {f : α → Prog C R β} (hp : p.All Q P)
    (hf : ∀ a, P a → (f a).All Q T) : (p >>= f).All Q T := by
  induction p with
  | ret a => exact hf a hp
  | call c k ih => exact ⟨hp.1, fun r => ih r (hp.2 r)⟩

theorem all_ite {b : Prop} [Decidable b] {p q : Prog C R α} (hp : b → p.All Q P)
    (hq : ¬ b → q.All Q P) : (if b then p else q).All Q P := by
  split
  · next h => exact hp h
  · next h => exact hq h

theorem all_true (p : Prog C R α) : p.All (fun _ => True) (fun _ => True) := by
  induction p with
  | ret a => trivial
  | call c k ih => exact ⟨trivial, ih⟩

end All

end Prog

end CallTree
