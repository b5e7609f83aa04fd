import Marketplace.Foundation.CallTree

namespace CallTree

inductive Noted (C : Type) (R : C → Type) (X α : Type) where
  | ret (a : α)
  | call (c : C) (k : R c → Noted C R X α)
  | note (x : X) (k : Noted C R X α)

variable {C : Type} {R : C → Type} {X α β W : Type}

namespace Noted

def bind : Noted C R X α → (α → Noted C R X β) → Noted C R X β
  | .ret a, f => f a
  | .call c k, f => .call c (fun r => (k r).bind f)
  | .note x k, f => .note x (k.bind f)

instance : Monad (Noted C R X) where
  pure := .ret
  bind := bind

def write (x : X) : Noted C R X Unit :=
  .note x (.ret ())

def lift : Prog C R α → Noted C R X α
  | .ret a => .ret a
  | .call c k => .call c (fun r => lift (k r))

def erase : Noted C R X α → Prog C R α
  | .ret a => .ret a
  | .call c k => .call c (fun r => (k r).erase)
  | .note _ k => k.erase

def Notes (h : (c : C) → W → R c × W) (Q : X → Prop) : Noted C R X α → W → Prop
  | .ret _, _ => True
  | .call c k, w => (k (h c w).1).Notes h Q (h c w).2
  | .note x k, w => Q x ∧ k.Notes h Q w

instance decidableNotes (h : (c : C) → W → R c × W) {Q : X → Prop} [DecidablePred Q] :
    ∀ (p : Noted C R X α) (w : W), Decidable (p.Notes h Q w)
  | .ret _, _ => inferInstanceAs (Decidable True)
  | .call c k, w => decidableNotes h (k (h c w).1) (h c w).2
  | .note x k, w =>
    have := decidableNotes h (Q := Q) k w
    inferInstanceAs (Decidable (Q x ∧ k.Notes h Q w))

section Erase

@[simp] theorem erase_pure (a : α) : (pure a : Noted C R X α).erase = pure a := rfl

@[simp] theorem erase_write (x : X) : (write x : Noted C R X Unit).erase = pure () := rfl

@[simp] theorem erase_bind (p : Noted C R X α) (f : α → Noted C R X β) :
    (p >>= f).erase = p.erase >>= fun a => (f a).erase := by
  induction p with
  | ret a => rfl
  | call c k ih => exact congrArg (Prog.call c) (funext ih)
  | note x k ih => exact ih

@[simp] theorem erase_lift (p : Prog C R α) : (lift p : Noted C R X α).erase = p := by
  induction p with
  | ret a => rfl
  | call c k ih => exact congrArg (Prog.call c) (funext ih)

@[simp] theorem erase_ite (P : Prop) [Decidable P] (p q : Noted C R X α) :
    (if P then p else q).erase = if P then p.erase else q.erase := by
  split <;> rfl

end Erase

section Notes

variable (h : (c : C) → W → R c × W) (Q : X → Prop) (w : W)

@[simp] theorem notes_pure (a : α) : (pure a : Noted C R X α).Notes h Q w := trivial

@[simp] theorem notes_write (x : X) : (write x : Noted C R X Unit).Notes h Q w ↔ Q x :=
  and_iff_left trivial

@[simp] theorem notes_bind (p : Noted C R X α) (f : α → Noted C R X β) :
    (p >>= f).Notes h Q w ↔
      p.Notes h Q w ∧ (f (p.erase.run h w).1).Notes h Q (p.erase.run h w).2 := by
  induction p generalizing w with
  | ret a => exact (and_iff_right trivial).symm
  | call c k ih => exact ih _ _
  | note x k ih => exact (and_congr_right' (ih w)).trans and_assoc.symm

@[simp] theorem notes_lift (p : Prog C R α) : (lift p : Noted C R X α).Notes h Q w := by
  induction p generalizing w with
  | ret a => trivial
  | call c k ih => exact ih _ _

@[simp] theorem notes_ite (P : Prop) [Decidable P] (p q : Noted C R X α) :
    (if P then p else q).Notes h Q w ↔ if P then p.Notes h Q w else q.Notes h Q w := by
  split <;> rfl

end Notes

end Noted

end CallTree
