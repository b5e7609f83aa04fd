import Mathlib.Data.Option.Basic
import Marketplace.Foundation.RelyGuarantee

namespace Coupling
open CallTree Interleaving RelyGuarantee Runs

variable {C : Type} {R : C → Type} {α β γ δ W ι Op E : Type}

structure Matching (C : Type) (R : C → Type) where
  sent : C → C → Prop
  answered : (c d : C) → R c → R d → Prop

-- The two programs go on sending matching requests while they get matching answers.
inductive Coupled (M : Matching C R) (Q : α → β → Prop) : Prog C R α → Prog C R β → Prop
  | ret {a : α} {b : β} (h : Q a b) : Coupled M Q (.ret a) (.ret b)
  | call {c d : C} {k : R c → Prog C R α} {l : R d → Prog C R β} (hsent : M.sent c d)
    (h : ∀ r s, M.answered c d r s → Coupled M Q (k r) (l s)) : Coupled M Q (.call c k) (.call d l)

section Programs

variable {M : Matching C R} {Q : α → β → Prop} {T : γ → δ → Prop}

theorem coupled_pure {a : α} {b : β} (h : Q a b) :
    Coupled M Q (pure a : Prog C R α) (pure b : Prog C R β) :=
  .ret h

theorem coupled_request {c d : C} (h : M.sent c d) :
    Coupled M (M.answered c d) (Prog.request c) (Prog.request d) :=
  .call h fun _ _ hanswered => .ret hanswered

theorem coupled_bind {p : Prog C R α} {q : Prog C R β} {f : α → Prog C R γ} {g : β → Prog C R δ}
    (hpq : Coupled M Q p q) (hfg : ∀ a b, Q a b → Coupled M T (f a) (g b)) :
    Coupled M T (p >>= f) (q >>= g) := by
  induction hpq with
  | ret h => exact hfg _ _ h
  | call hsent _ ih => exact .call hsent ih

theorem coupled_mono {Q' : α → β → Prop} (hQ : ∀ a b, Q a b → Q' a b) {p : Prog C R α}
    {q : Prog C R β} (hpq : Coupled M Q p q) : Coupled M Q' p q := by
  induction hpq with
  | ret h => exact .ret (hQ _ _ h)
  | call hsent _ ih => exact .call hsent ih

theorem coupled_ite {b : Prop} [Decidable b] {p p' : Prog C R α} {q q' : Prog C R β}
    (hp : b → Coupled M Q p q) (hn : ¬ b → Coupled M Q p' q') :
    Coupled M Q (if b then p else p') (if b then q else q') := by
  split
  · next h => exact hp h
  · next h => exact hn h

theorem coupled_bind_same {p : Prog C R α} {f : α → Prog C R γ} {g : α → Prog C R δ}
    (hp : Coupled M Eq p p) (hfg : ∀ a, Coupled M T (f a) (g a)) :
    Coupled M T (p >>= f) (p >>= g) := by
  apply coupled_bind hp
  rintro a _ rfl
  exact hfg a

end Programs

structure Respects (M : Matching C R) (h : ι → (c : C) → W → R c × W) (env : E → W → W)
    (J : W → W → Prop) : Prop where
  call : ∀ i c d w w', M.sent c d → J w w' →
    M.answered c d (h i c w).1 (h i d w').1 ∧ J (h i c w).2 (h i d w').2
  env : ∀ e w w', J w w' → J (env e w) (env e w')

inductive Paired (K : Op → Op → Prop) : Action ι Op E → Action ι Op E → Prop
  | start (i : ι) {o o' : Op} (h : K o o') : Paired K (.start i o) (.start i o')
  | call (i : ι) : Paired K (.call i) (.call i)
  | finish (i : ι) : Paired K (.finish i) (.finish i)
  | env (e : E) : Paired K (.env e) (.env e)

theorem Paired.refl {K : Op → Op → Prop} (hK : ∀ o, K o o) : (a : Action ι Op E) → Paired K a a
  | .start i o => .start i (hK o)
  | .call i => .call i
  | .finish i => .finish i
  | .env e => .env e

structure Alike (M : Matching C R) (J : W → W → Prop) (Q : α → α → Prop)
    (s t : Pool C R α W ι Op) : Prop where
  world : J s.sys.world t.sys.world
  procs : ∀ i, Option.Rel (Coupled M Q) (s.sys.procs i) (t.sys.procs i)

section Pools

variable [DecidableEq ι] {M : Matching C R} {h : ι → (c : C) → W → R c × W}
  {prog : Op → Prog C R α} {env : E → W → W} {J : W → W → Prop} {K : Op → Op → Prop}
  {Q : α → α → Prop} {s t : Pool C R α W ι Op}

theorem rel_update {f g : ι → Option (Prog C R α)} (hfg : ∀ i, Option.Rel (Coupled M Q) (f i) (g i))
    (i : ι) {p q : Option (Prog C R α)} (hpq : Option.Rel (Coupled M Q) p q) (j : ι) :
    Option.Rel (Coupled M Q) (Function.update f i p j) (Function.update g i q j) := by
  by_cases hj : j = i
  · subst hj
    simpa only [Function.update_self] using hpq
  · simpa only [Function.update_of_ne hj] using hfg j

theorem alike_step (H : Respects M h env J)
    (hprog : ∀ o o', K o o' → Coupled M Q (prog o) (prog o'))
    {a b : Action ι Op E} (hab : Paired K a b) (hst : Alike M J Q s t) :
    Alike M J Q (Pool.step h prog env a s) (Pool.step h prog env b t) := by
  unfold Pool.step
  cases hab with
  | @start i o o' hK =>
    have hi := hst.procs i
    cases hs : s.sys.procs i with
    | none =>
      rw [hs] at hi
      cases ht : t.sys.procs i with
      | some q =>
        rw [ht] at hi
        cases hi
      | none =>
        simp only [act, hs, ht]
        exact ⟨hst.world, rel_update hst.procs i (.some (hprog o o' hK))⟩
    | some p =>
      rw [hs] at hi
      cases ht : t.sys.procs i with
      | none =>
        rw [ht] at hi
        cases hi
      | some q =>
        simp only [act, hs, ht]
        exact hst
  | call i =>
    have hi := hst.procs i
    simp only [act]
    generalize s.sys.procs i = p at hi ⊢
    generalize t.sys.procs i = q at hi ⊢
    cases hi with
    | none => exact hst
    | some hpq =>
      cases hpq with
      | ret hQ => exact hst
      | @call c d k l hsent hk =>
        obtain ⟨hanswered, hworld⟩ := H.call i c d _ _ hsent hst.world
        exact ⟨hworld, rel_update hst.procs i (.some (hk _ _ hanswered))⟩
  | finish i =>
    have hi := hst.procs i
    simp only [act]
    generalize s.sys.procs i = p at hi ⊢
    generalize t.sys.procs i = q at hi ⊢
    cases hi with
    | none => exact hst
    | some hpq =>
      cases hpq with
      | ret hQ => exact ⟨hst.world, rel_update hst.procs i .none⟩
      | call hsent hk => exact hst
  | env e => exact ⟨H.env e _ _ hst.world, hst.procs⟩

theorem alike_final (H : Respects M h env J)
    (hprog : ∀ o o', K o o' → Coupled M Q (prog o) (prog o'))
    {as bs : List (Action ι Op E)} (hab : List.Forall₂ (Paired K) as bs) (hst : Alike M J Q s t) :
    Alike M J Q (final (Pool.step h prog env) as s) (final (Pool.step h prog env) bs t) := by
  induction hab generalizing s t with
  | nil => exact hst
  | cons hpair _ ih => exact ih (alike_step H hprog hpair hst)

omit [DecidableEq ι] in
theorem alike_start {w w' : W} (hw : J w w') :
    Alike M J Q (Pool.start w : Pool C R α W ι Op) (Pool.start w') :=
  ⟨hw, fun _ => .none⟩

omit [DecidableEq ι] in
theorem alike_result (hst : Alike M J Q s t) (i : ι) :
    Option.Rel Q (s.result i) (t.result i) := by
  have hi := hst.procs i
  unfold Pool.result
  generalize s.sys.procs i = p at hi ⊢
  generalize t.sys.procs i = q at hi ⊢
  cases hi with
  | none => exact .none
  | some hpq =>
    cases hpq with
    | ret hQ => exact .some hQ
    | call hsent hk => exact .none

end Pools

end Coupling
