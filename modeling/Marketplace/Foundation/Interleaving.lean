import Mathlib.Logic.Function.Basic
import Mathlib.Logic.Relation
import Marketplace.Foundation.CallTree

namespace Interleaving
open CallTree

variable {C : Type} {R : C → Type} {α W ι Op E : Type} [DecidableEq ι]

structure System (C : Type) (R : C → Type) (α W ι : Type) where
  world : W
  procs : ι → Option (Prog C R α)

inductive Action (ι Op E : Type) where
  | start (i : ι) (o : Op)
  | call (i : ι)
  | finish (i : ι)
  | env (e : E)

def idle (w : W) : System C R α W ι where
  world := w
  procs _ := none

variable (h : ι → (c : C) → W → R c × W) (prog : Op → Prog C R α) (env : E → W → W)

def act : Action ι Op E → System C R α W ι → Option (System C R α W ι)
  | .start i o, s =>
    match s.procs i with
    | none => some { s with procs := Function.update s.procs i (some (prog o)) }
    | some _ => none
  | .call i, s =>
    match s.procs i with
    | some (.call c k) =>
      some { world := (h i c s.world).2
             procs := Function.update s.procs i (some (k (h i c s.world).1)) }
    | _ => none
  | .finish i, s =>
    match s.procs i with
    | some (.ret _) => some { s with procs := Function.update s.procs i none }
    | _ => none
  | .env e, s => some { s with world := env e s.world }

def Guarded (G : ι → C → W → Prop) (start : Op → Prop) : Action ι Op E → System C R α W ι → Prop
  | .start _ o, _ => start o
  | .call i, s =>
    match s.procs i with
    | some (.call c _) => G i c s.world
    | _ => True
  | .finish _, _ => True
  | .env _, _ => True

instance decidableGuarded {G : ι → C → W → Prop} {start : Op → Prop} [∀ i c w, Decidable (G i c w)]
    [DecidablePred start] (a : Action ι Op E) (s : System C R α W ι) :
    Decidable (Guarded G start a s) := by
  unfold Guarded
  repeat' split
  all_goals infer_instance

def schedule (G : ι → C → W → Prop) (start : Op → Prop) [∀ i c w, Decidable (G i c w)]
    [DecidablePred start] : List (Action ι Op E) → System C R α W ι → Option (System C R α W ι)
  | [], s => some s
  | a :: as, s =>
    if Guarded G start a s then (act h prog env a s).bind (schedule G start as) else none

def Step (G : ι → C → W → Prop) (start : Op → Prop) (s t : System C R α W ι) : Prop :=
  ∃ a, Guarded G start a s ∧ act h prog env a s = some t

def Reaches (G : ι → C → W → Prop) (start : Op → Prop) :
    System C R α W ι → System C R α W ι → Prop :=
  Relation.ReflTransGen (Step h prog env G start)

def Quiet (s : System C R α W ι) : Prop :=
  ∀ i, s.procs i = none

variable {h prog env} {G : ι → C → W → Prop} {start : Op → Prop}

theorem reaches_of_schedule [∀ i c w, Decidable (G i c w)] [DecidablePred start]
    {as : List (Action ι Op E)} {s t : System C R α W ι}
    (hs : schedule h prog env G start as s = some t) : Reaches h prog env G start s t := by
  induction as generalizing s with
  | nil =>
    cases hs
    exact .refl
  | cons a as ih =>
    simp only [schedule] at hs
    split at hs
    · next hg =>
      obtain ⟨u, hu, ht⟩ := Option.bind_eq_some_iff.mp hs
      exact .head ⟨a, hg, hu⟩ (ih ht)
    · cases hs

def Tame (I : W → Prop) (Q : C → Prop) (s : System C R α W ι) : Prop :=
  I s.world ∧ ∀ i p, s.procs i = some p → p.All Q (fun _ => True)

theorem tame_step {I : W → Prop} {Q : C → Prop} (hprog : ∀ o, start o → (prog o).All Q (fun _ => True))
    (hcall : ∀ i c w, Q c → G i c w → I w → I (h i c w).2) (henv : ∀ e w, I w → I (env e w))
    {s t : System C R α W ι} (hst : Step h prog env G start s t) (hs : Tame I Q s) : Tame I Q t := by
  obtain ⟨a, hg, ha⟩ := hst
  obtain ⟨hw, hall⟩ := hs
  have lift {f : ι → Option (Prog C R α)} {i : ι} {o : Option (Prog C R α)}
      (hf : ∀ j p, f j = some p → p.All Q (fun _ => True)) (ho : ∀ p, o = some p → p.All Q (fun _ => True)) :
      ∀ j p, Function.update f i o j = some p → p.All Q (fun _ => True) := by
    intro j p hp
    by_cases hj : j = i
    · subst hj
      exact ho p (by simpa using hp)
    · exact hf j p (by simpa [hj] using hp)
  cases a with
  | start i o =>
    simp only [act] at ha
    split at ha
    · cases ha
      exact ⟨hw, lift hall (fun p hp => by cases hp; exact hprog o hg)⟩
    · cases ha
  | call i =>
    simp only [act] at ha
    split at ha
    · next c k hp =>
      cases ha
      have hck := hall i _ hp
      have hgc : G i c s.world := by
        simp only [Guarded, hp] at hg
        exact hg
      exact ⟨hcall i c _ hck.1 hgc hw, lift hall (fun p hp => by cases hp; exact hck.2 _)⟩
    · cases ha
  | finish i =>
    simp only [act] at ha
    split at ha
    · cases ha
      exact ⟨hw, lift hall (fun p hp => by cases hp)⟩
    · cases ha
  | env e =>
    cases ha
    exact ⟨henv e _ hw, hall⟩

theorem tame_reaches {I : W → Prop} {Q : C → Prop} (hprog : ∀ o, start o → (prog o).All Q (fun _ => True))
    (hcall : ∀ i c w, Q c → G i c w → I w → I (h i c w).2) (henv : ∀ e w, I w → I (env e w))
    {s t : System C R α W ι} (hst : Reaches h prog env G start s t) (hs : Tame I Q s) :
    Tame I Q t := by
  induction hst with
  | refl => exact hs
  | tail _ hstep ih => exact tame_step hprog hcall henv hstep ih

theorem world_reaches {I : W → Prop} {Q : C → Prop} (hprog : ∀ o, start o → (prog o).All Q (fun _ => True))
    (hcall : ∀ i c w, Q c → G i c w → I w → I (h i c w).2) (henv : ∀ e w, I w → I (env e w))
    {w : W} {t : System C R α W ι} (hst : Reaches h prog env G start (idle w) t) (hw : I w) :
    I t.world :=
  (tame_reaches hprog hcall henv hst ⟨hw, fun _ _ hp => by cases hp⟩).1

end Interleaving
