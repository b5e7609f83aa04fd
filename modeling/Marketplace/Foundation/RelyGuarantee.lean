import Marketplace.Foundation.Interleaving
import Marketplace.Foundation.Runs

namespace RelyGuarantee
open CallTree Interleaving Runs

section Program

variable {C : Type} {R : C → Type} {α β W : Type}

def Meets (h : (c : C) → W → R c × W) (rely guar : W → W → Prop) (post : α → W → Prop) :
    Prog C R α → W → Prop
  | .ret a, w => ∀ w', rely w w' → post a w'
  | .call c k, w => ∀ w', rely w w' →
    guar w' (h c w').2 ∧ Meets h rely guar post (k (h c w').1) (h c w').2

def Stable (rely : W → W → Prop) (P : W → Prop) : Prop :=
  ∀ w w', rely w w' → P w → P w'

variable {h : (c : C) → W → R c × W} {rely guar : W → W → Prop} {P : α → W → Prop}
  {Q : β → W → Prop} {w : W}

theorem meets_pure {a : α} (hstable : Stable rely (P a)) (ha : P a w) :
    Meets h rely guar P (pure a : Prog C R α) w :=
  fun w' hw => hstable w w' hw ha

theorem meets_request {c : C} {P : R c → W → Prop} (hstable : ∀ r, Stable rely (P r))
    (hc : ∀ w', rely w w' → guar w' (h c w').2 ∧ P (h c w').1 (h c w').2) :
    Meets h rely guar P (Prog.request c) w := by
  intro w' hw
  obtain ⟨hguar, hP⟩ := hc w' hw
  exact ⟨hguar, fun w'' hw' => hstable _ _ _ hw' hP⟩

theorem meets_later (htrans : ∀ w w' w'', rely w w' → rely w' w'' → rely w w'') {p : Prog C R α}
    {w' : W} (hw : rely w w') (hp : Meets h rely guar P p w) : Meets h rely guar P p w' := by
  cases p with
  | ret a => exact fun w'' hw' => hp w'' (htrans _ _ _ hw hw')
  | call c k => exact fun w'' hw' => hp w'' (htrans _ _ _ hw hw')

theorem meets_bind (hrefl : ∀ w, rely w w) {p : Prog C R α} {f : α → Prog C R β}
    (hp : Meets h rely guar P p w) (hf : ∀ a w', P a w' → Meets h rely guar Q (f a) w') :
    Meets h rely guar Q (p >>= f) w := by
  induction p generalizing w with
  | ret a => exact hf a w (hp w (hrefl w))
  | call c k ih =>
    intro w' hw
    obtain ⟨hguar, hk⟩ := hp w' hw
    exact ⟨hguar, ih _ hk⟩

theorem meets_mono {P' : α → W → Prop} (hP : ∀ a w, P a w → P' a w) {p : Prog C R α}
    (hp : Meets h rely guar P p w) : Meets h rely guar P' p w := by
  induction p generalizing w with
  | ret a => exact fun w' hw => hP a w' (hp w' hw)
  | call c k ih =>
    intro w' hw
    obtain ⟨hguar, hk⟩ := hp w' hw
    exact ⟨hguar, ih _ hk⟩

theorem meets_ite {b : Prop} [Decidable b] {p q : Prog C R α}
    (hp : b → Meets h rely guar P p w) (hq : ¬ b → Meets h rely guar P q w) :
    Meets h rely guar P (if b then p else q) w := by
  split
  · next hb => exact hp hb
  · next hb => exact hq hb

end Program

section Parallel

variable {C : Type} {R : C → Type} {α W ι Op E : Type} [DecidableEq ι]

structure Pool (C : Type) (R : C → Type) (α W ι Op : Type) where
  sys : System C R α W ι
  running : ι → Option Op

namespace Pool

def start (w : W) : Pool C R α W ι Op where
  sys := idle w
  running _ := none

def relabel : Action ι Op E → (ι → Option Op) → ι → Option Op
  | .start i o, running => Function.update running i (some o)
  | .call _, running => running
  | .finish i, running => Function.update running i none
  | .env _, running => running

variable (h : ι → (c : C) → W → R c × W) (prog : Op → Prog C R α) (env : E → W → W)

def step (a : Action ι Op E) (s : Pool C R α W ι Op) : Pool C R α W ι Op :=
  match act h prog env a s.sys with
  | none => s
  | some sys => { sys := sys, running := relabel a s.running }

def result (s : Pool C R α W ι Op) (i : ι) : Option α :=
  match s.sys.procs i with
  | some (.ret a) => some a
  | _ => none

theorem relabel_eq_some {a : Action ι Op E} {running : ι → Option Op} {i : ι}
    {o : Op} (h : relabel a running i = some o) : running i = some o ∨ a = .start i o := by
  cases a with
  | start j o' =>
    by_cases hj : i = j
    · subst hj
      rw [relabel, Function.update_self] at h
      cases h
      exact .inr rfl
    · rw [relabel, Function.update_of_ne hj] at h
      exact .inl h
  | finish j =>
    by_cases hj : i = j
    · subst hj
      rw [relabel, Function.update_self] at h
      cases h
    · rw [relabel, Function.update_of_ne hj] at h
      exact .inl h
  | _ => exact .inl h

end Pool

structure Contract (h : ι → (c : C) → W → R c × W) (prog : Op → Prog C R α) (env : E → W → W)
    (start : Op → Prop) (rely : ι → W → W → Prop) (guar : ι → Op → W → W → Prop)
    (post : ι → Op → α → W → Prop) : Prop where
  refl : ∀ i w, rely i w w
  trans : ∀ i w w' w'', rely i w w' → rely i w' w'' → rely i w w''
  env : ∀ i e w, rely i w (env e w)
  others : ∀ i j o w w', i ≠ j → guar i o w w' → rely j w w'
  meets : ∀ i o w, start o → Meets (h i) (rely i) (guar i o) (post i o) (prog o) w

def Starts (start : Op → Prop) : Action ι Op E → Prop
  | .start _ o => start o
  | _ => True

instance {start : Op → Prop} [DecidablePred start] : DecidablePred (Starts start : Action ι Op E → Prop)
  | .start _ o => inferInstanceAs (Decidable (start o))
  | .call _ | .finish _ | .env _ => .isTrue trivial

variable {h : ι → (c : C) → W → R c × W} {prog : Op → Prog C R α} {env : E → W → W}
  {start : Op → Prop} {rely : ι → W → W → Prop} {guar : ι → Op → W → W → Prop}
  {post : ι → Op → α → W → Prop}

theorem Pool.running_step {a : Action ι Op E} {s : Pool C R α W ι Op} {i : ι} {o : Op}
    (hrun : (Pool.step h prog env a s).running i = some o) :
    s.running i = some o ∨ a = .start i o := by
  unfold Pool.step at hrun
  split at hrun
  · exact .inl hrun
  · exact Pool.relabel_eq_some hrun

theorem Pool.final_solo {i : ι} (p : Prog C R α) (s : Pool C R α W ι Op)
    (hp : s.sys.procs i = some p) :
    ∃ n, final (Pool.step h prog env) (List.replicate n (.call i)) s =
      { s with sys := { world := (p.run (h i) s.sys.world).2
                        procs := Function.update s.sys.procs i
                          (some (.ret (p.run (h i) s.sys.world).1)) } } := by
  induction p generalizing s with
  | ret a =>
    refine ⟨0, ?_⟩
    have hsame : Function.update s.sys.procs i (some (.ret a)) = s.sys.procs := by
      rw [← hp, Function.update_eq_self]
    simp only [List.replicate_zero, final_nil, Prog.run, hsame]
  | call c k ih =>
    have hnext : Pool.step h prog env (.call i) s =
        { s with sys := { world := (h i c s.sys.world).2
                          procs := Function.update s.sys.procs i
                            (some (k (h i c s.sys.world).1)) } } := by
      simp only [Pool.step, act, hp, Pool.relabel]
    have hrest : (Pool.step h prog env (.call i) s).sys.procs i =
        some (k (h i c s.sys.world).1) := by
      rw [hnext]
      exact Function.update_self ..
    obtain ⟨n, hn⟩ := ih _ (Pool.step h prog env (.call i) s) hrest
    refine ⟨n + 1, ?_⟩
    rw [List.replicate_succ, final_cons, hn, hnext]
    simp only [Prog.run, Function.update_idem]

def Governed (h : ι → (c : C) → W → R c × W) (start : Op → Prop) (rely : ι → W → W → Prop)
    (guar : ι → Op → W → W → Prop) (post : ι → Op → α → W → Prop) (s : Pool C R α W ι Op) : Prop :=
  ∀ i p, s.sys.procs i = some p → ∃ o, s.running i = some o ∧ start o ∧
    Meets (h i) (rely i) (guar i o) (post i o) p s.sys.world

omit [DecidableEq ι] in
theorem governed_start (w : W) :
    Governed h start rely guar post (Pool.start w : Pool C R α W ι Op) := by
  intro i p hp
  cases hp

inductive Moves (env : E → W → W) (start : Op → Prop) (guar : ι → Op → W → W → Prop)
    (s : Pool C R α W ι Op) (w' : W) : Prop
  | still (hw : w' = s.sys.world)
  | env (e : E) (hw : w' = env e s.sys.world)
  | call (i : ι) (o : Op) (hrun : s.running i = some o) (ho : start o) (hw : guar i o s.sys.world w')

namespace Contract

variable (H : Contract h prog env start rely guar post) {s : Pool C R α W ι Op} {a : Action ι Op E}
include H

-- the other sessions' remaining programs survive one step because it lies in their rely
theorem carry {w' : W} {i : ι} {q : Option (Prog C R α)} {l : Option Op}
    (hs : Governed h start rely guar post s) (hrely : ∀ j, j ≠ i → rely j s.sys.world w')
    (hq : ∀ p, q = some p → ∃ o, l = some o ∧ start o ∧
      Meets (h i) (rely i) (guar i o) (post i o) p w') :
    Governed h start rely guar post
      ⟨⟨w', Function.update s.sys.procs i q⟩, Function.update s.running i l⟩ := by
  intro j p hp
  by_cases hj : j = i
  · subst hj
    simp only [Function.update_self] at hp ⊢
    exact hq p hp
  · simp only [Function.update_of_ne hj] at hp ⊢
    obtain ⟨o, hrun, ho, hmeets⟩ := hs j p hp
    exact ⟨o, hrun, ho, meets_later (H.trans j) (hrely j hj) hmeets⟩

theorem governed_step (ha : Starts start a) (hs : Governed h start rely guar post s) :
    Governed h start rely guar post (Pool.step h prog env a s) ∧
      Moves env start guar s (Pool.step h prog env a s).sys.world := by
  unfold Pool.step
  cases a with
  | start i o =>
    simp only [act]
    cases hp : s.sys.procs i with
    | some p => exact ⟨hs, .still rfl⟩
    | none =>
      refine ⟨H.carry hs (fun j _ => H.refl j _) (fun p hp => ?_), .still rfl⟩
      cases hp
      exact ⟨o, rfl, ha, H.meets i o _ ha⟩
  | call i =>
    simp only [act]
    cases hp : s.sys.procs i with
    | none => exact ⟨hs, .still rfl⟩
    | some p =>
      cases p with
      | ret r => exact ⟨hs, .still rfl⟩
      | call c k =>
        obtain ⟨o, hrun, ho, hmeets⟩ := hs i _ hp
        obtain ⟨hguar, hk⟩ := hmeets _ (H.refl i _)
        refine ⟨?_, .call i o hrun ho hguar⟩
        have hcarry := H.carry (i := i) (q := some (k (h i c s.sys.world).1)) (l := some o) hs
          (fun j hj => H.others i j o _ _ (Ne.symm hj) hguar)
          (fun p hp => by cases hp; exact ⟨o, rfl, ho, hk⟩)
        rwa [← hrun, Function.update_eq_self] at hcarry
  | finish i =>
    simp only [act]
    cases hp : s.sys.procs i with
    | none => exact ⟨hs, .still rfl⟩
    | some p =>
      cases p with
      | call c k => exact ⟨hs, .still rfl⟩
      | ret r =>
        exact ⟨H.carry hs (fun j _ => H.refl j _) (fun p hp => by cases hp), .still rfl⟩
  | env e =>
    refine ⟨fun i p hp => ?_, .env e rfl⟩
    obtain ⟨o, hrun, ho, hmeets⟩ := hs i p hp
    exact ⟨o, hrun, ho, meets_later (H.trans i) (H.env i e _) hmeets⟩

theorem governed_final {as : List (Action ι Op E)} (has : ∀ a ∈ as, Starts start a)
    (hs : Governed h start rely guar post s) :
    Governed h start rely guar post (final (Pool.step h prog env) as s) := by
  have hrun : Along (Pool.step h prog env) (fun a _ => Starts start a) as s :=
    along_of_forall (fun a ha _ => has a ha) s
  exact invariant_along (I := Governed h start rely guar post)
    (fun a t ha ht => (H.governed_step ha ht).1) hrun hs

theorem world_final {P : W → W → Prop} (hrefl : ∀ w, P w w)
    (htrans : ∀ w w' w'', P w w' → P w' w'' → P w w'') (henv : ∀ e w, P w (env e w))
    (hguar : ∀ i o w w', start o → guar i o w w' → P w w') {as : List (Action ι Op E)}
    (has : ∀ a ∈ as, Starts start a) (hs : Governed h start rely guar post s) :
    P s.sys.world (final (Pool.step h prog env) as s).sys.world := by
  induction as generalizing s with
  | nil => exact hrefl _
  | cons a as ih =>
    obtain ⟨ha, has⟩ := List.forall_mem_cons.mp has
    obtain ⟨hnext, hmoves⟩ := H.governed_step ha hs
    refine htrans _ _ _ ?_ (ih has hnext)
    cases hmoves with
    | still hw => rw [hw]; exact hrefl _
    | env e hw => rw [hw]; exact henv e _
    | call i o hrun ho hw => exact hguar i o _ _ ho hw

end Contract

namespace Governed

variable {s : Pool C R α W ι Op} {i : ι} {o : Op}

theorem call_step (hs : Governed h start rely guar post s) (hrely : ∀ i w, rely i w w)
    (hguar : ∀ i o w, guar i o w w) (hrun : s.running i = some o) :
    guar i o s.sys.world (Pool.step h prog env (.call i) s).sys.world := by
  unfold Pool.step
  simp only [act]
  cases hp : s.sys.procs i with
  | none => exact hguar i o _
  | some p =>
    cases p with
    | ret a => exact hguar i o _
    | call c k =>
      obtain ⟨o', hrun', -, hmeets⟩ := hs i _ hp
      obtain rfl := Option.some.inj (hrun.symm.trans hrun')
      exact (hmeets _ (hrely i _)).1

omit [DecidableEq ι] in
theorem result (hs : Governed h start rely guar post s) (hrely : ∀ i w, rely i w w)
    (hrun : s.running i = some o) {a : α} (ha : s.result i = some a) : post i o a s.sys.world := by
  unfold Pool.result at ha
  split at ha
  · next b hp =>
    cases ha
    obtain ⟨o', hrun', -, hmeets⟩ := hs i _ hp
    obtain rfl := Option.some.inj (hrun.symm.trans hrun')
    exact hmeets _ (hrely i _)
  · cases ha

end Governed

end Parallel

end RelyGuarantee
