import Mathlib.Algebra.BigOperators.Group.List.Basic
import Mathlib.Data.Finmap
import Mathlib.Data.Fintype.EquivFin

namespace Separation

variable {α β γ : Type}

abbrev Heap (β : Type) := Finmap (fun _ : Nat => β)

abbrev Mem (β : Type) := StateT (Heap β) Option

structure Allocator (β : Type) where
  pick : Heap β → Nat
  fresh : ∀ h, pick h ∉ h

def malloc (A : Allocator β) (b : β) : Mem β Nat :=
  fun h => some (A.pick h, h.insert (A.pick h) b)

def load (a : Nat) : Mem β β :=
  fun h => (h.lookup a).map (·, h)

def store (a : Nat) (b : β) : Mem β Unit :=
  fun h => if a ∈ h then some ((), h.insert a b) else none

def free (a : Nat) : Mem β Unit :=
  fun h => if a ∈ h then some ((), h.erase a) else none

def check (o : Option α) : Mem β α :=
  fun h => o.map (·, h)

def Assert (β : Type) := Heap β → Prop

def points (a : Nat) (b : β) : Assert β :=
  fun h => h = Finmap.singleton a b

namespace Assert

variable {P Q R : Assert β} {h : Heap β}

@[ext] theorem ext (hPQ : ∀ h, P h ↔ Q h) : P = Q :=
  funext fun h => propext (hPQ h)

instance : Mul (Assert β) where
  mul P Q h := ∃ l r, l.Disjoint r ∧ h = l ∪ r ∧ P l ∧ Q r

instance : One (Assert β) where
  one h := h = ∅

theorem mul_swap (hPQ : (P * Q) h) : (Q * P) h := by
  obtain ⟨l, r, hd, rfl, hl, hr⟩ := hPQ
  exact ⟨r, l, hd.symm, Finmap.union_comm_of_disjoint hd, hr, hl⟩

theorem mul_regroup (hPQR : (P * Q * R) h) : (P * (Q * R)) h := by
  obtain ⟨lm, r, hd, rfl, ⟨l, m, hlm, rfl, hl, hm⟩, hr⟩ := hPQR
  obtain ⟨hlr, hmr⟩ := (Finmap.disjoint_union_left l m r).mp hd
  refine ⟨l, m ∪ r, (Finmap.disjoint_union_right l m r).mpr ⟨hlm, hlr⟩, Finmap.union_assoc, hl, ?_⟩
  exact ⟨m, r, hmr, rfl, hm, hr⟩

instance : CommMonoid (Assert β) where
  mul_assoc P Q R := by
    ext h
    constructor
    · exact mul_regroup
    · intro hPQR
      exact mul_swap (mul_regroup (mul_swap (mul_regroup (mul_swap hPQR))))
  one_mul P := by
    ext h
    constructor
    · rintro ⟨l, r, -, rfl, rfl, hr⟩
      rwa [Finmap.empty_union]
    · intro hP
      exact ⟨∅, h, Finmap.disjoint_empty h, Finmap.empty_union.symm, rfl, hP⟩
  mul_one P := by
    ext h
    constructor
    · rintro ⟨l, r, -, rfl, hl, rfl⟩
      rwa [Finmap.union_empty]
    · intro hP
      exact ⟨h, ∅, (Finmap.disjoint_empty h).symm, Finmap.union_empty.symm, hP, rfl⟩
  mul_comm P Q := by
    ext h
    exact ⟨mul_swap, mul_swap⟩

end Assert

def Triple (P : Assert β) (p : Mem β α) (Q : α → Assert β) : Prop :=
  ∀ l r, l.Disjoint r → P l → ∃ a l', p (l ∪ r) = some (a, l' ∪ r) ∧ l'.Disjoint r ∧ Q a l'

section Rules

variable {P P' R : Assert β} {p : Mem β α} {Q Q' : α → Assert β} {f : α → Mem β γ}
  {T : γ → Assert β} {a : Nat} {b b' : β}

theorem triple_pure {x : α} (h : ∀ l, P l → Q x l) : Triple P (pure x) Q := by
  intro l r hd hP
  exact ⟨x, l, rfl, hd, h l hP⟩

theorem run_bind {x : α} {h h' : Heap β} (hp : p h = some (x, h')) : (p >>= f) h = f x h' := by
  simp only [Bind.bind, StateT.bind, hp, Option.bind_some]

theorem triple_bind (hp : Triple P p Q) (hf : ∀ x, Triple (Q x) (f x) T) :
    Triple P (p >>= f) T := by
  intro l r hd hP
  obtain ⟨x, l', hrun, hd', hQ⟩ := hp l r hd hP
  obtain ⟨y, l'', hrun', hd'', hT⟩ := hf x l' r hd' hQ
  refine ⟨y, l'', ?_, hd'', hT⟩
  rw [run_bind hrun]
  exact hrun'

theorem triple_seq {q : Mem β γ} {M : Assert β} (hp : Triple P p (fun _ => M)) (hq : Triple M q T) :
    Triple P (p >>= fun _ => q) T :=
  triple_bind hp fun _ => hq

theorem triple_frame (R : Assert β) (hp : Triple P p Q) : Triple (P * R) p (fun x => Q x * R) := by
  intro l r hd hPR
  obtain ⟨m, n, hmn, rfl, hP, hR⟩ := hPR
  obtain ⟨hmr, hnr⟩ := (Finmap.disjoint_union_left m n r).mp hd
  have hrest : m.Disjoint (n ∪ r) := (Finmap.disjoint_union_right m n r).mpr ⟨hmn, hmr⟩
  obtain ⟨x, m', hrun, hd', hQ⟩ := hp m (n ∪ r) hrest hP
  obtain ⟨hmn', hmr'⟩ := (Finmap.disjoint_union_right m' n r).mp hd'
  refine ⟨x, m' ∪ n, ?_, (Finmap.disjoint_union_left m' n r).mpr ⟨hmr', hnr⟩, ?_⟩
  · rw [Finmap.union_assoc, Finmap.union_assoc]
    exact hrun
  · exact ⟨m', n, hmn', rfl, hQ, hR⟩

theorem triple_consequence (hp : Triple P p Q) (hP : ∀ l, P' l → P l)
    (hQ : ∀ x l, Q x l → Q' x l) : Triple P' p Q' := by
  intro l r hd hl
  obtain ⟨x, l', hrun, hd', hx⟩ := hp l r hd (hP l hl)
  exact ⟨x, l', hrun, hd', hQ x l' hx⟩

theorem singleton_union (a : Nat) (b : β) (r : Heap β) :
    Finmap.singleton a b ∪ r = r.insert a b := by
  apply Finmap.ext_lookup
  intro x
  by_cases hx : x = a
  · subst hx
    rw [Finmap.lookup_insert, Finmap.lookup_union_left ((Finmap.mem_singleton _ _ _).mpr rfl),
      Finmap.lookup_singleton_eq]
  · rw [Finmap.lookup_insert_of_ne r hx,
      Finmap.lookup_union_right (fun h => hx ((Finmap.mem_singleton _ _ _).mp h))]

theorem singleton_disjoint {r : Heap β} (h : a ∉ r) (b : β) :
    Finmap.Disjoint (Finmap.singleton a b) r := by
  intro x hx
  rwa [(Finmap.mem_singleton _ _ _).mp hx]

theorem not_mem_of_disjoint {r : Heap β} (h : (Finmap.singleton a b).Disjoint r) : a ∉ r :=
  h a ((Finmap.mem_singleton _ _ _).mpr rfl)

theorem triple_malloc (A : Allocator β) (b : β) : Triple 1 (malloc A b) (fun a => points a b) := by
  rintro l r - rfl
  have hfresh := A.fresh r
  refine ⟨A.pick r, Finmap.singleton (A.pick r) b, ?_, singleton_disjoint hfresh b, rfl⟩
  rw [Finmap.empty_union, singleton_union]
  rfl

theorem triple_store (a : Nat) (b b' : β) :
    Triple (points a b) (store a b') (fun _ => points a b') := by
  rintro l r hd rfl
  have hnot := not_mem_of_disjoint hd
  refine ⟨(), Finmap.singleton a b', ?_, singleton_disjoint hnot b', rfl⟩
  have hmem : a ∈ Finmap.singleton a b ∪ r :=
    Finmap.mem_union.mpr (.inl ((Finmap.mem_singleton _ _ _).mpr rfl))
  rw [store, if_pos hmem, singleton_union, singleton_union, Finmap.insert_insert]

theorem triple_free (a : Nat) (b : β) : Triple (points a b) (free a) (fun _ => 1) := by
  rintro l r hd rfl
  have hnot := not_mem_of_disjoint hd
  have hmem : a ∈ Finmap.singleton a b ∪ r :=
    Finmap.mem_union.mpr (.inl ((Finmap.mem_singleton _ _ _).mpr rfl))
  refine ⟨(), ∅, ?_, Finmap.disjoint_empty r, rfl⟩
  rw [free, if_pos hmem, singleton_union, Finmap.empty_union]
  congr 2
  apply Finmap.ext_lookup
  intro x
  by_cases hx : x = a
  · subst hx
    rw [Finmap.lookup_erase, Finmap.lookup_eq_none.mpr hnot]
  · rw [Finmap.lookup_erase_ne hx, Finmap.lookup_insert_of_ne r hx]

end Rules

def Reads (P : Assert β) (p : Mem β α) (x : α) : Prop :=
  ∀ l r, l.Disjoint r → P l → p (l ∪ r) = some (x, l ∪ r)

section Reads

variable {P : Assert β} {p : Mem β α} {x : α} {f : α → Mem β γ} {T : γ → Assert β} {y : γ}

theorem reads_pure (P : Assert β) (x : α) : Reads P (pure x) x := by
  intro l r _ _
  rfl

theorem reads_check {o : Option α} (h : o = some x) : Reads P (check o) x := by
  subst h
  exact reads_pure P x

theorem reads_load (a : Nat) (b : β) : Reads (points a b) (load a) b := by
  rintro l r - rfl
  simp only [load, singleton_union, Finmap.lookup_insert, Option.map_some]

theorem reads_frame (R : Assert β) (h : Reads P p x) : Reads (P * R) p x := by
  rintro l r hd ⟨m, n, hmn, rfl, hP, -⟩
  have hmr := ((Finmap.disjoint_union_left m n r).mp hd).1
  rw [Finmap.union_assoc]
  exact h m (n ∪ r) ((Finmap.disjoint_union_right m n r).mpr ⟨hmn, hmr⟩) hP

theorem reads_frame_left (R : Assert β) (h : Reads P p x) : Reads (R * P) p x := by
  rw [mul_comm]
  exact reads_frame R h

theorem triple_reads (hp : Reads P p x) (hf : Triple P (f x) T) : Triple P (p >>= f) T := by
  intro l r hd hP
  rw [run_bind (hp l r hd hP)]
  exact hf l r hd hP

theorem reads_bind (hp : Reads P p x) (hf : Reads P (f x) y) : Reads P (p >>= f) y := by
  intro l r hd hP
  rw [run_bind (hp l r hd hP)]
  exact hf l r hd hP

end Reads

theorem triple_frame_left {P : Assert β} {p : Mem β α} {Q : α → Assert β} (R : Assert β)
    (hp : Triple P p Q) : Triple (R * P) p (fun x => R * Q x) := by
  simp only [mul_comm R]
  exact triple_frame R hp

theorem triple_malloc_beside (A : Allocator β) (b : β) (R : Assert β) :
    Triple R (malloc A b) (fun a => R * points a b) := by
  have hframed := triple_frame_left R (triple_malloc A b)
  rwa [mul_one] at hframed

section Loops

variable {σ ι : Type}

theorem triple_forM {I : σ → Prop} {P : σ → Assert β} {f : ι → Mem β PUnit} {g : σ → ι → σ}
    (hI : ∀ s i, I s → I (g s i)) (hf : ∀ s i, I s → Triple (P s) (f i) (fun _ => P (g s i)))
    (xs : List ι) {s : σ} (hs : I s) : Triple (P s) (xs.forM f) (fun _ => P (xs.foldl g s)) := by
  induction xs generalizing s with
  | nil => exact triple_pure fun _ hP => hP
  | cons i xs ih => exact triple_bind (hf s i hs) (fun _ => ih (hI s i hs))

end Loops

theorem run_of_triple {P : Assert β} {p : Mem β α} {Q : α → Assert β} (hp : Triple P p Q)
    {h : Heap β} (hP : P ∅) : ∃ x l, p h = some (x, l ∪ h) ∧ l.Disjoint h ∧ Q x l := by
  have hrun := hp ∅ h (Finmap.disjoint_empty h) hP
  rwa [Finmap.empty_union] at hrun

-- a failed check is an invalid access, and no frame makes it valid
def Fails (P : Assert β) (p : Mem β α) : Prop :=
  ∀ l r, l.Disjoint r → P l → p (l ∪ r) = none

def Yields (P : Assert β) (p : Mem β α) : Option α → Assert β → Prop
  | some x, Q => Triple P p (fun y l => y = x ∧ Q l)
  | none, _ => Fails P p

section Yields

variable {P M Q : Assert β} {p : Mem β α} {x : α} {o : Option α} {f : α → Mem β γ}
  {o' : Option γ}

theorem yields_pure {x : α} (h : ∀ l, P l → Q l) : Yields P (pure x) (some x) Q :=
  triple_pure fun l hl => ⟨rfl, h l hl⟩

theorem fails_check : Fails P (check (none : Option α)) :=
  fun _ _ _ _ => rfl

theorem yields_reads (hp : Reads P p x) (hf : Yields P (f x) o' Q) : Yields P (p >>= f) o' Q := by
  cases o' with
  | some y => exact triple_reads hp hf
  | none =>
    intro l r hd hP
    rw [run_bind (hp l r hd hP)]
    exact hf l r hd hP

theorem yields_triple {T : α → Assert β} (hp : Triple P p T)
    (hf : ∀ x, Yields (T x) (f x) o' Q) : Yields P (p >>= f) o' Q := by
  cases o' with
  | some y => exact triple_bind hp hf
  | none =>
    intro l r hd hP
    obtain ⟨x, l', hrun, hd', hT⟩ := hp l r hd hP
    rw [run_bind hrun]
    exact hf x l' r hd' hT

theorem yields_seq (hp : Yields P p (some x) M) (hf : Yields M (f x) o' Q) :
    Yields P (p >>= f) o' Q := by
  have hstep : Triple P p (fun y l => y = x ∧ M l) := hp
  refine yields_triple hstep (fun y => ?_)
  cases o' with
  | some z =>
    rintro l r hd ⟨rfl, hM⟩
    exact hf l r hd hM
  | none =>
    rintro l r hd ⟨rfl, hM⟩
    exact hf l r hd hM

theorem yields_stop (hp : Fails P p) : Yields P (p >>= f) none Q := by
  intro l r hd hP
  have hfail : p (l ∪ r) = none := hp l r hd hP
  simp only [Bind.bind, StateT.bind, hfail, Option.bind_none]

theorem yields_frame (R : Assert β) (hp : Yields P p o Q) : Yields (P * R) p o (Q * R) := by
  cases o with
  | some x =>
    refine triple_consequence (triple_frame R hp) (fun _ hl => hl) ?_
    rintro y l ⟨m, n, hd, rfl, ⟨rfl, hQ⟩, hR⟩
    exact ⟨rfl, m, n, hd, rfl, hQ, hR⟩
  | none =>
    rintro l r hd ⟨m, n, hmn, rfl, hP, -⟩
    obtain ⟨hmr, hnr⟩ := (Finmap.disjoint_union_left m n r).mp hd
    rw [Finmap.union_assoc]
    exact hp m (n ∪ r) ((Finmap.disjoint_union_right m n r).mpr ⟨hmn, hmr⟩) hP

theorem yields_exists {δ : Type} {P : δ → Assert β} (h : ∀ d, Yields (P d) p o Q) :
    Yields (fun l => ∃ d, P d l) p o Q := by
  cases o with
  | some x =>
    rintro l r hd ⟨d, hP⟩
    exact h d l r hd hP
  | none =>
    rintro l r hd ⟨d, hP⟩
    exact h d l r hd hP

theorem yields_and {φ : Prop} (h : φ → Yields P p o Q) : Yields (fun l => φ ∧ P l) p o Q := by
  cases o with
  | some x =>
    rintro l r hd ⟨hφ, hP⟩
    exact h hφ l r hd hP
  | none =>
    rintro l r hd ⟨hφ, hP⟩
    exact h hφ l r hd hP

end Yields

def Blocks (n : Nat) : Assert β :=
  fun l => l.keys.card = n

theorem blocks_mul (m n : Nat) (l : Heap β) (h : (Blocks m * Blocks n : Assert β) l) :
    Blocks (m + n) l := by
  obtain ⟨a, b, hd, rfl, ha, hb⟩ := h
  have hkeys : Disjoint a.keys b.keys :=
    Finset.disjoint_left.mpr fun x hx hx' => hd x (Finmap.mem_keys.mp hx) (Finmap.mem_keys.mp hx')
  rw [Blocks, Finmap.keys_union, Finset.card_union_of_disjoint hkeys, ha, hb]

theorem beside_blocks_zero (P : Assert β) (l : Heap β) (h : P l) : (P * Blocks 0 : Assert β) l :=
  ⟨l, ∅, (Finmap.disjoint_empty l).symm, Finmap.union_empty.symm, h, rfl⟩

theorem blocks_of_points (a : Nat) (b : β) (l : Heap β) (h : points a b l) : Blocks 1 l := by
  rw [h, Blocks, Finmap.keys_singleton, Finset.card_singleton]

theorem beside_mono {P Q Q' : Assert β} (hQ : ∀ l, Q l → Q' l) (l : Heap β)
    (h : (P * Q : Assert β) l) : (P * Q' : Assert β) l := by
  obtain ⟨a, b, hd, rfl, hP, hb⟩ := h
  exact ⟨a, b, hd, rfl, hP, hQ b hb⟩

instance : Nonempty (Allocator β) := by
  have hfree (h : Heap β) : ∃ a, a ∉ h := by
    obtain ⟨a, ha⟩ := Infinite.exists_notMem_finset h.keys
    exact ⟨a, fun hmem => ha (Finmap.mem_keys.mpr hmem)⟩
  choose pick hpick using hfree
  exact ⟨⟨pick, hpick⟩⟩

end Separation
