import Mathlib.Algebra.Order.Group.Int
import Mathlib.Algebra.BigOperators.Group.List.Basic
import Mathlib.Algebra.Order.BigOperators.Group.List
import Mathlib.Algebra.Ring.Int.Defs
import Mathlib.Data.List.Pairwise

namespace KeyedTable

structure Table (α : Type) (key : α → Int) where
  rows : List α
  seq : Int
  seq_nonneg : 0 ≤ seq
  ordered : rows.Pairwise (fun a b => key a < key b)
  positive : ∀ r ∈ rows, 0 < key r
  bounded : ∀ r ∈ rows, key r ≤ seq

variable {α : Type} {key : α → Int}

def empty : Table α key where
  rows := []
  seq := 0
  seq_nonneg := le_refl 0
  ordered := .nil
  positive := by simp
  bounded := by simp

namespace Table

def find (t : Table α key) (k : Int) : Option α :=
  t.rows.find? (fun r => key r = k)

def insert (t : Table α key) (mk : Int → α) (hk : ∀ k, key (mk k) = k) : Table α key where
  rows := t.rows ++ [mk (t.seq + 1)]
  seq := t.seq + 1
  seq_nonneg := by have := t.seq_nonneg; omega
  ordered := by
    refine List.pairwise_append.mpr ⟨t.ordered, List.pairwise_singleton _ _, ?_⟩
    intro a ha b hb
    have hle := t.bounded a ha
    rw [List.mem_singleton.mp hb, hk]
    omega
  positive := by
    intro r hr
    rcases List.mem_append.mp hr with hr | hr
    · exact t.positive r hr
    · have := t.seq_nonneg
      rw [List.mem_singleton.mp hr, hk]
      omega
  bounded := by
    intro r hr
    rcases List.mem_append.mp hr with hr | hr
    · have := t.bounded r hr
      omega
    · rw [List.mem_singleton.mp hr, hk]

def erase (t : Table α key) (k : Int) : Table α key where
  rows := t.rows.filter (fun r => key r ≠ k)
  seq := t.seq
  seq_nonneg := t.seq_nonneg
  ordered := t.ordered.filter _
  positive r hr := t.positive r (List.mem_of_mem_filter hr)
  bounded r hr := t.bounded r (List.mem_of_mem_filter hr)

def modify (t : Table α key) (k : Int) (g : α → α) (hg : ∀ r, key (g r) = key r) :
    Table α key where
  rows := t.rows.map (fun r => if key r = k then g r else r)
  seq := t.seq
  seq_nonneg := t.seq_nonneg
  ordered := by
    refine List.pairwise_map.mpr (t.ordered.imp ?_)
    intro a b hab
    split <;> split <;> simpa [hg] using hab
  positive := by
    intro r hr
    obtain ⟨s, hs, rfl⟩ := List.mem_map.mp hr
    have := t.positive s hs
    split <;> simpa [hg] using this
  bounded := by
    intro r hr
    obtain ⟨s, hs, rfl⟩ := List.mem_map.mp hr
    have := t.bounded s hs
    split <;> simpa [hg] using this

def total (t : Table α key) (f : α → Int) : Int :=
  (t.rows.map f).sum

theorem key_injective {t : Table α key} {r s : α} (hr : r ∈ t.rows) (hs : s ∈ t.rows)
    (hk : key r = key s) : r = s := by
  by_contra hne
  have hp : t.rows.Pairwise (fun a b => key a ≠ key b) := t.ordered.imp (fun h => ne_of_lt h)
  have : Std.Symm (fun a b : α => key a ≠ key b) := ⟨fun _ _ h => h.symm⟩
  exact hp.forall hr hs hne hk

theorem find_eq_some {t : Table α key} {k : Int} {r : α} :
    t.find k = some r ↔ r ∈ t.rows ∧ key r = k := by
  constructor
  · intro h
    exact ⟨List.mem_of_find?_eq_some h, by simpa using List.find?_some h⟩
  · rintro ⟨hr, hk⟩
    cases hf : t.find k with
    | none =>
      have := List.find?_eq_none.mp hf r hr
      simp [hk] at this
    | some s =>
      have hs := List.mem_of_find?_eq_some hf
      have hks : key s = k := by simpa using List.find?_some hf
      rw [key_injective hs hr (hks.trans hk.symm)]

theorem find_eq_none {t : Table α key} {k : Int} :
    t.find k = none ↔ ∀ r ∈ t.rows, key r ≠ k := by
  simp [find]

theorem find_of_mem {t : Table α key} {r : α} (hr : r ∈ t.rows) : t.find (key r) = some r :=
  find_eq_some.mpr ⟨hr, rfl⟩

theorem find_fresh (t : Table α key) {k : Int} (hk : t.seq < k) : t.find k = none := by
  refine find_eq_none.mpr (fun r hr => ?_)
  have := t.bounded r hr
  omega

section Insert

variable {mk : Int → α} {hk : ∀ k, key (mk k) = k}

@[simp] theorem rows_insert (t : Table α key) :
    (t.insert mk hk).rows = t.rows ++ [mk (t.seq + 1)] := rfl

theorem mem_insert {t : Table α key} {r : α} :
    r ∈ (t.insert mk hk).rows ↔ r ∈ t.rows ∨ r = mk (t.seq + 1) := by
  simp

theorem find_insert (t : Table α key) (k : Int) :
    (t.insert mk hk).find k = if k = t.seq + 1 then some (mk (t.seq + 1)) else t.find k := by
  split
  · next h =>
    exact find_eq_some.mpr ⟨mem_insert.mpr (.inr rfl), by rw [hk, h]⟩
  · next h =>
    have : ¬ key (mk (t.seq + 1)) = k := by rw [hk]; omega
    simp [find, List.find?_append, this]

@[simp] theorem total_insert (t : Table α key) (f : α → Int) :
    (t.insert mk hk).total f = t.total f + f (mk (t.seq + 1)) := by
  simp [total]

end Insert

section Erase

theorem mem_erase {t : Table α key} {k : Int} {r : α} :
    r ∈ (t.erase k).rows ↔ r ∈ t.rows ∧ key r ≠ k := by
  simp [erase]

theorem find_erase (t : Table α key) (k j : Int) :
    (t.erase k).find j = if j = k then none else t.find j := by
  split
  · next h => exact find_eq_none.mpr (fun r hr => h ▸ (mem_erase.mp hr).2)
  · next h =>
    refine Option.ext (fun r => ?_)
    rw [find_eq_some, find_eq_some, mem_erase]
    constructor
    · exact fun ⟨⟨hr, _⟩, hj⟩ => ⟨hr, hj⟩
    · exact fun ⟨hr, hj⟩ => ⟨⟨hr, hj ▸ h⟩, hj⟩

end Erase

section Modify

variable {k : Int} {g : α → α} {hg : ∀ r, key (g r) = key r}

theorem mem_modify {t : Table α key} {r : α} :
    r ∈ (t.modify k g hg).rows ↔ ∃ s ∈ t.rows, r = if key s = k then g s else s := by
  simp [modify, eq_comm]

theorem find_modify (t : Table α key) (j : Int) :
    (t.modify k g hg).find j = (t.find j).map (fun r => if j = k then g r else r) := by
  refine Option.ext (fun r => ?_)
  rw [find_eq_some, mem_modify, Option.map_eq_some_iff]
  constructor
  · rintro ⟨⟨s, hs, rfl⟩, hj⟩
    have hkey : key s = j := by split at hj <;> simpa [hg] using hj
    exact ⟨s, find_eq_some.mpr ⟨hs, hkey⟩, by simp [hkey]⟩
  · rintro ⟨s, hs, rfl⟩
    obtain ⟨hmem, rfl⟩ := find_eq_some.mp hs
    exact ⟨⟨s, hmem, rfl⟩, by split <;> simp [hg]⟩

@[simp] theorem find_isSome_modify (t : Table α key) (j : Int) :
    ((t.modify k g hg).find j).isSome = (t.find j).isSome := by
  simp [find_modify]

end Modify

theorem rows_split {t : Table α key} {k : Int} {r : α} (h : t.find k = some r) :
    ∃ pre post, t.rows = pre ++ r :: post ∧ (∀ s ∈ pre, key s ≠ k) ∧ (∀ s ∈ post, key s ≠ k) := by
  obtain ⟨hr, hk⟩ := find_eq_some.mp h
  obtain ⟨pre, post, hsplit⟩ := List.append_of_mem hr
  have hp := t.ordered
  rw [hsplit, List.pairwise_append, List.pairwise_cons] at hp
  obtain ⟨-, ⟨hpost, -⟩, hpre⟩ := hp
  refine ⟨pre, post, hsplit, fun s hs => ?_, fun s hs => ?_⟩
  · have := hpre s hs r (List.mem_cons_self ..)
    omega
  · have := hpost s hs
    omega

theorem total_nonneg {t : Table α key} {f : α → Int} (h : ∀ r ∈ t.rows, 0 ≤ f r) : 0 ≤ t.total f := by
  refine List.sum_nonneg (fun n hn => ?_)
  obtain ⟨r, hr, rfl⟩ := List.mem_map.mp hn
  exact h r hr

theorem le_total {t : Table α key} {f : α → Int} (h : ∀ r ∈ t.rows, 0 ≤ f r) {r : α}
    (hr : r ∈ t.rows) : f r ≤ t.total f := by
  refine List.single_le_sum (fun n hn => ?_) _ (List.mem_map_of_mem hr)
  obtain ⟨s, hs, rfl⟩ := List.mem_map.mp hn
  exact h s hs

theorem total_le_total {t : Table α key} {f g : α → Int} (h : ∀ r ∈ t.rows, f r ≤ g r) :
    t.total f ≤ t.total g :=
  List.sum_le_sum h

theorem total_congr {t : Table α key} {f g : α → Int} (h : ∀ r ∈ t.rows, f r = g r) :
    t.total f = t.total g :=
  congrArg List.sum (List.map_congr_left h)

theorem total_of_no_rows {t : Table α key} (f : α → Int) (h : t.rows = []) : t.total f = 0 := by
  simp [total, h]

theorem total_erase (t : Table α key) (f : α → Int) {k : Int} {r : α} (h : t.find k = some r) :
    (t.erase k).total f = t.total f - f r := by
  obtain ⟨pre, post, hsplit, hpre, hpost⟩ := rows_split h
  have hk : key r = k := (find_eq_some.mp h).2
  have hpre' : pre.filter (fun s => key s ≠ k) = pre :=
    List.filter_eq_self.mpr (by simpa using hpre)
  have hpost' : post.filter (fun s => key s ≠ k) = post :=
    List.filter_eq_self.mpr (by simpa using hpost)
  simp only [total, erase, hsplit, List.filter_append, List.filter_cons, hpre', hpost', hk]
  simp
  omega

theorem add_le_total {t : Table α key} {f : α → Int} (h : ∀ r ∈ t.rows, 0 ≤ f r) {r s : α}
    (hr : r ∈ t.rows) (hs : s ∈ t.rows) (hne : key s ≠ key r) : f r + f s ≤ t.total f := by
  have herase := total_erase t f (find_of_mem hr)
  have hle : f s ≤ (t.erase (key r)).total f :=
    le_total (fun s hs => h s (mem_erase.mp hs).1) (mem_erase.mpr ⟨hs, hne⟩)
  omega

theorem total_modify (t : Table α key) (f : α → Int) {k : Int} {r : α} {g : α → α}
    (hg : ∀ r, key (g r) = key r) (h : t.find k = some r) :
    (t.modify k g hg).total f = t.total f - f r + f (g r) := by
  obtain ⟨pre, post, hsplit, hpre, hpost⟩ := rows_split h
  have hk : key r = k := (find_eq_some.mp h).2
  have hmap (l : List α) (hl : ∀ s ∈ l, key s ≠ k) :
      (l.map (fun s => if key s = k then g s else s)).map f = l.map f := by
    rw [List.map_map]
    exact List.map_congr_left (fun s hs => by simp [hl s hs])
  simp only [total, modify, hsplit, List.map_append, List.map_cons, List.sum_append,
    List.sum_cons, hmap pre hpre, hmap post hpost, hk, if_true]
  omega

end Table

end KeyedTable
