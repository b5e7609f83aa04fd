import Mathlib.Data.List.Perm.Basic

namespace Selection

variable {α : Type} (rank : α → Nat)

def Least (l : List α) (a : α) : Prop :=
  a ∈ l ∧ ∀ b ∈ l, rank a ≤ rank b

def InOrder (l : List α) : Prop :=
  l.Pairwise (fun a b => rank a ≤ rank b)

open Classical in
noncomputable def promote (sort : List α → List α) (a : α) (l : List α) : List α :=
  if Least rank l a then a :: sort (l.erase a) else sort l

variable {rank} {sort : List α → List α} {a : α} {l s : List α}

theorem least_of_head (hp : s.Perm l) (hs : InOrder rank s) (h : s.head? = some a) :
    Least rank l a := by
  cases s with
  | nil => cases h
  | cons b s =>
    cases h
    obtain ⟨hb, -⟩ := List.pairwise_cons.mp hs
    refine ⟨hp.mem_iff.mp (List.mem_cons_self ..), ?_⟩
    intro c hc
    rcases List.mem_cons.mp (hp.mem_iff.mpr hc) with rfl | hc
    · exact Nat.le_refl _
    · exact hb c hc

theorem promote_perm (hsort : ∀ l, (sort l).Perm l) (a : α) (l : List α) :
    (promote rank sort a l).Perm l := by
  classical
  unfold promote
  split
  · next h => exact ((hsort _).cons a).trans (List.perm_cons_erase h.1).symm
  · exact hsort l

theorem promote_inOrder (hsort : ∀ l, (sort l).Perm l) (hin : ∀ l, InOrder rank (sort l)) (a : α)
    (l : List α) : InOrder rank (promote rank sort a l) := by
  classical
  unfold promote
  split
  · next h =>
    refine List.pairwise_cons.mpr ⟨?_, hin _⟩
    intro b hb
    exact h.2 b (List.mem_of_mem_erase ((hsort _).mem_iff.mp hb))
  · exact hin l

theorem promote_head (h : Least rank l a) : (promote rank sort a l).head? = some a := by
  rw [promote, if_pos h]
  rfl

end Selection
