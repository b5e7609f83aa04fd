import Mathlib.Data.List.TakeDrop

namespace Cells

variable {α : Type}

def grow (cells : List (Option α)) (n : Nat) : List (Option α) :=
  cells.take n ++ List.replicate (n - cells.length) none

def write (cells : List (Option α)) (i : Nat) (a : α) : Option (List (Option α)) :=
  if i < cells.length then some (cells.set i (some a)) else none

def Holds (cells : List (Option α)) (values : List α) : Prop :=
  cells.take values.length = values.map some

variable {cells cells' : List (Option α)} {values : List α} {a : α} {i n : Nat}

theorem holds_nil (cells : List (Option α)) : Holds cells [] := rfl

@[simp] theorem length_grow (cells : List (Option α)) (n : Nat) : (grow cells n).length = n := by
  simp only [grow, List.length_append, List.length_take, List.length_replicate]
  omega

theorem Holds.length_le (h : Holds cells values) : values.length ≤ cells.length := by
  have hlength := congrArg List.length h
  simp only [List.length_take, List.length_map] at hlength
  omega

theorem Holds.grow (h : Holds cells values) (hn : values.length ≤ n) :
    Holds (grow cells n) values := by
  have hkept : values.length ≤ (cells.take n).length := by
    rw [List.length_take]
    exact Nat.le_min.mpr ⟨hn, h.length_le⟩
  rw [Holds, Cells.grow, List.take_append_of_le_length hkept, List.take_take, Nat.min_eq_left hn]
  exact h

theorem write_isSome_iff : (write cells i a).isSome ↔ i < cells.length := by
  unfold write
  split <;> simp [*]

theorem length_write (h : write cells i a = some cells') : cells'.length = cells.length := by
  unfold write at h
  split at h
  · obtain rfl := Option.some.inj h
    exact List.length_set
  · cases h

theorem Holds.write (h : Holds cells values) (hw : write cells values.length a = some cells') :
    Holds cells' (values ++ [a]) := by
  unfold Cells.write at hw
  split at hw
  · next hlt =>
    obtain rfl := Option.some.inj hw
    have hself : (cells.set values.length (some a))[values.length]? = some (some a) :=
      List.getElem?_set_self hlt
    rw [Holds, List.length_append, List.length_singleton, List.take_add_one, hself,
      List.take_set_of_le (Nat.le_refl _), h]
    simp
  · cases hw

end Cells
