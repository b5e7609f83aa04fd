import Marketplace.Server.CText

namespace Marketplace

inductive Slot where
  | uninitialised
  | null
  | string (s : CString)
deriving DecidableEq, Repr

structure StringArray where
  strings : List Slot
  size : Nat
  capacity : Nat
deriving DecidableEq, Repr

def INITIAL_TOKENS_CAPACITY : Nat := 4

def makeStringArray (capacity : Nat) : StringArray where
  strings := .null :: List.replicate capacity .uninitialised
  size := 0
  capacity := capacity

def realloc (strings : List Slot) (n : Nat) : List Slot :=
  strings.take n ++ List.replicate (n - strings.length) .uninitialised

def resize (array : StringArray) (capacity : Nat) : StringArray where
  strings := (realloc array.strings (capacity + 1)).set capacity .null
  size := if capacity < array.size then capacity else array.size
  capacity := capacity

def addString (array : StringArray) (string : CString) (size : Nat) : StringArray :=
  let array :=
    if array.size = array.capacity then
      resize array (if array.capacity ≠ 0 then array.capacity * 2 else 1)
    else array
  { array with
    strings := (array.strings.set array.size (.string (string.take size))).set (array.size + 1) .null
    size := array.size + 1 }

def tokenize : CString → CString → Nat → StringArray → StringArray
  | [], _, _, tokens => tokens
  | c :: rest, tokenStart, tokenSize, tokens =>
    if isspace c then
      if tokenSize ≠ 0 then tokenize rest tokenStart 0 (addString tokens tokenStart tokenSize)
      else tokenize rest tokenStart tokenSize tokens
    else tokenize rest (if tokenSize = 0 then c :: rest else tokenStart) (tokenSize + 1) tokens

def tokenizeLine (line : CString) : StringArray :=
  tokenize line line 0 (makeStringArray INITIAL_TOKENS_CAPACITY)

namespace StringArray

def get (array : StringArray) (i : Nat) : Option CString :=
  match array.strings[i]? with
  | some (.string s) => some s
  | _ => none

structure WellFormed (array : StringArray) : Prop where
  allocated : array.strings.length = array.capacity + 1
  bounded : array.size ≤ array.capacity
  filled : ∀ i < array.size, (array.get i).isSome
  sentinel : array.strings[array.size]? = some .null

variable {array : StringArray}

theorem get_congr {a b : StringArray} {i : Nat} (h : a.strings[i]? = b.strings[i]?) :
    a.get i = b.get i := by
  simp only [get, h]

theorem wellFormed_makeStringArray (capacity : Nat) : (makeStringArray capacity).WellFormed where
  allocated := by simp [makeStringArray]
  bounded := Nat.zero_le _
  filled i hi := absurd hi (Nat.not_lt_zero i)
  sentinel := rfl

theorem strings_resize {capacity i : Nat} (h : array.strings.length = array.capacity + 1)
    (hc : array.capacity < capacity) (hi : i ≤ array.capacity) :
    (resize array capacity).strings[i]? = array.strings[i]? := by
  have hne : capacity ≠ i := by omega
  have htake : array.strings.take (capacity + 1) = array.strings :=
    List.take_of_length_le (by omega)
  simp only [resize, realloc, List.getElem?_set_ne hne, htake]
  exact List.getElem?_append_left (by omega)

theorem size_resize {capacity : Nat} (hc : array.size < capacity) :
    (Marketplace.resize array capacity).size = array.size :=
  if_neg (by omega)

theorem WellFormed.resize (h : array.WellFormed) {capacity : Nat} (hc : array.capacity < capacity) :
    (resize array capacity).WellFormed := by
  have hsize := size_resize (h.bounded.trans_lt hc)
  refine ⟨?_, ?_, fun i hi => ?_, ?_⟩
  · simp only [Marketplace.resize, realloc, List.length_set, List.length_append, List.length_take,
      List.length_replicate, h.allocated]
    omega
  · rw [hsize]
    exact h.bounded.trans hc.le
  · rw [hsize] at hi
    rw [get_congr (strings_resize h.allocated hc (hi.le.trans h.bounded))]
    exact h.filled i hi
  · rw [hsize, strings_resize h.allocated hc h.bounded]
    exact h.sentinel

def push (array : StringArray) (s : CString) : StringArray :=
  { array with
    strings := (array.strings.set array.size (.string s)).set (array.size + 1) .null
    size := array.size + 1 }

theorem WellFormed.push (h : array.WellFormed) (hroom : array.size < array.capacity) (s : CString) :
    (array.push s).WellFormed := by
  have hlength : array.strings.length = array.capacity + 1 := h.allocated
  refine ⟨?_, hroom, fun i hi => ?_, ?_⟩
  · simp only [StringArray.push, List.length_set, hlength]
  · have hnull : array.size + 1 ≠ i := (Nat.ne_of_lt hi).symm
    have hstrings : (array.push s).strings[i]? = (array.strings.set array.size (.string s))[i]? :=
      List.getElem?_set_ne hnull
    rcases Nat.lt_succ_iff_lt_or_eq.mp hi with hlt | rfl
    · have hold : (array.push s).strings[i]? = array.strings[i]? := by
        rw [hstrings, List.getElem?_set_ne (Nat.ne_of_gt hlt)]
      rw [get_congr hold]
      exact h.filled i hlt
    · rw [List.getElem?_set_self (by omega)] at hstrings
      rw [get, hstrings]
      rfl
  · exact List.getElem?_set_self (by simp only [List.length_set]; omega)

theorem addString_eq (h : array.WellFormed) (string : CString) (size : Nat) :
    array.size < array.capacity ∧ addString array string size = array.push (string.take size) ∨
      ∃ capacity, array.size < capacity ∧ array.capacity < capacity ∧
        addString array string size = (Marketplace.resize array capacity).push (string.take size) := by
  by_cases hfull : array.size = array.capacity
  · set capacity := if array.capacity ≠ 0 then array.capacity * 2 else 1 with hcapacity
    have hgrow : array.capacity < capacity := by
      rw [hcapacity]
      split <;> omega
    refine .inr ⟨capacity, hfull ▸ hgrow, hgrow, ?_⟩
    rw [Marketplace.addString, if_pos hfull]
    rfl
  · refine .inl ⟨lt_of_le_of_ne h.bounded hfull, ?_⟩
    rw [Marketplace.addString, if_neg hfull]
    rfl

theorem WellFormed.addString (h : array.WellFormed) (string : CString) (size : Nat) :
    (addString array string size).WellFormed := by
  rcases addString_eq h string size with ⟨hroom, heq⟩ | ⟨capacity, hsize, hgrow, heq⟩
  · rw [heq]
    exact h.push hroom _
  · rw [heq]
    exact (h.resize hgrow).push (by rwa [size_resize hsize]) _

theorem wellFormed_tokenize (rest tokenStart : CString) (tokenSize : Nat) {tokens : StringArray}
    (h : tokens.WellFormed) : (tokenize rest tokenStart tokenSize tokens).WellFormed := by
  induction rest generalizing tokenStart tokenSize tokens with
  | nil => exact h
  | cons c rest ih =>
    simp only [tokenize]
    split
    · split
      · exact ih _ _ (h.addString _ _)
      · exact ih _ _ h
    · exact ih _ _ h

theorem wellFormed_tokenizeLine (line : CString) : (tokenizeLine line).WellFormed :=
  wellFormed_tokenize _ _ _ (wellFormed_makeStringArray _)

end StringArray

end Marketplace
