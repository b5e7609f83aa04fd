import Marketplace.Foundation.Separation
import Marketplace.Server.Words

namespace Marketplace.StringHeap
open Separation

inductive Pointer where
  | indeterminate
  | null
  | to (address : Nat)
deriving DecidableEq, Repr

structure Header where
  strings : Pointer
  size : Option Nat
  capacity : Option Nat
deriving DecidableEq, Repr

inductive Block where
  | array (header : Header)
  | pointers (slots : List Pointer)
  | chars (cells : List (Option Char))
  | order (fields : Option (Order Double))
deriving DecidableEq, Repr

def Pointer.target : Pointer → Option Nat
  | .to address => some address
  | _ => none

def Block.header : Block → Option Header
  | .array header => some header
  | _ => none

def Block.slots : Block → Option (List Pointer)
  | .pointers slots => some slots
  | _ => none

def Block.cells : Block → Option (List (Option Char))
  | .chars cells => some cells
  | _ => none

def Block.fields : Block → Option (Order Double)
  | .order fields => fields
  | _ => none

def assign {α : Type} (xs : List α) (i : Nat) (x : α) : Option (List α) :=
  if i < xs.length then some (xs.set i x) else none

section Fields

def header (array : Nat) : Mem Block Header := do
  check (← load array).header

def setStrings (array : Nat) (strings : Pointer) : Mem Block Unit := do
  let h ← header array
  store array (.array { h with strings })

def setSize (array size : Nat) : Mem Block Unit := do
  let h ← header array
  store array (.array { h with size := some size })

def setCapacity (array capacity : Nat) : Mem Block Unit := do
  let h ← header array
  store array (.array { h with capacity := some capacity })

def getStrings (array : Nat) : Mem Block Nat := do
  check (← header array).strings.target

def getSize (array : Nat) : Mem Block Nat := do
  check (← header array).size

def getCapacity (array : Nat) : Mem Block Nat := do
  check (← header array).capacity

def getSlot (array i : Nat) : Mem Block Pointer := do
  let strings ← getStrings array
  let slots ← check (← load strings).slots
  check slots[i]?

def setSlot (array i : Nat) (p : Pointer) : Mem Block Unit := do
  let strings ← getStrings array
  let slots ← check (← load strings).slots
  let slots ← check (assign slots i p)
  store strings (.pointers slots)

def setChar (array n i : Nat) (c : Char) : Mem Block Unit := do
  let string ← check (← getSlot array n).target
  let cells ← check (← load string).cells
  let cells ← check (assign cells i (some c))
  store string (.chars cells)

-- A reader that stops at the first NUL: it must find it before an unwritten cell or the end.
def cString : List (Option Char) → Option CString
  | [] => none
  | none :: _ => none
  | some c :: cells => if c = NUL then some [] else (cString cells).map (c :: ·)

def getString (array i : Nat) : Mem Block CString := do
  let string ← check (← getSlot array i).target
  let cells ← check (← load string).cells
  check (cString cells)

def freePointer : Pointer → Mem Block Unit
  | .indeterminate => check none
  | .null => pure ()
  | .to address => free address

end Fields

variable (A : Allocator Block)

def makeStringArray (capacity : Nat) : Mem Block Nat := do
  let array ← malloc A (.array ⟨.indeterminate, none, none⟩)
  setSize array 0
  setCapacity array capacity
  let strings ← malloc A (.pointers (List.replicate (capacity + 1) .indeterminate))
  setStrings array (.to strings)
  setSlot array 0 .null
  return array

def freeStrings (array : Nat) : Nat → Nat → Mem Block Unit
  | _, 0 => pure ()
  | i, n + 1 => do
    freePointer (← getSlot array i)
    freeStrings array (i + 1) n

def freeStringArray (array : Nat) : Mem Block Unit := do
  freeStrings array 0 (← getSize array)
  free (← getStrings array)
  free array

def reallocPointers (strings n : Nat) : Mem Block Nat := do
  let slots ← check (← load strings).slots
  free strings
  malloc A (.pointers (slots.take n ++ List.replicate (n - slots.length) .indeterminate))

def moveStrings (array capacity : Nat) : Mem Block Unit := do
  setCapacity array capacity
  let strings ← reallocPointers A (← getStrings array) (capacity + 1)
  setStrings array (.to strings)
  setSlot array capacity .null

def resize (array capacity : Nat) : Mem Block Unit := do
  let size ← getSize array
  if capacity < size then
    freeStrings array capacity (size - capacity)
    setSize array capacity
  moveStrings A array capacity

def copyChars (array n : Nat) : CString → Nat → Nat → Mem Block Unit
  | _, _, 0 => pure ()
  | [], i, _ + 1 => setChar array n i NUL
  | c :: string, i, k + 1 => do
    setChar array n i c
    if c = NUL then pure () else copyChars array n string (i + 1) k

def appendCopy (array : Nat) (string : CString) (size : Nat) : Mem Block Unit := do
  let copy ← malloc A (.chars (List.replicate (size + 1) none))
  let count ← getSize array
  setSlot array count (.to copy)
  copyChars array count string 0 size
  setChar array count size NUL
  setSize array (count + 1)
  setSlot array (count + 1) .null

def addString (array : Nat) (string : CString) (size : Nat) : Mem Block Unit := do
  let count ← getSize array
  let capacity ← getCapacity array
  if count = capacity then
    resize A array (if capacity ≠ 0 then capacity * 2 else 1)
  appendCopy A array string size

def tokenize (array : Nat) : CString → CString → Nat → Mem Block Unit
  | [], _, _ => pure ()
  | c :: rest, tokenStart, tokenSize => do
    if isspace c then
      if tokenSize ≠ 0 then
        addString A array tokenStart tokenSize
        tokenize array rest tokenStart 0
      else tokenize array rest tokenStart tokenSize
    else tokenize array rest (if tokenSize = 0 then c :: rest else tokenStart) (tokenSize + 1)

def tokenizeLine (line : CString) : Mem Block Nat := do
  let tokens ← makeStringArray A INITIAL_TOKENS_CAPACITY
  tokenize A tokens line line 0
  return tokens

section Access

variable {array strings string n i size capacity : Nat} {h : Header} {slots : List Pointer}
  {cells : List (Option Char)} {p : Pointer} {c : Char}

theorem reads_header : Reads (points array (.array h)) (header array) h :=
  reads_bind (reads_load array _) (reads_check rfl)

theorem reads_getSize (hs : h.size = some size) :
    Reads (points array (.array h)) (getSize array) size :=
  reads_bind reads_header (reads_check hs)

theorem reads_getCapacity (hc : h.capacity = some capacity) :
    Reads (points array (.array h)) (getCapacity array) capacity :=
  reads_bind reads_header (reads_check hc)

theorem reads_getStrings (hs : h.strings = .to strings) :
    Reads (points array (.array h)) (getStrings array) strings :=
  reads_bind reads_header (reads_check (by rw [hs]; rfl))

theorem triple_setStrings : Triple (points array (.array h)) (setStrings array p)
    (fun _ => points array (.array { h with strings := p })) :=
  triple_reads reads_header (triple_store _ _ _)

theorem triple_setSize : Triple (points array (.array h)) (setSize array size)
    (fun _ => points array (.array { h with size := some size })) :=
  triple_reads reads_header (triple_store _ _ _)

theorem triple_setCapacity : Triple (points array (.array h)) (setCapacity array capacity)
    (fun _ => points array (.array { h with capacity := some capacity })) :=
  triple_reads reads_header (triple_store _ _ _)

def pointersOf (array : Nat) (h : Header) (strings : Nat) (slots : List Pointer) : Assert Block :=
  points array (.array h) * points strings (.pointers slots)

theorem reads_getSlot (hs : h.strings = .to strings) (hp : slots[i]? = some p) :
    Reads (pointersOf array h strings slots) (getSlot array i) p := by
  apply reads_bind (reads_frame _ (reads_getStrings hs))
  apply reads_bind (reads_frame_left _ (reads_load strings _))
  exact reads_bind (reads_check rfl) (reads_check hp)

theorem triple_setSlot (hs : h.strings = .to strings) (hi : i < slots.length) :
    Triple (pointersOf array h strings slots) (setSlot array i p)
      (fun _ => pointersOf array h strings (slots.set i p)) := by
  apply triple_reads (reads_frame _ (reads_getStrings hs))
  apply triple_reads (reads_frame_left _ (reads_load strings _))
  apply triple_reads (reads_check rfl)
  apply triple_reads (reads_check (if_pos hi))
  exact triple_frame_left _ (triple_store _ _ _)

theorem triple_setChar (hs : h.strings = .to strings) (hp : slots[n]? = some (.to string))
    (hi : i < cells.length) :
    Triple (pointersOf array h strings slots * points string (.chars cells)) (setChar array n i c)
      (fun _ => pointersOf array h strings slots * points string (.chars (cells.set i (some c)))) := by
  apply triple_reads (reads_frame _ (reads_getSlot hs hp))
  apply triple_reads (reads_check rfl)
  apply triple_reads (reads_frame_left _ (reads_load string _))
  apply triple_reads (reads_check rfl)
  apply triple_reads (reads_check (if_pos hi))
  exact triple_frame_left _ (triple_store _ _ _)

end Access

section Copy

def filled : CString → Nat → Nat → List (Option Char) → List (Option Char)
  | _, _, 0, cells => cells
  | [], i, _ + 1, cells => cells.set i (some NUL)
  | c :: string, i, k + 1, cells =>
    if c = NUL then cells.set i (some c) else filled string (i + 1) k (cells.set i (some c))

theorem filled_copied (string : CString) (k : Nat) (written : List (Option Char)) :
    filled string written.length k (written ++ List.replicate (k + 1) none) =
      written ++ ((copied string k).map some ++
        List.replicate (k + 1 - (copied string k).length) none) := by
  induction k generalizing string written with
  | zero => cases string <;> rfl
  | succ k ih =>
    have hset (c : Char) : (written ++ List.replicate (k + 2) none).set written.length (some c) =
        written ++ some c :: List.replicate (k + 1) none := by
      rw [List.set_append_right _ _ (Nat.le_refl _), Nat.sub_self]
      rfl
    cases string with
    | nil => rw [filled, hset]; simp [copied]
    | cons c string =>
      rw [filled, hset, copied]
      split
      · simp
      · have hwritten := ih string (written ++ [some c])
        rw [List.length_append, List.length_singleton, List.append_assoc,
          List.singleton_append] at hwritten
        rw [hwritten]
        simp [Nat.add_sub_add_right]

theorem filled_set (string : CString) (size : Nat) :
    (filled string 0 size (List.replicate (size + 1) none)).set size (some NUL) =
      tokenBuffer string size := by
  have hfilled := filled_copied string size []
  simp only [List.length_nil, List.nil_append] at hfilled
  rw [hfilled, tokenBuffer]

theorem copied_of_short {string : CString} {size : Nat} (hshort : string.length < size) :
    NUL ∉ string → copied string size = string ++ [NUL] := by
  induction size generalizing string with
  | zero => omega
  | succ size ih =>
    intro hnul
    cases string with
    | nil => rfl
    | cons c string =>
      obtain ⟨hc, hrest⟩ := not_or.mp (fun h => hnul (List.mem_cons.mpr h))
      rw [copied, if_neg (Ne.symm hc), ih (Nat.lt_of_succ_lt_succ hshort) hrest]
      rfl

theorem cString_prefix {string : CString} (hnul : NUL ∉ string) (tail : List (Option Char)) :
    cString (string.map some ++ some NUL :: tail) = some string := by
  induction string with
  | nil => exact if_pos rfl
  | cons c string ih =>
    obtain ⟨hc, hrest⟩ := not_or.mp (fun h => hnul (List.mem_cons.mpr h))
    have htail := ih hrest
    rw [List.map_cons, List.cons_append, cString, if_neg (Ne.symm hc), htail]
    rfl

theorem tokenBuffer_prefix {string : CString} (hnul : NUL ∉ string) (size : Nat) :
    (string.take size).map some ++ [some NUL] <+: tokenBuffer string size := by
  rcases Nat.lt_or_ge string.length size with hshort | hfits
  · have hlength : ((string ++ [NUL]).map some).length ≤ size := by
      rw [List.length_map, List.length_append, List.length_singleton]
      exact hshort
    rw [tokenBuffer, copied_of_short hshort hnul, List.set_append_right _ _ hlength,
      List.take_of_length_le hshort.le, List.map_append]
    exact List.prefix_append _ _
  · rw [tokenBuffer_of_fits hfits hnul]

theorem cString_tokenBuffer {string : CString} (hnul : NUL ∉ string) (size : Nat) :
    cString (tokenBuffer string size) = some (string.take size) := by
  obtain ⟨tail, htail⟩ := tokenBuffer_prefix hnul size
  rw [← htail, List.append_assoc]
  exact cString_prefix (fun h => hnul (List.mem_of_mem_take h)) tail

variable {array strings copy n i k : Nat} {h : Header} {slots : List Pointer}
  {cells : List (Option Char)}

theorem length_filled (string : CString) (i k : Nat) (cells : List (Option Char)) :
    (filled string i k cells).length = cells.length := by
  induction k generalizing string i cells with
  | zero => cases string <;> rfl
  | succ k ih =>
    cases string with
    | nil => exact List.length_set
    | cons c string =>
      rw [filled]
      split
      · exact List.length_set
      · rw [ih, List.length_set]

theorem triple_copyChars (hs : h.strings = .to strings) (hp : slots[n]? = some (.to copy))
    (string : CString) (hk : i + k ≤ cells.length) :
    Triple (pointersOf array h strings slots * points copy (.chars cells))
      (copyChars array n string i k)
      (fun _ => pointersOf array h strings slots * points copy (.chars (filled string i k cells))) := by
  induction k generalizing string i cells with
  | zero => cases string <;> exact triple_pure fun _ hl => hl
  | succ k ih =>
    cases string with
    | nil => exact triple_setChar hs hp (by omega)
    | cons c string =>
      have hwrite : Triple _ (setChar array n i c) _ :=
        triple_setChar hs hp (show i < cells.length by omega)
      rw [copyChars, filled]
      apply triple_seq hwrite
      split
      · exact triple_pure fun _ hl => hl
      · exact ih string (by rw [List.length_set]; omega)

end Copy

def stored (tokens : List (Nat × List (Option Char))) : Assert Block :=
  (tokens.map fun t => points t.1 (.chars t.2)).prod

theorem stored_nil : stored [] = 1 := rfl

theorem stored_append (tokens tokens' : List (Nat × List (Option Char))) :
    stored (tokens ++ tokens') = stored tokens * stored tokens' := by
  rw [stored, List.map_append, List.prod_append]
  rfl

theorem stored_cons (t : Nat × List (Option Char)) (tokens : List (Nat × List (Option Char))) :
    stored (t :: tokens) = points t.1 (.chars t.2) * stored tokens := by
  rw [stored, List.map_cons, List.prod_cons]
  rfl

def pointed (tokens : List (Nat × List (Option Char))) : List Pointer :=
  tokens.map fun t => .to t.1

theorem pointed_append (tokens tokens' : List (Nat × List (Option Char))) :
    pointed (tokens ++ tokens') = pointed tokens ++ pointed tokens' :=
  List.map_append

section Release

variable {array strings i : Nat} {h : Header} {slots tail : List Pointer}

theorem triple_freePointer (a : Nat) (b : Block) :
    Triple (points a b) (freePointer (.to a)) (fun _ => 1) :=
  triple_free a b

theorem triple_freeStrings (array : Nat) (hs : h.strings = .to strings)
    (tokens : List (Nat × List (Option Char)))
    (hslots : slots.drop i = pointed tokens ++ tail) :
    Triple (pointersOf array h strings slots * stored tokens)
      (freeStrings array i tokens.length) (fun _ => pointersOf array h strings slots) := by
  induction tokens generalizing i with
  | nil =>
    rw [stored_nil, mul_one]
    exact triple_pure fun _ hl => hl
  | cons t tokens ih =>
    have hhead : slots[i]? = some (.to t.1) := by
      have hfirst := congrArg List.head? hslots
      rwa [List.head?_drop] at hfirst
    have htail : slots.drop (i + 1) = pointed tokens ++ tail := by
      have hrest := congrArg List.tail hslots
      rwa [List.tail_drop] at hrest
    rw [stored_cons, ← mul_assoc]
    apply triple_reads (reads_frame _ (reads_frame _ (reads_getSlot hs hhead)))
    apply triple_seq (triple_frame _ (triple_frame_left _ (triple_freePointer _ _)))
    rw [mul_one]
    exact ih htail

end Release

section Resized

variable {a : StringArray} {capacity i : Nat}

theorem size_resize (a : StringArray) (capacity : Nat) :
    (Marketplace.resize a capacity).size = min capacity a.size := by
  simp only [Marketplace.resize]
  split <;> omega

theorem getElem_resize (hi : i < capacity) (ha : i < a.strings.length) :
    (Marketplace.resize a capacity).strings[i]? = a.strings[i]? := by
  have htake : i < (a.strings.take (capacity + 1)).length := by
    rw [List.length_take]
    omega
  simp only [Marketplace.resize, realloc]
  rw [List.getElem?_set_ne (by omega), List.getElem?_append_left htake,
    List.getElem?_take_of_lt (by omega)]

theorem wellFormed_resize (h : a.WellFormed) (capacity : Nat) :
    (Marketplace.resize a capacity).WellFormed := by
  have hlength := h.allocated
  have hbound := h.bounded
  have hsize := size_resize a capacity
  have hallocated : (Marketplace.resize a capacity).strings.length = capacity + 1 := by
    simp only [Marketplace.resize, realloc, List.length_set, List.length_append, List.length_take,
      List.length_replicate]
    omega
  refine ⟨hallocated, by rw [hsize]; exact Nat.min_le_left _ _, fun i hi => ?_, ?_⟩
  · rw [hsize] at hi
    rw [StringArray.get_congr (getElem_resize (by omega) (by omega))]
    exact h.filled i (by omega)
  · rw [hsize]
    rcases Nat.lt_or_ge a.size capacity with hlt | hge
    · rw [Nat.min_eq_right hlt.le, getElem_resize hlt (by omega)]
      exact h.sentinel
    · rw [Nat.min_eq_left hge]
      apply List.getElem?_set_self
      simp only [realloc, List.length_append, List.length_take, List.length_replicate]
      omega

theorem take_resize (h : a.WellFormed) (capacity : Nat) :
    (Marketplace.resize a capacity).strings.take (Marketplace.resize a capacity).size =
      (a.strings.take a.size).take capacity := by
  have hlength := h.allocated
  have hbound := h.bounded
  rw [size_resize, List.take_take]
  refine List.ext_getElem? (fun i => ?_)
  simp only [List.getElem?_take]
  split
  · next hi => exact getElem_resize (by omega) (by omega)
  · rfl

end Resized

structure Layout where
  strings : Nat
  tokens : List (Nat × List (Option Char))
  rest : List Pointer

namespace Layout

def header (w : Layout) (capacity : Nat) : Header where
  strings := .to w.strings
  size := some w.tokens.length
  capacity := some capacity

def slots (w : Layout) : List Pointer :=
  pointed w.tokens ++ .null :: w.rest

def owned (w : Layout) (array capacity : Nat) : Assert Block :=
  pointersOf array (w.header capacity) w.strings w.slots * stored w.tokens

structure Spells (w : Layout) (a : StringArray) : Prop where
  formed : a.WellFormed
  allocated : w.slots.length = a.capacity + 1
  tokens : List.Forall₂ (fun t slot => ∃ s, slot = .string s ∧ cString t.2 = some s)
    w.tokens (a.strings.take a.size)

variable {w : Layout} {a : StringArray}

theorem Spells.length (h : w.Spells a) : w.tokens.length = a.size := by
  have hbound := h.formed.bounded
  have hlength := h.formed.allocated
  rw [h.tokens.length_eq, List.length_take]
  omega

end Layout

def Held (array : Nat) (a : StringArray) : Assert Block :=
  fun l => ∃ w : Layout, w.Spells a ∧ w.owned array a.capacity l

section Operations

variable {A : Allocator Block} {array : Nat} {a : StringArray}

theorem triple_held {α : Type} {p : Mem Block α} {Q : α → Assert Block}
    (h : ∀ w : Layout, w.Spells a → Triple (w.owned array a.capacity) p Q) :
    Triple (Held array a) p Q := by
  rintro l r hd ⟨w, hw, hl⟩
  exact h w hw l r hd hl

theorem reads_held {α : Type} {p : Mem Block α} {x : α}
    (h : ∀ w : Layout, w.Spells a → Reads (w.owned array a.capacity) p x) :
    Reads (Held array a) p x := by
  rintro l r hd ⟨w, hw, hl⟩
  exact h w hw l r hd hl

theorem reads_size : Reads (Held array a) (getSize array) a.size := by
  apply reads_held
  intro w hw
  rw [← hw.length]
  exact reads_frame _ (reads_frame _ (reads_getSize rfl))

theorem reads_capacity : Reads (Held array a) (getCapacity array) a.capacity :=
  reads_held fun _ _ => reads_frame _ (reads_frame _ (reads_getCapacity rfl))

theorem reads_sentinel : Reads (Held array a) (getSlot array a.size) .null := by
  refine reads_held (fun w hw => reads_frame _ (reads_getSlot rfl ?_))
  have hkept : (pointed w.tokens).length = a.size := (List.length_map _).trans hw.length
  rw [Layout.slots, List.getElem?_append_right hkept.le, hkept, Nat.sub_self]
  rfl

theorem reads_string {i : Nat} {s : CString} (hi : i < a.size)
    (hs : a.strings[i]? = some (.string s)) : Reads (Held array a) (getString array i) s := by
  apply reads_held
  intro w hw
  have hlt : i < w.tokens.length := by rwa [hw.length]
  have hlt' : i < (a.strings.take a.size).length := by rwa [← hw.tokens.length_eq]
  have htext : cString w.tokens[i].2 = some s := by
    obtain ⟨s', hslot, htext⟩ := (List.forall₂_iff_get.mp hw.tokens).2 i hlt hlt'
    rw [List.get_eq_getElem, List.getElem_take, (List.getElem?_eq_some_iff.mp hs).2] at hslot
    cases hslot
    exact htext
  have hslot : w.slots[i]? = some (.to w.tokens[i].1) := by
    rw [Layout.slots, List.getElem?_append_left (by rwa [pointed, List.length_map]), pointed,
      List.getElem?_map, List.getElem?_eq_getElem hlt]
    rfl
  have hstored : stored w.tokens = points w.tokens[i].1 (.chars w.tokens[i].2) *
      (stored (w.tokens.take i) * stored (w.tokens.drop (i + 1))) := by
    rw [mul_left_comm, ← stored_cons, ← stored_append, List.cons_getElem_drop_succ,
      List.take_append_drop]
  rw [Layout.owned, hstored]
  apply reads_bind (reads_frame _ (reads_getSlot rfl hslot))
  apply reads_bind (reads_check rfl)
  apply reads_bind (reads_frame_left _ (reads_frame _ (reads_load _ _)))
  exact reads_bind (reads_check rfl) (reads_check htext)

theorem triple_makeStringArray (A : Allocator Block) (capacity : Nat) :
    Triple 1 (makeStringArray A capacity)
      (fun array => Held array (Marketplace.makeStringArray capacity)) := by
  apply triple_bind (triple_malloc A _)
  intro array
  apply triple_seq triple_setSize
  apply triple_seq triple_setCapacity
  apply triple_bind (triple_malloc_beside A _ _)
  intro strings
  apply triple_seq (triple_frame _ triple_setStrings)
  apply triple_seq (triple_setSlot rfl (by simp))
  refine triple_pure (fun l hl => ?_)
  refine ⟨⟨strings, [], List.replicate capacity .indeterminate⟩, ?_, ?_⟩
  · refine ⟨StringArray.wellFormed_makeStringArray capacity, ?_, .nil⟩
    simp [Layout.slots, pointed, Marketplace.makeStringArray]
  · rw [Layout.owned, stored_nil, mul_one]
    exact hl

theorem triple_freeStringArray :
    Triple (Held array a) (freeStringArray array) (fun _ => 1) := by
  apply triple_held
  intro w _
  apply triple_reads (reads_frame _ (reads_frame _ (reads_getSize rfl)))
  apply triple_seq (triple_freeStrings array rfl w.tokens rfl)
  apply triple_reads (reads_frame _ (reads_getStrings rfl))
  apply triple_seq (triple_frame_left _ (triple_free _ _))
  rw [mul_one]
  exact triple_free _ _

theorem triple_reallocPointers (A : Allocator Block) (strings n : Nat) (slots : List Pointer) :
    Triple (points strings (.pointers slots)) (reallocPointers A strings n) (fun strings' =>
      points strings'
        (.pointers (slots.take n ++ List.replicate (n - slots.length) Pointer.indeterminate))) := by
  apply triple_reads (reads_load strings _)
  apply triple_reads (reads_check rfl)
  apply triple_seq (triple_free _ _)
  exact triple_malloc A _

def movedSlots (slots : List Pointer) (capacity : Nat) : List Pointer :=
  (slots.take (capacity + 1) ++
    List.replicate (capacity + 1 - slots.length) Pointer.indeterminate).set capacity .null

theorem triple_moveStrings {h : Header} {strings : Nat} (hs : h.strings = .to strings)
    (slots : List Pointer) (capacity : Nat) :
    Triple (pointersOf array h strings slots) (moveStrings A array capacity)
      (fun _ l => ∃ strings', pointersOf array
        { h with strings := .to strings', capacity := some capacity } strings'
        (movedSlots slots capacity) l) := by
  have hs' : { h with capacity := some capacity }.strings = .to strings := hs
  apply triple_seq (triple_frame _ triple_setCapacity)
  apply triple_reads (reads_frame _ (reads_getStrings hs'))
  refine triple_bind (triple_frame_left _ (triple_reallocPointers A _ _ _)) (fun strings' => ?_)
  apply triple_seq (triple_frame _ triple_setStrings)
  refine triple_consequence (triple_setSlot rfl ?_) (fun _ hl => hl) (fun _ l hl => ⟨strings', hl⟩)
  simp only [List.length_append, List.length_take, List.length_replicate]
  omega

theorem movedSlots_eq {tokens : List (Nat × List (Option Char))} {p : Pointer}
    (rest : List Pointer) {capacity : Nat} (hfit : tokens.length ≤ capacity)
    (hp : p = .null ∨ tokens.length = capacity) :
    ∃ rest', movedSlots (pointed tokens ++ p :: rest) capacity = pointed tokens ++ .null :: rest' ∧
      (movedSlots (pointed tokens ++ p :: rest) capacity).length = capacity + 1 := by
  have hkept : (pointed tokens).length = tokens.length := List.length_map _
  obtain ⟨room, hroom⟩ := Nat.exists_eq_add_of_le hfit
  have htake : (pointed tokens ++ p :: rest).take (capacity + 1) =
      pointed tokens ++ p :: rest.take room := by
    rw [List.take_append, List.take_of_length_le (by omega), hkept, hroom,
      show tokens.length + room + 1 - tokens.length = room + 1 by omega, List.take_succ_cons]
  have hset (tail : List Pointer) : (pointed tokens ++ p :: tail).set capacity .null =
      pointed tokens ++ (p :: tail).set room .null := by
    rw [List.set_append_right _ _ (by omega), hkept, hroom, Nat.add_sub_cancel_left]
  have hlength : (movedSlots (pointed tokens ++ p :: rest) capacity).length = capacity + 1 := by
    simp only [movedSlots, List.length_set, List.length_append, List.length_take,
      List.length_replicate]
    omega
  rw [movedSlots, htake, List.append_assoc, List.cons_append, hset] at hlength ⊢
  cases room with
  | zero => exact ⟨_, rfl, hlength⟩
  | succ room =>
    obtain rfl : p = .null := hp.resolve_right (by omega)
    exact ⟨_, rfl, hlength⟩

theorem spells_resize {w : Layout} (hw : w.Spells a) (capacity : Nat) {strings : Nat}
    {rest : List Pointer}
    (hlength : (pointed (w.tokens.take capacity) ++ .null :: rest).length = capacity + 1) :
    (⟨strings, w.tokens.take capacity, rest⟩ : Layout).Spells (Marketplace.resize a capacity) := by
  refine ⟨wellFormed_resize hw.formed capacity, hlength, ?_⟩
  rw [take_resize hw.formed]
  exact List.forall₂_take capacity hw.tokens

theorem triple_moveKept (array : Nat) {w : Layout} (hw : w.Spells a) (capacity : Nat) {h : Header}
    (hs : h.strings = .to w.strings) (hsize : h.size = some (w.tokens.take capacity).length) :
    Triple (pointersOf array h w.strings w.slots * stored (w.tokens.take capacity))
      (moveStrings A array capacity) (fun _ => Held array (Marketplace.resize a capacity)) := by
  have hkept : ∃ p tail, w.slots = pointed (w.tokens.take capacity) ++ p :: tail ∧
      (p = .null ∨ (w.tokens.take capacity).length = capacity) := by
    cases hdrop : w.tokens.drop capacity with
    | nil =>
      have hall : w.tokens.take capacity = w.tokens :=
        List.take_of_length_le (List.drop_eq_nil_iff.mp hdrop)
      exact ⟨.null, w.rest, by rw [hall]; rfl, .inl rfl⟩
    | cons t tokens =>
      have hlt : capacity < w.tokens.length := by
        by_contra hge
        rw [List.drop_eq_nil_iff.mpr (not_lt.mp hge)] at hdrop
        cases hdrop
      refine ⟨.to t.1, pointed tokens ++ .null :: w.rest, ?_, .inr (List.length_take_of_le hlt.le)⟩
      have hsplit := List.take_append_drop capacity w.tokens
      rw [hdrop] at hsplit
      calc w.slots = pointed (w.tokens.take capacity ++ t :: tokens) ++ .null :: w.rest := by
            rw [hsplit]
            rfl
        _ = _ := by
          rw [pointed_append, List.append_assoc]
          rfl
  obtain ⟨p, tail, hslots, hp⟩ := hkept
  have hfit : (w.tokens.take capacity).length ≤ capacity := by
    rw [List.length_take]
    exact Nat.min_le_left _ _
  obtain ⟨rest, hmoved, hlength⟩ := movedSlots_eq tail hfit hp
  refine triple_consequence (triple_frame _ (triple_moveStrings hs w.slots capacity))
    (fun _ hl => hl) ?_
  rintro - l ⟨m, n, hd, rfl, ⟨strings, hm⟩, hn⟩
  rw [hmoved] at hlength
  refine ⟨⟨strings, w.tokens.take capacity, rest⟩, spells_resize hw capacity hlength, ?_⟩
  refine ⟨m, n, hd, rfl, ?_, hn⟩
  rw [hslots, hmoved] at hm
  obtain ⟨s, n, c⟩ := h
  simp only at hsize
  subst hsize
  exact hm

theorem triple_resize (capacity : Nat) :
    Triple (Held array a) (resize A array capacity)
      (fun _ => Held array (Marketplace.resize a capacity)) := by
  apply triple_held
  intro w hw
  apply triple_reads (reads_frame _ (reads_frame _ (reads_getSize rfl)))
  split
  · next hlt =>
    have hsplit := List.take_append_drop capacity w.tokens
    have hdrop : w.slots.drop capacity = pointed (w.tokens.drop capacity) ++ .null :: w.rest := by
      rw [Layout.slots, List.drop_append_of_le_length (by simpa [pointed] using hlt.le), pointed,
        pointed, List.map_drop]
    have howned : pointersOf array (w.header a.capacity) w.strings w.slots * stored w.tokens =
        pointersOf array (w.header a.capacity) w.strings w.slots * stored (w.tokens.drop capacity) *
          stored (w.tokens.take capacity) := by
      rw [← congrArg stored hsplit, stored_append, mul_assoc,
        mul_comm (stored (w.tokens.drop capacity))]
    have hfree := triple_freeStrings array (h := w.header a.capacity) rfl
      (w.tokens.drop capacity) hdrop
    rw [List.length_drop] at hfree
    change Triple (pointersOf array (w.header a.capacity) w.strings w.slots * stored w.tokens) _ _
    rw [howned]
    apply triple_seq (triple_frame _ hfree)
    apply triple_seq (triple_frame _ (triple_frame _ triple_setSize))
    exact triple_moveKept array hw capacity rfl (congrArg some (List.length_take_of_le hlt.le).symm)
  · next hge =>
    have hall : w.tokens.take capacity = w.tokens := List.take_of_length_le (by omega)
    have hmove := triple_moveKept (A := A) array hw capacity
      (h := w.header a.capacity) rfl (by rw [hall]; rfl)
    rw [hall] at hmove
    exact hmove

theorem triple_appendPointers {h : Header} {strings n : Nat} {slots : List Pointer}
    (hs : h.strings = .to strings) (hsize : h.size = some n) (hn : n + 1 < slots.length)
    (string : CString) (size : Nat) :
    Triple (pointersOf array h strings slots) (appendCopy A array string size)
      (fun _ l => ∃ copy, (pointersOf array { h with size := some (n + 1) } strings
        ((slots.set n (.to copy)).set (n + 1) .null) *
          points copy (Block.chars (tokenBuffer string size))) l) := by
  have hs' : { h with size := some (n + 1) }.strings = .to strings := hs
  apply triple_bind (triple_malloc_beside A _ _)
  intro copy
  have hp : (slots.set n (.to copy))[n]? = some (.to copy) := List.getElem?_set_self (by omega)
  apply triple_reads (reads_frame _ (reads_frame _ (reads_getSize hsize)))
  apply triple_seq (triple_frame _ (triple_setSlot hs (by omega)))
  apply triple_seq (triple_copyChars hs hp string (by simp))
  apply triple_seq (triple_setChar hs hp (by simp [length_filled]))
  rw [filled_set]
  apply triple_seq (triple_frame _ (triple_frame _ triple_setSize))
  refine triple_consequence (triple_frame _ (triple_setSlot hs' (by simpa using hn)))
    (fun _ hl => hl) (fun _ l hl => ⟨copy, hl⟩)

theorem spells_push {w : Layout} (hw : w.Spells a) (hroom : a.size < a.capacity) {string : CString}
    (hnul : NUL ∉ string) (size copy : Nat) {p : Pointer} {rest : List Pointer}
    (hrest : w.rest = p :: rest) :
    (⟨w.strings, w.tokens ++ [(copy, tokenBuffer string size)], rest⟩ : Layout).Spells
      (a.push (string.take size)) := by
  refine ⟨hw.formed.push hroom _, ?_, ?_⟩
  · have hlength := hw.allocated
    simp only [Layout.slots, pointed, hrest, List.length_append, List.length_map, List.length_cons,
      List.length_nil] at hlength ⊢
    rw [show (a.push (string.take size)).capacity = a.capacity from rfl]
    omega
  · rw [strings_push hw.formed]
    exact List.rel_append hw.tokens
      (.cons ⟨string.take size, rfl, cString_tokenBuffer hnul size⟩ .nil)

theorem pointed_push (tokens : List (Nat × List (Option Char))) (t : Nat × List (Option Char))
    (p : Pointer) (rest : List Pointer) :
    ((pointed tokens ++ .null :: p :: rest).set tokens.length (.to t.1)).set (tokens.length + 1)
      .null = pointed (tokens ++ [t]) ++ .null :: rest := by
  have hkept : (pointed tokens).length = tokens.length := List.length_map _
  rw [List.set_append_right _ _ hkept.le, hkept, Nat.sub_self, List.set_cons_zero,
    List.set_append_right _ _ (by omega), hkept, Nat.add_sub_cancel_left, List.set_cons_succ,
    List.set_cons_zero, pointed_append, List.append_assoc]
  rfl

theorem triple_appendCopy (hroom : a.size < a.capacity) {string : CString} (hnul : NUL ∉ string)
    (size : Nat) :
    Triple (Held array a) (appendCopy A array string size)
      (fun _ => Held array (a.push (string.take size))) := by
  apply triple_held
  intro w hw
  have hlength := hw.length
  have hallocated := hw.allocated
  have hcount : w.slots.length = w.tokens.length + (w.rest.length + 1) := by
    rw [Layout.slots, List.length_append, pointed, List.length_map, List.length_cons]
  obtain ⟨p, rest, hrest⟩ : ∃ p rest, w.rest = p :: rest :=
    List.exists_cons_of_length_pos (by omega)
  refine triple_consequence (triple_frame _ (triple_appendPointers (h := w.header a.capacity) rfl
    rfl (by omega) string size)) (fun _ hl => hl) ?_
  rintro - l ⟨m, n, hd, rfl, ⟨copy, hm⟩, hn⟩
  refine ⟨⟨w.strings, w.tokens ++ [(copy, tokenBuffer string size)], rest⟩,
    spells_push hw hroom hnul size copy hrest, ?_⟩
  have hpushed : w.slots = pointed w.tokens ++ .null :: p :: rest := by rw [Layout.slots, hrest]
  rw [hpushed, pointed_push w.tokens (copy, tokenBuffer string size)] at hm
  have hheader : (⟨w.strings, w.tokens ++ [(copy, tokenBuffer string size)], rest⟩ : Layout).header
      a.capacity = { w.header a.capacity with size := some (w.tokens.length + 1) } := by
    rw [Layout.header, List.length_append]
    rfl
  rw [Layout.owned, stored_append, stored_cons, stored_nil, mul_one, mul_comm (stored w.tokens),
    ← mul_assoc, show (a.push (string.take size)).capacity = a.capacity from rfl, hheader]
  exact ⟨m, n, hd, rfl, hm, hn⟩

theorem triple_addString (h : a.WellFormed) {string : CString} (hnul : NUL ∉ string) (size : Nat) :
    Triple (Held array a) (addString A array string size)
      (fun _ => Held array (Marketplace.addString a string size)) := by
  apply triple_reads reads_size
  apply triple_reads reads_capacity
  rw [Marketplace.addString]
  split
  · next hfull =>
    set capacity := if a.capacity ≠ 0 then a.capacity * 2 else 1 with hcapacity
    have hgrow : a.capacity < capacity := by
      rw [hcapacity]
      split <;> omega
    have hroom : (Marketplace.resize a capacity).size < (Marketplace.resize a capacity).capacity := by
      rw [size_resize]
      exact (Nat.min_le_right _ _).trans_lt (h.bounded.trans_lt hgrow)
    exact triple_seq (triple_resize capacity) (triple_appendCopy hroom hnul size)
  · next hspare =>
    exact triple_appendCopy (lt_of_le_of_ne h.bounded hspare) hnul size

theorem triple_tokenize (rest tokenStart : CString) (tokenSize : Nat) (h : a.WellFormed)
    (hrest : NUL ∉ rest) (hstart : NUL ∉ tokenStart) :
    Triple (Held array a) (tokenize A array rest tokenStart tokenSize)
      (fun _ => Held array (Marketplace.tokenize rest tokenStart tokenSize a)) := by
  induction rest generalizing tokenStart tokenSize a with
  | nil => exact triple_pure fun _ hl => hl
  | cons c rest ih =>
    have htail : NUL ∉ rest := fun hmem => hrest (List.mem_cons_of_mem c hmem)
    rw [tokenize, Marketplace.tokenize]
    split
    · split
      · apply triple_seq (triple_addString h hstart tokenSize)
        exact ih _ _ (h.addString _ _) htail hstart
      · exact ih _ _ h htail hstart
    · refine ih _ _ h htail ?_
      split
      · exact hrest
      · exact hstart

theorem triple_tokenizeLine (A : Allocator Block) {line : CString} (hnul : NUL ∉ line) :
    Triple 1 (tokenizeLine A line) (fun array => Held array (Marketplace.tokenizeLine line)) := by
  apply triple_bind (triple_makeStringArray A _)
  intro array
  have hformed := StringArray.wellFormed_makeStringArray INITIAL_TOKENS_CAPACITY
  apply triple_seq (triple_tokenize line line 0 hformed hnul hnul)
  exact triple_pure fun _ hl => hl

end Operations

end Marketplace.StringHeap
