import Marketplace.Server.Tokens

namespace Marketplace

structure Line where
  chars : CString
  terminated : NUL ∉ chars
deriving DecidableEq, Repr

def words (line : CString) : List CString :=
  (line.splitOnP isspace).filter (· ≠ [])

def addCalls : CString → CString → Nat → List (CString × Nat)
  | [], _, _ => []
  | c :: rest, tokenStart, tokenSize =>
    if isspace c then
      if tokenSize ≠ 0 then (tokenStart, tokenSize) :: addCalls rest tokenStart 0
      else addCalls rest tokenStart tokenSize
    else addCalls rest (if tokenSize = 0 then c :: rest else tokenStart) (tokenSize + 1)

def copied : CString → Nat → List Char
  | _, 0 => []
  | [], _ + 1 => [NUL]
  | c :: string, size + 1 => if c = NUL then [c] else c :: copied string size

def tokenBuffer (string : CString) (size : Nat) : List (Option Char) :=
  ((copied string size).map some ++ List.replicate (size + 1 - (copied string size).length) none).set
    size (some NUL)

structure SplitsOnWhitespace (line : Line) : Prop where
  size : (tokenizeLine line.chars).size = (words line.chars).length
  bounded : (tokenizeLine line.chars).size ≤ (tokenizeLine line.chars).capacity
  strings : (tokenizeLine line.chars).strings.take (tokenizeLine line.chars).size =
    (words line.chars).map .string
  sentinel : (tokenizeLine line.chars).strings[(tokenizeLine line.chars).size]? = some .null
  buffers : (addCalls line.chars line.chars 0).map (fun call => tokenBuffer call.1 call.2) =
    (words line.chars).map (fun word => word.map some ++ [some NUL])

section Buffer

theorem copied_of_fits {string : CString} {size : Nat} (hfits : size ≤ string.length)
    (hnul : NUL ∉ string) : copied string size = string.take size := by
  induction size generalizing string with
  | zero => cases string <;> rfl
  | succ size ih =>
    cases string with
    | nil => simp at hfits
    | cons c string =>
      have hc : c ≠ NUL := fun h => hnul (h ▸ List.mem_cons_self ..)
      have hrest := ih (Nat.le_of_succ_le_succ hfits) (fun h => hnul (List.mem_cons_of_mem _ h))
      rw [copied, if_neg hc, hrest, List.take_succ_cons]

theorem tokenBuffer_of_fits {string : CString} {size : Nat} (hfits : size ≤ string.length)
    (hnul : NUL ∉ string) :
    tokenBuffer string size = (string.take size).map some ++ [some NUL] := by
  have hlength : ((string.take size).map some).length = size := by simp [hfits]
  rw [tokenBuffer, copied_of_fits hfits hnul, List.length_take, Nat.min_eq_left hfits,
    Nat.add_sub_cancel_left, List.set_append_right _ _ hlength.le, hlength, Nat.sub_self]
  rfl

end Buffer

section Scan

theorem tokenize_eq_foldl (rest tokenStart : CString) (tokenSize : Nat) (tokens : StringArray) :
    tokenize rest tokenStart tokenSize tokens =
      (addCalls rest tokenStart tokenSize).foldl (fun array call => addString array call.1 call.2)
        tokens := by
  induction rest generalizing tokenStart tokenSize tokens with
  | nil => rfl
  | cons c rest ih =>
    simp only [tokenize, addCalls]
    split
    · split
      · exact ih _ _ _
      · exact ih _ _ _
    · exact ih _ _ _

-- pending is the token under way: token_start points at it and token_size is its length.
structure Pending (pending rest tokenStart : CString) : Prop where
  nonspace : ∀ c ∈ pending, isspace c = false
  start : pending ≠ [] → tokenStart = pending ++ rest

variable {pending rest tokenStart : CString} {c : Char}

theorem Pending.none (rest tokenStart : CString) : Pending [] rest tokenStart :=
  ⟨by simp, fun h => absurd rfl h⟩

theorem Pending.extended (h : Pending pending (c :: rest) tokenStart) (hc : isspace c = false) :
    Pending (pending ++ [c]) rest (if pending.length = 0 then c :: rest else tokenStart) := by
  refine ⟨?_, fun _ => ?_⟩
  · intro d hd
    rcases List.mem_append.mp hd with hd | hd
    · exact h.nonspace d hd
    · rw [List.mem_singleton.mp hd, hc]
  · cases pending with
    | nil => rfl
    | cons d pending => simpa using h.start (List.cons_ne_nil d pending)

theorem words_nonspace (h : ∀ c ∈ pending, isspace c = false) :
    words pending = [pending].filter (· ≠ []) := by
  rw [words, List.splitOnP_eq_singleton h]

theorem words_append_space (h : ∀ c ∈ pending, isspace c = false) (hc : isspace c = true)
    (rest : CString) : words (pending ++ c :: rest) = [pending].filter (· ≠ []) ++ words rest := by
  rw [words, List.splitOnP_append_cons_of_forall_mem h c hc rest, List.filter_cons]
  cases pending <;> rfl

theorem addCalls_words (h : Pending pending rest tokenStart) :
    ∃ unfinished : List CString,
      words (pending ++ rest) = (addCalls rest tokenStart pending.length).map
        (fun call => call.1.take call.2) ++ unfinished ∧
      (unfinished = [] ↔ ∀ c ∈ (pending ++ rest).getLast?, isspace c = true) := by
  induction rest generalizing pending tokenStart with
  | nil =>
    refine ⟨words pending, by simp [addCalls], ?_⟩
    rw [words_nonspace h.nonspace, List.append_nil]
    cases hlast : pending.getLast? with
    | none => simp [List.getLast?_eq_none_iff.mp hlast]
    | some c =>
      have hc := h.nonspace c (List.mem_of_getLast? hlast)
      have hne : pending ≠ [] := by
        rintro rfl
        cases hlast
      simp [hne, hc]
  | cons c rest ih =>
    cases hc : isspace c with
    | true =>
      obtain ⟨unfinished, hwords, hlast⟩ := ih (.none rest tokenStart)
      refine ⟨unfinished, ?_, ?_⟩
      · rw [words_append_space h.nonspace hc, addCalls, if_pos hc]
        rw [List.nil_append] at hwords
        cases pending with
        | nil => simpa using hwords
        | cons d pending =>
          have htake : tokenStart.take (d :: pending).length = d :: pending := by
            rw [h.start (List.cons_ne_nil d pending)]
            exact List.take_left
          simpa [← List.length_cons, htake, -List.length_cons] using hwords
      · rw [hlast]
        cases rest <;> simp [hc]
    | false =>
      obtain ⟨unfinished, hwords, hlast⟩ := ih (h.extended hc)
      rw [List.append_assoc] at hwords hlast
      refine ⟨unfinished, ?_, hlast⟩
      rw [List.length_append] at hwords
      simpa [addCalls, hc] using hwords

theorem addCalls_fits (h : Pending pending rest tokenStart) {call : CString × Nat}
    (hcall : call ∈ addCalls rest tokenStart pending.length) :
    call.2 ≤ call.1.length ∧ ∀ d ∈ call.1, d ∈ pending ++ rest := by
  induction rest generalizing pending tokenStart with
  | nil => cases hcall
  | cons c rest ih =>
    have hlater {d : Char} (hd : d ∈ rest) : d ∈ pending ++ c :: rest :=
      List.mem_append_right _ (List.mem_cons_of_mem _ hd)
    cases hc : isspace c with
    | true =>
      rw [addCalls, if_pos hc] at hcall
      cases pending with
      | nil =>
        obtain ⟨hlength, hmem⟩ := ih (.none rest tokenStart) hcall
        exact ⟨hlength, fun d hd => hlater (hmem d hd)⟩
      | cons e pending =>
        rcases List.mem_cons.mp hcall with rfl | hcall
        · have hstart := h.start (List.cons_ne_nil e pending)
          exact ⟨by simp [hstart], fun d hd => by rwa [hstart] at hd⟩
        · obtain ⟨hlength, hmem⟩ := ih (.none rest tokenStart) hcall
          exact ⟨hlength, fun d hd => hlater (hmem d hd)⟩
    | false =>
      rw [addCalls, hc] at hcall
      obtain ⟨hlength, hmem⟩ := ih (h.extended hc) (by simpa using hcall)
      exact ⟨hlength, by simpa using hmem⟩

end Scan

section Array

variable {array : StringArray}

theorem strings_push (h : array.WellFormed) (s : CString) :
    (array.push s).strings.take (array.push s).size =
      array.strings.take array.size ++ [.string s] := by
  have hlength := h.allocated
  have hbound := h.bounded
  have hset : (array.push s).strings.take (array.size + 1) =
      (array.strings.set array.size (.string s)).take (array.size + 1) :=
    List.take_set_of_le (Nat.le_refl _)
  have hself : (array.strings.set array.size (.string s))[array.size]? = some (.string s) :=
    List.getElem?_set_self (by omega)
  change (array.push s).strings.take (array.size + 1) = _
  rw [hset, List.take_add_one, hself, List.take_set_of_le (Nat.le_refl _)]
  rfl

theorem strings_resize_take (h : array.WellFormed) {capacity : Nat}
    (hc : array.capacity < capacity) :
    (resize array capacity).strings.take array.size = array.strings.take array.size := by
  refine List.ext_getElem? (fun i => ?_)
  simp only [List.getElem?_take]
  split
  · next hi =>
    have hbound := h.bounded
    exact StringArray.strings_resize h.allocated hc (by omega)
  · rfl

theorem addString_appends (h : array.WellFormed) (string : CString) (size : Nat) :
    (addString array string size).size = array.size + 1 ∧
      (addString array string size).strings.take (addString array string size).size =
        array.strings.take array.size ++ [.string (string.take size)] := by
  rcases StringArray.addString_eq h string size with ⟨-, heq⟩ | ⟨capacity, hroom, hc, heq⟩
  · rw [heq]
    exact ⟨rfl, strings_push h _⟩
  · have hsize := StringArray.size_resize hroom
    rw [heq, strings_push (h.resize hc), hsize, strings_resize_take h hc]
    exact ⟨congrArg (· + 1) hsize, rfl⟩

theorem addStrings_append (h : array.WellFormed) (calls : List (CString × Nat)) :
    (calls.foldl (fun array call => addString array call.1 call.2) array).size =
        array.size + calls.length ∧
      (calls.foldl (fun array call => addString array call.1 call.2) array).strings.take
          (array.size + calls.length) =
        array.strings.take array.size ++ calls.map (fun call => .string (call.1.take call.2)) := by
  induction calls generalizing array with
  | nil => simp
  | cons call calls ih =>
    obtain ⟨hsize, hstrings⟩ := addString_appends h call.1 call.2
    obtain ⟨htotal, hall⟩ := ih (h.addString call.1 call.2)
    rw [hstrings, hsize] at hall
    rw [hsize] at htotal
    rw [List.foldl_cons, List.length_cons, List.map_cons, Nat.add_comm calls.length,
      ← Nat.add_assoc]
    exact ⟨htotal, by simpa using hall⟩

end Array

theorem splits_on_whitespace_iff (line : Line) :
    SplitsOnWhitespace line ↔ ∀ c ∈ line.chars.getLast?, isspace c = true := by
  have hstart : Pending [] line.chars line.chars := .none _ _
  obtain ⟨unfinished, hwords, hlast⟩ := addCalls_words hstart
  have hempty := StringArray.wellFormed_makeStringArray INITIAL_TOKENS_CAPACITY
  have harray : tokenizeLine line.chars = (addCalls line.chars line.chars 0).foldl
      (fun array call => addString array call.1 call.2) (makeStringArray INITIAL_TOKENS_CAPACITY) :=
    tokenize_eq_foldl _ _ _ _
  obtain ⟨hsize, hstrings⟩ := addStrings_append hempty (addCalls line.chars line.chars 0)
  have hformed := StringArray.wellFormed_tokenizeLine line.chars
  rw [← harray] at hsize hstrings
  have hcount : (tokenizeLine line.chars).size = (addCalls line.chars line.chars 0).length :=
    hsize.trans (Nat.zero_add _)
  rw [List.nil_append] at hwords hlast
  change words line.chars = (addCalls line.chars line.chars 0).map _ ++ unfinished at hwords
  rw [← hlast]
  constructor
  · intro h
    have hlength := h.size
    rw [hcount, hwords, List.length_append, List.length_map] at hlength
    exact List.length_eq_zero_iff.mp (by omega)
  · rintro rfl
    rw [List.append_nil] at hwords
    refine ⟨?_, hformed.bounded, ?_, hformed.sentinel, ?_⟩
    · rw [hcount, hwords, List.length_map]
    · rw [hsize, hstrings, hwords, List.map_map]
      rfl
    · rw [hwords, List.map_map]
      refine List.map_congr_left (fun call hcall => ?_)
      obtain ⟨hfits, hmem⟩ := addCalls_fits hstart hcall
      exact tokenBuffer_of_fits hfits (fun hnul => line.terminated (hmem NUL hnul))

def unendedLine : Line where
  chars := "buy doge 1 5".toList
  terminated := by decide

theorem last_word_dropped : ¬ ∀ line : Line, SplitsOnWhitespace line := by
  intro h
  have hsize := (h unendedLine).size
  revert hsize
  decide

end Marketplace
