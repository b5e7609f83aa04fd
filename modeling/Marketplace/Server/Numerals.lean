import Mathlib.Data.Bool.AllAny
import Mathlib.Data.List.Induction
import Mathlib.Data.Nat.Digits.Defs
import Mathlib.Tactic.FieldSimp
import Marketplace.Server.CText

namespace Marketplace

def decimal (body : CString) : Nat :=
  body.foldl (fun n c => n * 10 + (c.toNat - '0'.toNat)) 0

def decimalInteger (token : CString) : Option Int :=
  let (negative, body) := sign token
  if body ≠ [] ∧ body.all Char.isDigit = true then
    some (if negative then -decimal body else decimal body)
  else none

def exactInt (token : CString) : Option Int :=
  (decimalInteger token).filter (fun n => INT_MIN ≤ n ∧ n ≤ INT_MAX)

def DIGITS : CString := "0123456789".toList
def XDIGITS : CString := "0123456789abcdefABCDEF".toList

def digitValue (c : Char) : Nat :=
  "0123456789abcdef".toList.idxOf c.toLower

def placeValue (base : Nat) (s : CString) : Nat :=
  Nat.ofDigits base (s.map digitValue).reverse

def fixedPoint (base : Nat) (alphabet s : CString) : Option ℚ :=
  let whole := s.takeWhile (· ≠ '.')
  let fraction := (s.dropWhile (· ≠ '.')).drop 1
  if whole ++ fraction ≠ [] ∧ (whole ++ fraction).all (· ∈ alphabet) = true then
    some (placeValue base whole + placeValue base fraction / (base : ℚ) ^ fraction.length)
  else none

def scientific (base : Nat) (alphabet : CString) (radix : ℚ) (markers s : CString) : Option ℚ :=
  let mantissa := fixedPoint base alphabet (s.takeWhile (· ∉ markers))
  match s.dropWhile (· ∉ markers) with
  | [] => mantissa
  | _ :: power => mantissa.bind fun m => (decimalInteger power).map fun e => m * radix ^ e

def magnitude (body : CString) : Option ℚ :=
  match body with
  | '0' :: x :: tail =>
    if x.toLower = 'x' then scientific 16 XDIGITS 2 ['p', 'P'] tail
    else scientific 10 DIGITS 10 ['e', 'E'] body
  | _ => scientific 10 DIGITS 10 ['e', 'E'] body

-- the number that a numeral denotes, whatever a double can hold of it
def priceNumeral (token : CString) : Option ℚ :=
  let (negative, body) := sign token
  (magnitude body).map fun q => if negative then -q else q

def exactPrice (token : CString) : Option Double :=
  ((priceNumeral token).filter (fun q => (Double.ofRat q).value = some q)).map Double.ofRat

section Digits

theorem digit_isDigit {c : Char} (h : c.isDigit = true) : digit 10 c = some (c.toNat - '0'.toNat) := by
  have hle : c.toNat - '0'.toNat < 10 := by
    simp only [Char.isDigit, Bool.and_eq_true, decide_eq_true_eq] at h
    have h9 : c.toNat ≤ 57 := h.2
    have h0 : '0'.toNat = 48 := rfl
    omega
  rw [digit, if_pos h]
  exact Option.filter_some_pos (decide_eq_true hle)

theorem digits_decimal {body : CString} (h : body.all Char.isDigit = true) :
    digits 10 body = (body.map (fun c => c.toNat - '0'.toNat), []) := by
  induction body with
  | nil => rfl
  | cons c body ih =>
    obtain ⟨hc, hbody⟩ := Bool.and_eq_true_iff.mp (List.all_cons ▸ h)
    simp [digits, digit_isDigit hc, ih hbody]

theorem numeral_decimal (body : CString) :
    numeral 10 (body.map (fun c => c.toNat - '0'.toNat)) = decimal body := by
  rw [numeral, decimal, List.foldl_map]

theorem isDigit_not_space {c : Char} (h : c.isDigit = true) : isspace c = false := by
  simp only [Char.isDigit, Bool.and_eq_true, decide_eq_true_eq] at h
  have h0 : 48 ≤ c.toNat := h.1
  have hspace : c ≠ ' ' := by
    rintro rfl
    revert h0
    decide
  have hcontrol : ¬ c.toNat ≤ 13 := by omega
  simp [isspace, hspace, hcontrol]

theorem decimalInteger_some {token : CString} {n : Int} (h : decimalInteger token = some n) :
    ∃ negative body, sign token = (negative, body) ∧ body ≠ [] ∧ body.all Char.isDigit = true ∧
      n = if negative then -(decimal body : Int) else decimal body := by
  unfold decimalInteger at h
  simp only at h
  split at h
  · next hbody =>
    exact ⟨(sign token).1, (sign token).2, rfl, hbody.1, hbody.2, (Option.some.inj h).symm⟩
  · cases h

theorem dropWhile_decimal {token : CString} {n : Int} (h : decimalInteger token = some n) :
    token.dropWhile isspace = token := by
  obtain ⟨negative, body, hsign, hne, hdigits, -⟩ := decimalInteger_some h
  cases token with
  | nil => rfl
  | cons c rest =>
    have hspace : isspace c = false := by
      unfold sign at hsign
      split at hsign
      · next heq => cases heq; rfl
      · next heq => cases heq; rfl
      · cases hsign
        exact isDigit_not_space (Bool.and_eq_true_iff.mp (List.all_cons ▸ hdigits)).1
    exact List.dropWhile_cons_of_neg (by simp [hspace])

theorem strtol_decimal {token : CString} {n : Int} (h : decimalInteger token = some n)
    (hmin : LONG_MIN ≤ n) (hmax : n ≤ LONG_MAX) : strtol token = (n, []) := by
  obtain ⟨negative, body, hsign, hne, hdigits, hvalue⟩ := decimalInteger_some h
  have hnumeral := numeral_decimal body
  have hclamp : clampLong n = n := by
    unfold clampLong
    omega
  simp only [strtol, dropWhile_decimal h, hsign, digits_decimal hdigits]
  cases hmap : body.map (fun c => c.toNat - '0'.toNat) with
  | nil => exact absurd (List.map_eq_nil_iff.mp hmap) hne
  | cons d ds =>
    rw [hmap] at hnumeral
    simp only [hnumeral, ← hvalue, hclamp]

theorem intOfLong_fits {n : Int} (hmin : INT_MIN ≤ n) (hmax : n ≤ INT_MAX) :
    intOfLong n = n := by
  simp only [INT_MIN, INT_MAX] at hmin hmax
  rw [intOfLong, Int.bmod_eq_of_le_mul_two] <;> omega

theorem exactInt_some {token : CString} {n : Int} (h : exactInt token = some n) :
    strtol token = (n, []) ∧ intOfLong n = n := by
  obtain ⟨hdecimal, hfits⟩ := Option.filter_eq_some_iff.mp h
  obtain ⟨hmin, hmax⟩ := of_decide_eq_true hfits
  refine ⟨strtol_decimal hdecimal ?_ ?_, intOfLong_fits hmin hmax⟩
  · simp only [LONG_MIN, INT_MIN] at hmin ⊢
    omega
  · simp only [LONG_MAX, INT_MAX] at hmax ⊢
    omega

theorem numeral_placeValue (base : Nat) (s : CString) :
    numeral base (s.map digitValue) = placeValue base s := by
  induction s using List.reverseRecOn with
  | nil => rfl
  | append_singleton s c ih =>
    have hstep : numeral base ((s ++ [c]).map digitValue) =
        numeral base (s.map digitValue) * base + digitValue c := by
      simp [numeral, List.foldl_append]
    rw [hstep, ih, placeValue, placeValue, List.map_append, List.reverse_append, List.map_singleton,
      List.reverse_singleton, List.singleton_append, Nat.ofDigits_cons]
    ring

theorem placeValue_append (base : Nat) (s t : CString) :
    placeValue base (s ++ t) = placeValue base s * base ^ t.length + placeValue base t := by
  rw [placeValue, placeValue, placeValue, List.map_append, List.reverse_append, Nat.ofDigits_append,
    List.length_reverse, List.length_map]
  ring

end Digits

section Floats

variable {base : Nat} {alphabet markers s rest : CString} {radix q : ℚ} {marker : Char}

-- the characters of a numeral as strtod's scanner takes them
structure Scanned (base : Nat) (alphabet markers : CString) (marker : Char) : Prop where
  positive : base ≠ 0
  digit : ∀ c ∈ alphabet, digit base c = some (digitValue c)
  marker : ∀ c ∈ markers, (Marketplace.digit base c = none ∧ c ≠ '.') ∧ c.toLower = marker
  dot : Marketplace.digit base '.' = none

theorem scanned_decimal : Scanned 10 DIGITS ['e', 'E'] 'e' where
  positive := by decide
  digit := List.all_iff_forall_prop.mp (by decide)
  marker := List.all_iff_forall_prop.mp (by decide)
  dot := by decide

theorem scanned_hexadecimal : Scanned 16 XDIGITS ['p', 'P'] 'p' where
  positive := by decide
  digit := List.all_iff_forall_prop.mp (by decide)
  marker := List.all_iff_forall_prop.mp (by decide)
  dot := by decide

theorem digits_append (h : ∀ c ∈ s, digit base c = some (digitValue c))
    (hrest : ∀ c ∈ rest.head?, digit base c = none) :
    digits base (s ++ rest) = (s.map digitValue, rest) := by
  induction s with
  | nil =>
    cases rest with
    | nil => rfl
    | cons c rest => simp [digits, hrest c rfl]
  | cons c s ih =>
    have htail := ih (fun d hd => h d (List.mem_cons_of_mem _ hd))
    simp [digits, h c (List.mem_cons_self ..), htail]

theorem dropWhile_cons {p : Char → Bool} {c : Char} (h : s.dropWhile p = c :: rest) :
    p c = false := by
  have hhead := List.head?_dropWhile_not p s
  rw [h] at hhead
  simpa using hhead

theorem floatNumeral_whole (hs : Scanned base alphabet markers marker) (hne : s ≠ [])
    (h : ∀ c ∈ s, c ∈ alphabet) (hrest : ∀ c ∈ rest.head?, digit base c = none ∧ c ≠ '.') :
    floatNumeral base radix marker (s ++ rest) =
      some (placeValue base s * radix ^ (exponent marker rest).1, (exponent marker rest).2) := by
  have hdigits := digits_append (fun c hc => hs.digit c (h c hc)) (fun c hc => (hrest c hc).1)
  cases rest with
  | nil =>
    rw [List.append_nil] at hdigits ⊢
    simp [floatNumeral, hdigits, hne, numeral_placeValue]
  | cons c rest =>
    have hdot : c ≠ '.' := (hrest c rfl).2
    simp [floatNumeral, hdigits, hne, hdot, numeral_placeValue]

theorem floatNumeral_fraction (hs : Scanned base alphabet markers marker) {whole fraction : CString}
    (hne : whole ++ fraction ≠ []) (h : ∀ c ∈ whole ++ fraction, c ∈ alphabet)
    (hrest : ∀ c ∈ rest.head?, digit base c = none) :
    floatNumeral base radix marker (whole ++ '.' :: (fraction ++ rest)) =
      some ((placeValue base whole + placeValue base fraction / (base : ℚ) ^ fraction.length) *
        radix ^ (exponent marker rest).1, (exponent marker rest).2) := by
  have hbase : (base : ℚ) ≠ 0 := by exact_mod_cast hs.positive
  have hwhole : digits base (whole ++ '.' :: (fraction ++ rest)) =
      (whole.map digitValue, '.' :: (fraction ++ rest)) := by
    refine digits_append (fun c hc => hs.digit c (h c (List.mem_append_left _ hc))) (fun c hc => ?_)
    cases hc
    exact hs.dot
  have hfraction : digits base (fraction ++ rest) = _ := digits_append
    (fun c hc => hs.digit c (h c (List.mem_append_right whole hc))) hrest
  have hnonempty : ¬ (whole = [] ∧ fraction = []) := by
    rintro ⟨rfl, rfl⟩
    exact hne rfl
  have hvalue : (numeral base (whole.map digitValue ++ fraction.map digitValue) : ℚ) /
      (base : ℚ) ^ fraction.length =
      placeValue base whole + placeValue base fraction / (base : ℚ) ^ fraction.length := by
    rw [← List.map_append, numeral_placeValue, placeValue_append]
    push_cast
    field_simp
  simp [floatNumeral, hwhole, hfraction, hnonempty, hvalue]

theorem floatNumeral_append (hs : Scanned base alphabet markers marker)
    (h : fixedPoint base alphabet s = some q)
    (hrest : ∀ c ∈ rest.head?, digit base c = none ∧ c ≠ '.') :
    floatNumeral base radix marker (s ++ rest) =
      some (q * radix ^ (exponent marker rest).1, (exponent marker rest).2) := by
  have hsplit := List.takeWhile_append_dropWhile (p := fun c => decide (c ≠ '.')) (l := s)
  unfold fixedPoint at h
  simp only at h
  generalize s.takeWhile (· ≠ '.') = whole at h hsplit
  cases htail : s.dropWhile (· ≠ '.') with
  | nil =>
    rw [htail, List.append_nil] at hsplit
    subst hsplit
    simp only [htail, List.drop_nil, List.append_nil] at h
    split at h
    · next hformed =>
      cases h
      have halphabet := List.all_iff_forall_prop.mp hformed.2
      have hwhole : floatNumeral base radix marker (whole ++ rest) = _ :=
        floatNumeral_whole hs hformed.1 halphabet hrest
      simpa [placeValue] using hwhole
    · cases h
  | cons c fraction =>
    have hdot : c = '.' := by simpa using dropWhile_cons htail
    rw [htail, hdot] at hsplit
    simp only [htail, List.drop_one, List.tail_cons] at h
    split at h
    · next hformed =>
      cases h
      rw [← hsplit, List.append_assoc, List.cons_append]
      exact floatNumeral_fraction hs hformed.1 (List.all_iff_forall_prop.mp hformed.2)
        (fun c hc => (hrest c hc).1)
    · cases h

theorem exponent_decimal {c : Char} {power : CString} {e : Int} (hc : c.toLower = marker)
    (h : decimalInteger power = some e) : exponent marker (c :: power) = (e, []) := by
  obtain ⟨negative, body, hsign, hne, hdigits, hvalue⟩ := decimalInteger_some h
  have hnumeral := numeral_decimal body
  have hscan := digits_decimal hdigits
  cases hmap : body.map (fun c => c.toNat - '0'.toNat) with
  | nil => exact absurd (List.map_eq_nil_iff.mp hmap) hne
  | cons d ds =>
    rw [hmap] at hnumeral hscan
    simp only [exponent, hc, if_true, hsign, hscan, hnumeral, hvalue]

theorem scientific_scanned (hs : Scanned base alphabet markers marker)
    (h : scientific base alphabet radix markers s = some q) :
    floatNumeral base radix marker s = some (q, []) := by
  have hsplit := List.takeWhile_append_dropWhile (p := fun c => decide (c ∉ markers)) (l := s)
  unfold scientific at h
  simp only at h
  cases htail : s.dropWhile (· ∉ markers) with
  | nil =>
    rw [htail] at h hsplit
    have hscan : floatNumeral base radix marker (_ ++ []) = _ :=
      floatNumeral_append hs h (by simp)
    rw [hsplit] at hscan
    simpa [exponent] using hscan
  | cons c power =>
    rw [htail] at h hsplit
    obtain ⟨m, hm, hpower⟩ := Option.bind_eq_some_iff.mp h
    obtain ⟨e, he, rfl⟩ := Option.map_eq_some_iff.mp hpower
    have hc : c ∈ markers := by simpa using dropWhile_cons htail
    have hscan : floatNumeral base radix marker (_ ++ c :: power) = _ := floatNumeral_append hs hm
      (fun d hd => by cases hd; exact (hs.marker c hc).1)
    rw [hsplit, exponent_decimal (hs.marker c hc).2 he] at hscan
    exact hscan

theorem fixedPoint_head (h : fixedPoint base alphabet s = some q) :
    ∃ c rest, s = c :: rest ∧ (c ∈ alphabet ∨ c = '.') := by
  cases s with
  | nil => simp [fixedPoint] at h
  | cons c s =>
    refine ⟨c, s, rfl, ?_⟩
    by_cases hc : c = '.'
    · exact .inr hc
    · unfold fixedPoint at h
      simp only at h
      split at h
      · next hformed =>
        refine .inl (List.all_iff_forall_prop.mp hformed.2 c (List.mem_append_left _ ?_))
        simp [hc]
      · cases h

theorem scientific_head (h : scientific base alphabet radix markers s = some q) :
    ∃ c rest, s = c :: rest ∧ (c ∈ alphabet ∨ c = '.') := by
  have hmantissa : ∃ m, fixedPoint base alphabet (s.takeWhile (· ∉ markers)) = some m := by
    unfold scientific at h
    simp only at h
    split at h
    · exact ⟨q, h⟩
    · obtain ⟨m, hm, -⟩ := Option.bind_eq_some_iff.mp h
      exact ⟨m, hm⟩
  obtain ⟨m, hm⟩ := hmantissa
  obtain ⟨c, rest, hc, hhead⟩ := fixedPoint_head hm
  cases s with
  | nil => cases hc
  | cons d s =>
    rw [List.takeWhile_cons] at hc
    split at hc
    · obtain ⟨rfl, -⟩ := List.cons.inj hc
      exact ⟨d, s, rfl, hhead⟩
    · cases hc

theorem matchWord_none {c d : Char} {word : CString} (h : d.toLower ≠ c.toLower) :
    matchWord (d :: word) (c :: s) = none := by
  have hne : d.toLower.toNat ≠ c.toLower.toNat := fun heq =>
    h (Char.ext (UInt32.toNat_inj.mp heq))
  have hcompare : strcasecmp (d :: word) (c :: s.take word.length) ≠ 0 := by
    simp only [strcasecmp, h, if_false]
    omega
  simp [matchWord, hcompare]

-- the characters that a magnitude can begin with
def STARTERS : CString := '.' :: DIGITS

theorem magnitude_head (h : magnitude s = some q) : ∃ c ∈ STARTERS, ∃ rest, s = c :: rest := by
  have hdecimal (h : scientific 10 DIGITS 10 ['e', 'E'] s = some q) :
      ∃ c ∈ STARTERS, ∃ rest, s = c :: rest := by
    obtain ⟨c, rest, hs, hc⟩ := scientific_head h
    refine ⟨c, ?_, rest, hs⟩
    rcases hc with hc | rfl
    · exact List.mem_cons_of_mem _ hc
    · exact List.mem_cons_self ..
  unfold magnitude at h
  split at h
  · next x tail =>
    exact ⟨'0', by decide, x :: tail, rfl⟩
  · exact hdecimal h

theorem magnitude_scanned (h : magnitude s = some q) :
    (hexNumeral s).or (floatNumeral 10 10 'e' s) = some (q, []) := by
  unfold magnitude at h
  split at h
  · next x tail =>
    split at h
    · next hx =>
      have hhex : hexNumeral ('0' :: x :: tail) = some (q, []) := by
        rw [hexNumeral, if_pos hx]
        exact scientific_scanned scanned_hexadecimal h
      rw [hhex, Option.some_or]
    · next hx =>
      have hhex : hexNumeral ('0' :: x :: tail) = none := by
        rw [hexNumeral, if_neg hx]
      rw [hhex, Option.none_or]
      exact scientific_scanned scanned_decimal h
  · next hshort =>
    have hhex : hexNumeral s = none := by
      unfold hexNumeral
      split
      · next x tail => exact absurd rfl (hshort x tail)
      · rfl
    rw [hhex, Option.none_or]
    exact scientific_scanned scanned_decimal h

theorem strtod_magnitude {token : CString} {negative : Bool} {body : CString}
    (hspace : token.dropWhile isspace = token) (hsign : sign token = (negative, body))
    (h : magnitude body = some q) :
    strtod token = (Double.ofRat (if negative then -q else q), []) := by
  obtain ⟨c, hc, rest, rfl⟩ := magnitude_head h
  have hletters : ∀ c ∈ STARTERS, 'i'.toLower ≠ c.toLower ∧ 'n'.toLower ≠ c.toLower :=
    List.all_iff_forall_prop.mp (by decide)
  obtain ⟨hi, hn⟩ := hletters c hc
  have hinfinity : matchWord "infinity".toList (c :: rest) = none := matchWord_none hi
  have hinf : matchWord "inf".toList (c :: rest) = none := matchWord_none hi
  have hnan : matchWord "nan".toList (c :: rest) = none := matchWord_none hn
  simp only [strtod, hspace, hsign, hinfinity, hinf, hnan, magnitude_scanned h]

theorem priceNumeral_some {token : CString} (h : priceNumeral token = some q) :
    ∃ negative body m, sign token = (negative, body) ∧ magnitude body = some m ∧
      q = if negative then -m else m := by
  unfold priceNumeral at h
  obtain ⟨m, hm, hq⟩ := Option.map_eq_some_iff.mp h
  exact ⟨(sign token).1, (sign token).2, m, rfl, hm, hq.symm⟩

theorem dropWhile_priceNumeral {token : CString} (h : priceNumeral token = some q) :
    token.dropWhile isspace = token := by
  obtain ⟨negative, body, m, hsign, hm, -⟩ := priceNumeral_some h
  cases token with
  | nil => rfl
  | cons c rest =>
    have hspace : isspace c = false := by
      unfold sign at hsign
      split at hsign
      · next heq => cases heq; rfl
      · next heq => cases heq; rfl
      · cases hsign
        obtain ⟨d, hd, rest', hcons⟩ := magnitude_head hm
        have hstarters : ∀ d ∈ STARTERS, isspace d = false :=
          List.all_iff_forall_prop.mp (by decide)
        rw [(List.cons.inj hcons).1]
        exact hstarters d hd
    exact List.dropWhile_cons_of_neg (by simp [hspace])

theorem strtod_priceNumeral {token : CString} (h : priceNumeral token = some q) :
    strtod token = (Double.ofRat q, []) := by
  obtain ⟨negative, body, m, hsign, hm, rfl⟩ := priceNumeral_some h
  exact strtod_magnitude (dropWhile_priceNumeral h) hsign hm

theorem exactPrice_some {token : CString} {x : Double} (h : exactPrice token = some x) :
    strtod token = (x, []) := by
  obtain ⟨q, hq, rfl⟩ := Option.map_eq_some_iff.mp h
  exact strtod_priceNumeral (Option.filter_eq_some_iff.mp hq).1

end Floats

example : exactPrice "+0x1.8p1".toList = some (.ofRat 3) := by decide +kernel

example : exactPrice "0.1".toList = none := by decide +kernel

example : exactPrice "1e-400".toList = none := by decide +kernel

end Marketplace
