import Marketplace.Store.Database

namespace Marketplace

def NUL : Char := Char.ofNat 0

def isspace (c : Char) : Bool :=
  c == ' ' || (decide (9 ≤ c.toNat) && decide (c.toNat ≤ 13))

def strcasecmp : CString → CString → Int
  | [], [] => 0
  | [], d :: _ => -d.toLower.toNat
  | c :: _, [] => c.toLower.toNat
  | c :: s, d :: t =>
    if c.toLower = d.toLower then strcasecmp s t else c.toLower.toNat - d.toLower.toNat

def LONG_MAX : Int := 9223372036854775807
def LONG_MIN : Int := -9223372036854775808

def sign : CString → Bool × CString
  | '-' :: s => (true, s)
  | '+' :: s => (false, s)
  | s => (false, s)

def digit (base : Nat) (c : Char) : Option Nat :=
  let value :=
    if c.isDigit then some (c.toNat - '0'.toNat)
    else if c.isAlpha then some (c.toLower.toNat - 'a'.toNat + 10)
    else none
  value.filter (· < base)

def digits (base : Nat) : CString → List Nat × CString
  | [] => ([], [])
  | c :: s =>
    match digit base c with
    | none => ([], c :: s)
    | some d => (d :: (digits base s).1, (digits base s).2)

def numeral (base : Nat) (ds : List Nat) : Nat :=
  ds.foldl (fun n d => n * base + d) 0

def clampLong (n : Int) : Int :=
  max LONG_MIN (min LONG_MAX n)

def strtol (nptr : CString) : Int × CString :=
  let (negative, body) := sign (nptr.dropWhile isspace)
  match digits 10 body with
  | ([], _) => (0, nptr)
  | (ds, endptr) =>
    let n : Int := numeral 10 ds
    (clampLong (if negative then -n else n), endptr)

def intOfLong (n : Int) : Int :=
  n.bmod 4294967296

def exponent (marker : Char) (s : CString) : Int × CString :=
  match s with
  | c :: rest =>
    if c.toLower = marker then
      let (negative, body) := sign rest
      match digits 10 body with
      | ([], _) => (0, s)
      | (ds, endptr) => (if negative then -numeral 10 ds else numeral 10 ds, endptr)
    else (0, s)
  | [] => (0, s)

def floatNumeral (base : Nat) (radix : ℚ) (marker : Char) (s : CString) : Option (ℚ × CString) :=
  let (whole, rest) := digits base s
  let (fraction, rest) :=
    match rest with
    | '.' :: tail => if whole = [] ∧ (digits base tail).1 = [] then ([], rest) else digits base tail
    | _ => ([], rest)
  if whole = [] ∧ fraction = [] then none
  else
    let (e, endptr) := exponent marker rest
    some ((numeral base (whole ++ fraction) : ℚ) / (base : ℚ) ^ fraction.length * radix ^ e, endptr)

def matchWord (word : CString) (s : CString) : Option CString :=
  if strcasecmp word (s.take word.length) = 0 then some (s.drop word.length) else none

def nanPayload (s : CString) : CString :=
  match s with
  | '(' :: tail =>
    match tail.dropWhile (fun c => c.isAlphanum || c == '_') with
    | ')' :: rest => rest
    | _ => s
  | _ => s

def hexNumeral (s : CString) : Option (ℚ × CString) :=
  match s with
  | '0' :: x :: tail => if x.toLower = 'x' then floatNumeral 16 2 'p' tail else none
  | _ => none

def strtod (nptr : CString) : Double × CString :=
  let (negative, body) := sign (nptr.dropWhile isspace)
  match matchWord "infinity".toList body with
  | some endptr => (.inf negative, endptr)
  | none =>
    match matchWord "inf".toList body with
    | some endptr => (.inf negative, endptr)
    | none =>
      match matchWord "nan".toList body with
      | some tail => (.nan, nanPayload tail)
      | none =>
        match (hexNumeral body).or (floatNumeral 10 10 'e' body) with
        | some (q, endptr) => (Double.ofRat (if negative then -q else q), endptr)
        | none => (Double.ofRat 0, nptr)

end Marketplace
