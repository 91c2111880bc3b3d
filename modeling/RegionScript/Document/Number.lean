/-!
Number words of data documents.

A word without fraction and exponent is an integer as long as it fits 64 bits; every other one is a
double. Of a double the digits count as long as they fit 64 bits, first those before the point and
then, beginning anew, those behind it; the others only scale, and the power of ten is applied with
one rounding. A double too large to hold is out of range.
-/

namespace RegionScript.Document

/-- A number as written. `real none` is a number too large for a double. -/
inductive Number where
  | int (value : Int)
  | real (value : Option Float)

namespace Number

/-- The parts of a number word. -/
structure Parts where
  negative : Bool
  whole : List Char
  fraction : List Char
  exponent : Int
  /-- Whether the word has neither fraction nor exponent. -/
  plain : Bool

/-- Digits as a natural number. -/
def ofDigits (ds : List Char) : Nat := ds.foldl (fun n c => 10 * n + (c.toNat - '0'.toNat)) 0

/-- Reads an exponent: an optional sign and at least one digit, up to the end of the word. -/
def exponent? (cs : List Char) : Option Int :=
  let digits? (ds : List Char) : Option Nat :=
    if ds ≠ [] ∧ ds.all Char.isDigit then some (ofDigits ds) else none
  match cs with
  | '+' :: ds => (digits? ds).map Int.ofNat
  | '-' :: ds => (digits? ds).map fun n => -(n : Int)
  | ds => (digits? ds).map Int.ofNat

/-- Splits a number word: no zero before another digit, at least one digit after a point. -/
def parts? (word : List Char) : Option Parts := do
  let negative := word.head? = some '-'
  let cs := if negative then word.drop 1 else word
  let whole := cs.takeWhile Char.isDigit
  guard (whole ≠ [] ∧ (whole.head? ≠ some '0' ∨ whole = ['0']))
  match cs.dropWhile Char.isDigit with
  | [] => some ⟨negative, whole, [], 0, true⟩
  | '.' :: rest =>
    let fraction := rest.takeWhile Char.isDigit
    guard (fraction ≠ [])
    match rest.dropWhile Char.isDigit with
    | [] => some ⟨negative, whole, fraction, 0, false⟩
    | e :: rest =>
      guard (e = 'e' ∨ e = 'E')
      (exponent? rest).map fun x => ⟨negative, whole, fraction, x, false⟩
  | e :: rest =>
    guard (e = 'e' ∨ e = 'E')
    (exponent? rest).map fun x => ⟨negative, whole, [], x, false⟩

/-- Takes digits into a significand while it fits 64 bits; also the number of digits left over. -/
def takeDigits : Nat → List Char → Nat × Nat
  | n, [] => (n, 0)
  | n, c :: rest =>
    let next := 10 * n + (c.toNat - '0'.toNat)
    if next < UInt64.size then takeDigits next rest else (n, rest.length + 1)

/-- Divides by `10 ^ places`, 308 powers at a time; a 64-bit significand is zero after three. -/
def scaleDown (x : Float) (places : Nat) : Nat → Float
  | 0 => 0.0
  | fuel + 1 =>
    if places ≤ 308 then x / Float.ofScientific 1 false places
    else scaleDown (x / 1e308) (places - 308) fuel

/-- `n * 10 ^ e` as a double, if there is one. -/
def scale (n : Nat) (e : Int) : Option Float :=
  let x := n.toUInt64.toFloat
  if n = 0 then some 0.0
  else if e < 0 then some (scaleDown x (-e).toNat 4)
  else if 308 < e then none
  else
    let y := x * Float.ofScientific 1 false e.toNat
    if y.isInf then none else some y

/-- The double that the parts stand for. -/
def double (p : Parts) : Option Float :=
  let (whole, skipped) := takeDigits 0 p.whole
  let (n, left) := takeDigits whole p.fraction
  let e := p.exponent + skipped - (p.fraction.length - left : Nat)
  (scale n e).map fun x => if p.negative then -x else x

/-- Reads a number word. -/
def ofWord? (word : List Char) : Option Number :=
  (parts? word).map fun p =>
    let n : Int := if p.negative then -(ofDigits p.whole : Int) else ofDigits p.whole
    let fits := if p.negative then n ≠ 0 ∧ -0x8000000000000000 ≤ n else n < UInt64.size
    if p.plain ∧ fits then int n else real (double p)

end Number

end RegionScript.Document
