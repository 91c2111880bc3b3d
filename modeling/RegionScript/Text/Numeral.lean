/-!
Numerals and columns as messages, keys and reports write them.
-/

namespace RegionScript.Text

/-- A number in hexadecimal with its `0x`, lower case. -/
def hex (n : Nat) : String := "0x" ++ String.ofList (Nat.toDigits 16 n)

/-- Decimal digits, with zeros in front up to `width`. -/
def zeroPadded (width n : Nat) : List Char :=
  let digits := Nat.toDigits 10 n
  List.replicate (width - digits.length) '0' ++ digits

/-- The text with blanks behind it up to `width` characters. -/
def leftColumn (width : Nat) (s : String) : String :=
  s ++ String.ofList (List.replicate (width - s.length) ' ')

/-- The text with blanks before it up to `width` characters. -/
def rightColumn (width : Nat) (s : String) : String :=
  String.ofList (List.replicate (width - s.length) ' ') ++ s

end RegionScript.Text
