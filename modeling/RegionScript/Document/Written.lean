/-!
Texts as they are written in a document, between their quotes.

A text is written in characters and escapes, and an escape stands for a unit of 16 bits. Two halves
of a pair, one behind the other, are one character. A half alone is none, so that not everything
written is a text.
-/

namespace RegionScript.Document

/-- One part of a written text. -/
inductive Written where
  /-- A character that stands for itself. -/
  | plain (c : Char)
  /-- The unit that an escape stands for. -/
  | escape (unit : Nat)

namespace Written

def isPlain : Written → Bool
  | plain _ => true
  | escape _ => false

def isFirstHalf (unit : Nat) : Bool := 0xd800 ≤ unit && unit < 0xdc00

def isSecondHalf (unit : Nat) : Bool := 0xdc00 ≤ unit && unit < 0xe000

/-- The character of two halves. -/
def joined (first second : Nat) : Char :=
  Char.ofNat (0x10000 + (first - 0xd800) * 0x400 + (second - 0xdc00))

/-- The reader of written text: its characters so far, in reverse, and a first half that waits for
the second. -/
structure Decoder where
  characters : List Char := []
  half : Option Nat := none

/-- Reads one part. -/
def Decoder.step (d : Decoder) (w : Written) : Option Decoder :=
  match d.half, w with
  | none, plain c => some { d with characters := c :: d.characters }
  | none, escape unit =>
    if isFirstHalf unit then some { d with half := some unit }
    else if isSecondHalf unit then none
    else some { d with characters := Char.ofNat unit :: d.characters }
  | some first, escape unit =>
    if isSecondHalf unit then some { characters := joined first unit :: d.characters } else none
  | some _, plain _ => none

/-- The text that is written, if every half has its partner. -/
def text? (written : List Written) : Option String := do
  let d ← written.foldlM Decoder.step {}
  guard d.half.isNone
  some (String.ofList d.characters.reverse)

end Written

end RegionScript.Document
