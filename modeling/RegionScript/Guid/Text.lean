import RegionScript.Document.Number
import RegionScript.Guid

/-!
Identities as texts: the kind, the entry and the counter with colons between them.
-/

namespace RegionScript

namespace ObjectKind

def all : List ObjectKind := [creature, pet, player, gameObject, corpse, item]

/-- The word for a kind. -/
def word : ObjectKind → String
  | creature => "creature"
  | pet => "pet"
  | player => "player"
  | gameObject => "game_object"
  | corpse => "corpse"
  | item => "item"

def ofWord? (s : String) : Option ObjectKind := all.find? (·.word = s)

theorem ofWord?_word (k : ObjectKind) : ofWord? k.word = some k := by
  cases k <;> decide

end ObjectKind

namespace Guid

def toText (g : Guid) : String := s!"{g.kind.word}:{g.entry}:{g.counter}"

/-- A word written in decimal digits, which may follow a plus sign. -/
def part? (s : String) : Option UInt32 :=
  let digits := match s.toList with
    | '+' :: rest => rest
    | cs => cs
  let n := Document.Number.ofDigits digits
  if digits ≠ [] ∧ digits.all Char.isDigit ∧ n < UInt32.size then some (UInt32.ofNat n) else none

/-- The identity that a text names. -/
def ofText? (s : String) : Option Guid :=
  match s.splitOn ":" with
  | [kind, entry, counter] => do some ⟨← ObjectKind.ofWord? kind, ← part? entry, ← part? counter⟩
  | _ => none

end Guid

end RegionScript
