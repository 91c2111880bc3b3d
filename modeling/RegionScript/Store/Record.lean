import RegionScript.Script.Row

/-!
Records of the store as bytes.

Numbers are little endian and of fixed width; a text or a list is preceded by its length as a 64-bit
number. A record ends where its last field ends, and what follows it is ignored.
-/

namespace RegionScript

abbrev Bytes := List UInt8

/-- A binding as stored. -/
structure BindingRecord where
  version : UInt8
  id : UInt32
  scriptName : String
  deriving DecidableEq

/-- The script names that one part of the game data refers to, as stored. -/
structure NameListRecord where
  version : UInt8
  owner : String
  names : List String
  deriving DecidableEq

namespace Bytes

/-! ### Writing -/

/-- The lowest `width` bytes of a number, the lowest one first. -/
def ofNat : Nat → Nat → Bytes
  | 0, _ => []
  | width + 1, n => UInt8.ofNat (n % 256) :: ofNat width (n / 256)

def ofUInt32 (n : UInt32) : Bytes := ofNat 4 n.toNat

def ofInt32 (n : Int32) : Bytes := ofUInt32 n.toUInt32

def ofSingle (x : Single) : Bytes := ofUInt32 x.bits

/-- A length. -/
def ofLength (n : Nat) : Bytes := ofNat 8 n

/-- The length in bytes, then the bytes. -/
def ofText (s : String) : Bytes := ofLength s.utf8ByteSize ++ s.toUTF8.data.toList

/-- The number of texts, then the texts. -/
def ofTexts (l : List String) : Bytes := ofLength l.length ++ l.flatMap ofText

/-! ### Reading -/

/-- Takes a value off the front of some bytes, if they hold one. -/
abbrev Taking (α : Type) := StateT Bytes Option α

def takeByte : Taking UInt8 := fun
  | [] => none
  | b :: rest => some (b, rest)

/-- A number of `width` bytes. -/
def takeNat : Nat → Taking Nat
  | 0 => return 0
  | width + 1 => do
    let low ← takeByte
    return low.toNat + 256 * (← takeNat width)

def takeUInt32 : Taking UInt32 := return UInt32.ofNat (← takeNat 4)

def takeInt32 : Taking Int32 := return (← takeUInt32).toInt32

def takeSingle : Taking Single := return ⟨← takeUInt32⟩

/-- Exactly `n` bytes. -/
def takeBytes (n : Nat) : Taking Bytes := fun bytes =>
  if n ≤ bytes.length then some (bytes.take n, bytes.drop n) else none

/-- A text; its bytes have to be well-formed UTF-8. -/
def takeText : Taking String := do
  let bytes ← takeBytes (← takeNat 8)
  StateT.lift (String.fromUTF8? ⟨bytes.toArray⟩)

/-- As many texts as are asked for. -/
def takeMany : Nat → Taking (List String)
  | 0 => return []
  | n + 1 => do
    let s ← takeText
    return s :: (← takeMany n)

def takeTexts : Taking (List String) := do takeMany (← takeNat 8)

/-- The value at the front of some bytes. -/
def read? {α : Type} (value : Taking α) (bytes : Bytes) : Option α := (value bytes).map (·.1)

end Bytes

open Bytes

namespace Position

def toBytes (p : Position) : Bytes := ofSingle p.x ++ ofSingle p.y ++ ofSingle p.z ++ ofSingle p.o

def take : Taking Position :=
  return ⟨← takeSingle, ← takeSingle, ← takeSingle, ← takeSingle⟩

end Position

namespace Row

/-- The columns of a row one after the other. -/
def toBytes (r : Row) : Bytes :=
  r.schemaVersion :: (ofUInt32 r.id ++ ofUInt32 r.delay ++ ofUInt32 r.command ++ ofUInt32 r.data
    ++ ofUInt32 r.data2 ++ ofUInt32 r.buddyEntry ++ ofUInt32 r.searchRadius ++ ofUInt32 r.flags
    ++ r.texts.toList.flatMap ofInt32 ++ r.position.toBytes)

def take : Taking Row :=
  return {
    schemaVersion := ← takeByte
    id := ← takeUInt32
    delay := ← takeUInt32
    command := ← takeUInt32
    data := ← takeUInt32
    data2 := ← takeUInt32
    buddyEntry := ← takeUInt32
    searchRadius := ← takeUInt32
    flags := ← takeUInt32
    texts := slots (← takeInt32) (← takeInt32) (← takeInt32) (← takeInt32)
    position := ← Position.take }

def ofBytes? (bytes : Bytes) : Option Row := read? take bytes

end Row

namespace BindingRecord

def toBytes (r : BindingRecord) : Bytes := r.version :: (ofUInt32 r.id ++ ofText r.scriptName)

def ofBytes? (bytes : Bytes) : Option BindingRecord :=
  read? (return ⟨← takeByte, ← takeUInt32, ← takeText⟩) bytes

end BindingRecord

namespace NameListRecord

def toBytes (r : NameListRecord) : Bytes := r.version :: (ofText r.owner ++ ofTexts r.names)

def ofBytes? (bytes : Bytes) : Option NameListRecord :=
  read? (return ⟨← takeByte, ← takeText, ← takeTexts⟩) bytes

end NameListRecord

end RegionScript
