import RegionScript.Document.Decode

/-!
Values as document values, the way back from `Decode`.
-/

namespace RegionScript.Document.Json

def ofInt (n : Int) : Json := number (.int n)

def ofNat (n : Nat) : Json := ofInt n

def ofUInt8 (n : UInt8) : Json := ofNat n.toNat

def ofUInt32 (n : UInt32) : Json := ofNat n.toNat

def ofUInt64 (n : UInt64) : Json := ofNat n.toNat

def ofInt32 (n : Int32) : Json := ofInt n.toInt

/-- Null for no value. -/
def ofOption {α : Type} (value : α → Json) (a : Option α) : Json :=
  match a with
  | some a => value a
  | none => null

def ofList {α : Type} (element : α → Json) (l : List α) : Json := array (l.map element)

/-- An object with keys that are texts. -/
def record (members : List (String × Json)) : Json :=
  object (members.map fun m => (.ofText m.1, m.2))

/-- A map as an object, in the order of its keys. -/
def ofMap {κ α : Type} [Ord κ] (key : κ → String) (value : α → Json) (m : OrderedMap κ α) : Json :=
  record (m.entries.map fun e => (key e.1, value e.2))

end RegionScript.Document.Json
