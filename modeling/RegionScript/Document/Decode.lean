import RegionScript.Document.Json
import RegionScript.OrderedMap
import RegionScript.Single

/-!
Typed reading of document values.

A value is read as the type that is asked for or not at all: an integer has to be written as one
and be in range, a number may be any that can be held, a missing value has a default or is an error.
A record is written as an object, in which members that the record does not know are passed over,
whatever they hold, and those it knows come once, or as an array of its columns in order, in which
the last may be left out if they have defaults.
-/

namespace RegionScript.Document

namespace Json

def toInt? : Json → Option Int
  | number (.int n) => some n
  | _ => none

def toUInt64? (v : Json) : Option UInt64 := do
  let n ← v.toInt?
  guard (0 ≤ n ∧ n < UInt64.size)
  some (UInt64.ofNat n.toNat)

def toUInt32? (v : Json) : Option UInt32 := do
  let n ← v.toInt?
  guard (0 ≤ n ∧ n < UInt32.size)
  some (UInt32.ofNat n.toNat)

def toUInt8? (v : Json) : Option UInt8 := do
  let n ← v.toInt?
  guard (0 ≤ n ∧ n < UInt8.size)
  some (UInt8.ofNat n.toNat)

def toInt32? (v : Json) : Option Int32 := do
  let n ← v.toInt?
  guard (-0x80000000 ≤ n ∧ n < 0x80000000)
  some (Int32.ofInt n)

/-- Any number that a double can hold, rounded to a single. -/
def toSingle? : Json → Option Single
  | number (.int n) =>
    let x := n.natAbs.toUInt64.toFloat32
    some (.ofFloat (if n < 0 then -x else x))
  | number (.real (some x)) => some (.ofDouble x)
  | _ => none

/-- Any number that a double can hold, made a double and then rounded to a single. -/
def toCoordinate? : Json → Option Single
  | number (.int n) => some (.ofDouble (.ofInt n))
  | number (.real (some x)) => some (.ofDouble x)
  | _ => none

def toText? : Json → Option String
  | text s => some s
  | _ => none

def toBool? : Json → Option Bool
  | bool b => some b
  | _ => none

/-- An array whose elements all read. -/
def toList? {α : Type} (element : Json → Option α) : Json → Option (List α)
  | array vs => vs.mapM element
  | _ => none

/-- A name out of a list of names, alone or as the key of the only member of an object, which is
null. -/
def toName? {α : Type} (names : List (String × α)) : Json → Option α
  | text s => names.lookup s
  | object [(key, null)] => key.text.bind (List.lookup · names)
  | _ => none

/-- A name in one of the forms of `toName?`, or with an empty object in place of null. -/
def toBlankName? {α : Type} (names : List (String × α)) : Json → Option α
  | object [(key, object [])] => key.text.bind (List.lookup · names)
  | v => v.toName? names

/-- Null, or a value. -/
def toOption? {α : Type} (value : Json → Option α) : Json → Option (Option α)
  | null => some none
  | v => (value v).map some

/-- An object as a map; of a key written twice the last value stays. -/
def toMap? {κ α : Type} [Ord κ] [Std.TransOrd κ] [Std.LawfulEqOrd κ]
    (key : Key → Option κ) (value : Json → Option α) : Json → Option (OrderedMap κ α)
  | object members => do
    let entries ← members.mapM fun m => do some ((← key m.1), (← value m.2))
    some (.ofList entries)
  | _ => none

/-- A key that is a number: it is read as it is written, so that it may hold no escape. -/
def toNumber? (key : Key) : Option Json := do
  guard key.plain
  (Number.ofWord? (← key.text).toList).map number

/-- A key that is a word. -/
def wordKey? (key : Key) : Option UInt32 := (toNumber? key).bind toUInt32?

/-- A key that is a signed word. -/
def signedKey? (key : Key) : Option Int32 := (toNumber? key).bind toInt32?

/-- The columns of a record, by name or by place; an absent column is none. -/
def columns? (names : List String) : Json → Option (List (Option Json))
  | object members => do
    guard (members.all (·.1.text.isSome))
    names.mapM fun n =>
      match members.filter (·.1.text = some n) with
      | [] => some none
      | [m] => some (some m.2)
      | _ => none
  | array vs =>
    if vs.length ≤ names.length then
      some (vs.map some ++ List.replicate (names.length - vs.length) none)
    else none
  | _ => none

/-- A member of an object, the last of its name; null counts as absent. -/
def member? (v : Json) (name : String) : Option Json :=
  match v with
  | object members =>
    match members.reverse.find? (·.1.text = some name) with
    | some (_, null) => none
    | found => found.map (·.2)
  | _ => none

/-- A member that may be left out. -/
def memberOr {α : Type} (default : α) (value : Json → Option α) (v : Json) (name : String) :
    Option α :=
  match v.member? name with
  | none => some default
  | some m => value m

/-- A column that has to be there. -/
def required {α : Type} (value : Json → Option α) (column : Option Json) : Option α :=
  column.bind value

/-- A column that may be left out. -/
def optional {α : Type} (default : α) (value : Json → Option α) (column : Option Json) : Option α :=
  match column with
  | none => some default
  | some v => value v

mutual

/-- A value that has been taken in: how its keys were written is forgotten, and of several members
of one key only the last is left. -/
def settled : Json → Json
  | array vs => array (allSettled vs)
  | object ms =>
    object ((OrderedMap.ofList (membersSettled ms)).entries.map fun m => (.ofText m.1, m.2))
  | v => v

def allSettled : List Json → List Json
  | [] => []
  | v :: rest => settled v :: allSettled rest

def membersSettled : List (Key × Json) → List (String × Json)
  | [] => []
  | (k, v) :: rest => (k.text.getD "", settled v) :: membersSettled rest

end

/-- Reads a document all of which is used. -/
def readWhole? (s : String) : Option Json := do
  let v ← read? s
  guard (v.isSound depthLimit)
  some v.settled

end Json

end RegionScript.Document
