import RegionScript.Load.Source
import RegionScript.Store.Numbering
import RegionScript.Store.Record
import RegionScript.Text.Numeral

/-!
The script store: rows, bindings and script names, kept as records under textual keys.

The rows of a table share the beginning of their keys and end in a number that grows with every row
stored, so that a scan in key order gives them back in the order in which they came. Tables are told
apart by their keys alone: what follows a table's name and a colon belongs to the table.

The numbers are those of any `Numbering`. What is written is counted, and so is what is removed.
-/

namespace RegionScript

/-- Keys are ordered by code points, which is the order of their bytes. -/
abbrev StoreKey := List Char

/-- Records by key. -/
abbrev RecordTree := OrderedMap StoreKey Bytes

/-- The records under keys that begin in a certain way, in key order. -/
def RecordTree.scan (t : RecordTree) (start : StoreKey) : List (StoreKey × Bytes) :=
  t.entries.filter fun e => start.isPrefixOf e.1

/-- Everything that is stored, and where the numbers of rows come from. -/
structure Store (ν : Type) where
  rowRecords : RecordTree := ∅
  bindingRecords : RecordTree := ∅
  nameRecords : RecordTree := ∅
  numbers : ν

namespace Store

variable {ν : Type}

/-- A new store. -/
instance [Numbering ν] : EmptyCollection (Store ν) := ⟨{ numbers := Numbering.start }⟩

/-- Schema versions of bindings and name lists; that of rows is with the rows. -/
def bindingVersion : UInt8 := 1
def nameListVersion : UInt8 := 1

/-- The kinds of bindings. -/
def areaTriggerKind : String := "scripted_areatrigger"
def eventKind : String := "scripted_event_id"

/-! ### Keys -/

/-- What row keys begin with. -/
def rowMark : StoreKey := "rows:".toList

/-- What the row keys of a table begin with. -/
def tableStart (table : String) : StoreKey := rowMark ++ table.toList ++ [':']

def rowKey (table : String) (sequence : Nat) : StoreKey :=
  tableStart table ++ Text.zeroPadded 20 sequence

/-- What the keys of a kind of bindings begin with. -/
def bindingStart (kind : String) : StoreKey := kind.toList ++ [':']

def bindingKey (kind : String) (id : UInt32) : StoreKey :=
  bindingStart kind ++ Text.zeroPadded 10 id.toNat

/-- What name list keys begin with. -/
def nameMark : StoreKey := "names:".toList

def nameKey (owner : String) : StoreKey := nameMark ++ owner.toList

/-! ### Rows -/

section Writing

variable [Numbering ν]

/-- The number of the next row. -/
def nextNumber (s : Store ν) : Nat := Numbering.next s.numbers

/-- Gives a row number away, whether a row is stored under it or not. -/
def takeNumber (s : Store ν) : Store ν := { s with numbers := Numbering.given s.numbers }

/-- A store that is closed and opened again holds what it held. -/
def reopen (s : Store ν) : Store ν := { s with numbers := Numbering.reopened s.numbers }

/-- Stores one row behind all others. -/
def appendRow (s : Store ν) (table : String) (row : Row) : Store ν :=
  { s.takeNumber with
    rowRecords := s.rowRecords.insert (rowKey table s.nextNumber)
      { row with schemaVersion := Row.currentVersion }.toBytes }

/-- Stores rows behind those already there, in their order, and tells how many. -/
def append (s : Store ν) (table : String) (rows : List Row) : Nat × Store ν :=
  (rows.length, rows.foldl (·.appendRow table) s)

end Writing

/-- How many rows a table has. -/
def rowCount (s : Store ν) (table : String) : Nat := (s.rowRecords.scan (tableStart table)).length

/-- Removes every row of a table, and tells how many. -/
def clear (s : Store ν) (table : String) : Nat × Store ν :=
  let keys := (s.rowRecords.scan (tableStart table)).map (·.1)
  (keys.length, { s with rowRecords := s.rowRecords.eraseAll keys })

/-- Stores rows in place of those already there, and tells how many are stored. -/
def replace [Numbering ν] (s : Store ν) (table : String) (rows : List Row) : Nat × Store ν :=
  (s.clear table).2.append table rows

/-- A record of the current schema version, or why there is none. -/
def current {α : Type} (entity : String) (version : α → UInt8) (expected : UInt8)
    (record : Option α) : Except StoreError α :=
  match record with
  | none => .error .malformedRecord
  | some r =>
    if version r = expected then .ok r
    else .error (.schemaMismatch entity expected (version r))

def readRow (bytes : Bytes) : Except StoreError Row :=
  current "script row" Row.schemaVersion Row.currentVersion (Row.ofBytes? bytes)

/-- The rows of a table in the order in which they were stored. -/
def rows (s : Store ν) (table : String) : Except StoreError (List Row) :=
  (s.rowRecords.scan (tableStart table)).mapM fun e => readRow e.2

/-- Takes off every mark at the beginning of a key. -/
def unmarked : StoreKey → StoreKey
  | 'r' :: 'o' :: 'w' :: 's' :: ':' :: rest => unmarked rest
  | key => key

/-- What is before the last colon, if there is one. -/
def beforeLastColon? (key : StoreKey) : Option StoreKey :=
  match key.reverse.dropWhile (· ≠ ':') with
  | [] => none
  | _ :: before => some before.reverse

/-- The name of the table that a row key belongs to. -/
def tableOf? (key : StoreKey) : Option String :=
  (beforeLastColon? (unmarked key)).map String.ofList

/-- The tables that have rows. -/
def tableNames (s : Store ν) : OrderedSet String :=
  .ofList ((s.rowRecords.scan rowMark).filterMap fun e => tableOf? e.1)

/-! ### Bindings -/

/-- Binds an id to a script, in place of an earlier binding. -/
def bind (s : Store ν) (kind : String) (id : UInt32) (scriptName : String) : Store ν :=
  let record : BindingRecord := ⟨bindingVersion, id, scriptName⟩
  { s with bindingRecords := s.bindingRecords.insert (bindingKey kind id) record.toBytes }

def readBinding (bytes : Bytes) : Except StoreError NamedScript :=
  (current "script binding" BindingRecord.version bindingVersion (BindingRecord.ofBytes? bytes)).map
    fun r => ⟨r.id, r.scriptName⟩

/-- The bindings of a kind, by ascending id. -/
def bindings (s : Store ν) (kind : String) : Except StoreError (List NamedScript) :=
  (s.bindingRecords.scan (bindingStart kind)).mapM fun e => readBinding e.2

/-! ### Script names -/

/-- Stores the list of names of an owner, in place of an earlier one. -/
def putNames (s : Store ν) (owner : String) (names : List String) : Store ν :=
  let record : NameListRecord := ⟨nameListVersion, owner, names⟩
  { s with nameRecords := s.nameRecords.insert (nameKey owner) record.toBytes }

/-- The list of names of an owner, of whatever schema version. -/
def namesOf (s : Store ν) (owner : String) : Except StoreError (List String) :=
  match s.nameRecords.get? (nameKey owner) with
  | none => .error (.notFound s!"script names: {owner}")
  | some bytes =>
    match NameListRecord.ofBytes? bytes with
    | none => .error .malformedRecord
    | some r => .ok r.names

def readNames (bytes : Bytes) : Except StoreError (List String) :=
  (current "script name list" NameListRecord.version nameListVersion
    (NameListRecord.ofBytes? bytes)).map (·.names)

/-- The names of all owners, in the order of the owners. -/
def names (s : Store ν) : Except StoreError (List String) :=
  ((s.nameRecords.scan nameMark).mapM fun e => readNames e.2).map List.flatten

/-- The store as a place to load scripts from. -/
def source (s : Store ν) : RowSource where
  rows := s.rows
  areaTriggers := s.bindings areaTriggerKind
  eventIds := s.bindings eventKind
  names := s.names

end Store

end RegionScript
