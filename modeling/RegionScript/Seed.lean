import RegionScript.Store.Basic

/-!
Seeds: documents that hold the content of a script store.
-/

namespace RegionScript

/-- Rows by table, bindings, and script names by owner. -/
structure Seed where
  tables : OrderedMap String (List Row) := ∅
  areaTriggers : List NamedScript := []
  eventIds : List NamedScript := []
  scriptNames : OrderedMap String (List String) := ∅

/-- How much an import has written. -/
structure ImportSummary where
  tables : Nat := 0
  rows : Nat := 0
  bindings : Nat := 0
  nameLists : Nat := 0
  deriving DecidableEq

namespace Seed

open Document Document.Json in
/-- Every part of a seed may be left out. -/
def ofJson? (v : Json) : Option Seed := do
  let [tables, triggers, events, names] ←
    v.columns? ["tables", "area_triggers", "event_ids", "script_names"] | none
  some {
    tables := ← optional ∅ (toMap? Key.text (toList? Row.ofJson?)) tables
    areaTriggers := ← optional [] (toList? NamedScript.ofJson?) triggers
    eventIds := ← optional [] (toList? NamedScript.ofJson?) events
    scriptNames := ← optional ∅ (toMap? Key.text (toList? toText?)) names }

/-- Reads the text of a seed file. -/
def read? (contents : String) : Option Seed := (Document.Json.read? contents).bind ofJson?

def rowCount (s : Seed) : Nat := s.tables.values.flatten.length

/-- The seed as rows in memory. -/
def toMemory (s : Seed) : MemorySource :=
  { tables := s.tables, areaTriggers := s.areaTriggers, eventIds := s.eventIds,
    names := s.scriptNames.values.flatten }

end Seed

namespace Store

variable {ν : Type}

/-- Writes the rows of one table, behind or in place of those already there. -/
def importTable [Numbering ν] (replacing : Bool) (a : ImportSummary × Store ν)
    (table : String × List Row) : ImportSummary × Store ν :=
  let (written, s) :=
    if replacing then a.2.replace table.1 table.2 else a.2.append table.1 table.2
  ({ a.1 with rows := a.1.rows + written, tables := a.1.tables + 1 }, s)

def importBinding (kind : String) (a : ImportSummary × Store ν) (b : NamedScript) :
    ImportSummary × Store ν :=
  ({ a.1 with bindings := a.1.bindings + 1 }, a.2.bind kind b.id b.scriptName)

def importNames (a : ImportSummary × Store ν) (e : String × List String) :
    ImportSummary × Store ν :=
  ({ a.1 with nameLists := a.1.nameLists + 1 }, a.2.putNames e.1 e.2)

/-- Writes a seed into the store, and tells how much of it. -/
def importSeed [Numbering ν] (s : Store ν) (seed : Seed) (replacing : Bool) :
    ImportSummary × Store ν :=
  let a := seed.tables.entries.foldl (importTable replacing) ({}, s)
  let a := seed.areaTriggers.foldl (importBinding areaTriggerKind) a
  let a := seed.eventIds.foldl (importBinding eventKind) a
  seed.scriptNames.entries.foldl importNames a

end Store

end RegionScript
