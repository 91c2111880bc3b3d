import RegionScript.CommandLine.Help
import RegionScript.Registry
import RegionScript.Seed
import RegionScript.Settings

/-!
What commands print: the findings of a validation and the contents of a store.
-/

namespace RegionScript.CommandLine

open Text

/-- A list of words in braces. -/
def braced (l : List UInt32) : String := "\x7b" ++ ", ".intercalate (l.map toString) ++ "\x7d"

/-- The line of a table, and one line for each row that was dropped. -/
def tableLines (r : LoadReport) : List String :=
  let loaded := rightColumn 6 (toString r.loaded)
  let rejected := rightColumn 5 (toString r.rejected.length)
  let unknown := rightColumn 5 (toString r.unknownIds.length)
  s!"  {leftColumn 40 r.table} {loaded} loaded {rejected} rejected {unknown} unknown ids"
    :: r.rejected.map fun x => s!"      id {x.id} command {x.command}: {x.reason.message}"

/-- The quests to be corrected, if there are any. -/
def correctionLines (quests : List UInt32) : List String :=
  if quests.isEmpty then []
  else [s!"Quests needing the exploration/event flag: {braced quests}"]

/-- The texts that are missing, and how many are never said. -/
def textLines (r : TextReport) : List String :=
  r.missing.map (fun m => s!"Missing text {m.text} referenced by {m.table} id {m.script}") ++
    if r.unused.isEmpty then [] else [s!"Unused script texts: {r.unused.length}"]

/-- The findings of a validation. -/
def validationReport (names : UInt32) (r : RegistryReport) : String :=
  ofLines (["Script tables:"] ++ r.tables.flatMap tableLines
    ++ correctionLines r.corrections.toList ++ textLines r.texts
    ++ [s!"Total: {r.loadedRows} rows loaded, {r.rejectedRows} rejected, {names} script names"])

/-- The tables of a store with their sizes. -/
def storedTables {ν : Type} (s : Store ν) : List String :=
  match s.tableNames.toList with
  | [] => ["No script rows stored."]
  | tables =>
    tables.map fun t => s!"  {leftColumn 40 t} {rightColumn 6 (toString (s.rowCount t))} rows"

/-- The module that the settings name. -/
def moduleLines (m : ModuleSettings) : List String :=
  match m.library with
  | none => []
  | some library => [s!"Configured module: {library} (revision {m.revision})"]

/-- The contents of the store that the settings name. -/
def statusReport {ν : Type} (settings : Settings) (s : Store ν) : Except StoreError String := do
  let triggers ← s.bindings Store.areaTriggerKind
  let events ← s.bindings Store.eventKind
  let names ← s.names
  return ofLines (
    [s!"{programName} v{programVersion}", s!"Store: {settings.storage.store}"] ++ storedTables s ++
    [s!"Bindings: {triggers.length} {Store.areaTriggerKind}, {events.length} {Store.eventKind}",
      s!"Module script names: {names.length}"] ++ moduleLines settings.modules)

/-- What an import has written. -/
def importReport (s : ImportSummary) : String :=
  ofLines [s!"Imported {s.rows} rows into {s.tables} tables "
    ++ s!"({s.bindings} trigger bindings, {s.nameLists} name lists)"]

end RegionScript.CommandLine
