import RegionScript.Load.Table

/-!
The cross-check between talking scripts and the texts of the game data.
-/

namespace RegionScript

/-- A text that a script says but that is not there. -/
structure MissingText where
  table : String
  script : UInt32
  text : Int32
  deriving DecidableEq

/-- Texts that are said but not there, and texts that are there but never said. -/
structure TextReport where
  missing : List MissingText := []
  unused : List Int32 := []
  deriving DecidableEq

namespace ScriptTable

/-- The texts that the talk commands of a table say, with the scripts that say them. -/
def spokenTexts (t : ScriptTable) : List (UInt32 × Int32) :=
  t.scripts.entries.flatMap fun (id, script) =>
    (script.filter (·.kind = .talk)).flatMap fun c => c.populatedTexts.map fun text => (id, text)

end ScriptTable

namespace Loader

/-- The spoken texts of a table that are not there. -/
def missingTexts (l : Loader) (t : ScriptTable) : List MissingText :=
  (t.spokenTexts.filter fun (_, text) => !l.catalog.texts.contains text).map fun (id, text) =>
    ⟨t.name, id, text⟩

/-- The texts of the game data that lie in the range of the options. -/
def availableTexts (l : Loader) : OrderedSet Int32 :=
  .ofList ((l.catalog.texts.values.map (·.id)).filter l.options.admits)

/-- Compares what is said in a list of tables with what is there. -/
def textReport (l : Loader) (tables : List ScriptTable) : TextReport :=
  let spoken := OrderedSet.ofList (tables.flatMap fun t => t.spokenTexts.map (·.2))
  { missing := tables.flatMap l.missingTexts
    unused := l.availableTexts.toList.filter fun text => !spoken.contains text }

/-- What the cross-check logs. -/
def textLog (r : TextReport) : List LogLine :=
  r.missing.map (fun m =>
    ⟨.warn, loadTarget,
      s!"Table `db_script_string` is missing string id {m.text}, used in database script table "
        ++ s!"{m.table} id {m.script}."⟩) ++
  r.unused.map fun text =>
    ⟨.warn, loadTarget, s!"Table `db_script_string` has unused string id {text}"⟩

end Loader

end RegionScript
