import RegionScript.Seed
import RegionScript.Settings
import RegionScript.View.Script

/-!
Views of seeds and settings.
-/

namespace RegionScript

open Document

def Seed.view (s : Seed) : Json :=
  .record [
    ("tables", .ofMap id (.ofList Row.view) s.tables),
    ("area_triggers", .ofList NamedScript.view s.areaTriggers),
    ("event_ids", .ofList NamedScript.view s.eventIds),
    ("script_names", .ofMap id viewTexts s.scriptNames),
    ("row_count", .ofNat s.rowCount),
    ("source_names", viewTexts s.toMemory.names)]

def ImportSummary.view (s : ImportSummary) : Json :=
  .ofList .ofNat [s.tables, s.rows, s.bindings, s.nameLists]

def RegistryOptions.view (o : RegistryOptions) : Json :=
  .record [
    ("strict", .bool o.loader.strict),
    ("min", .ofInt32 o.loader.minText),
    ("max", .ofInt32 o.loader.maxText),
    ("tables", viewTexts (TableKind.all.map o.tableName))]

/-- A member that is left out when it has no value. -/
def viewPresent (name : String) (value : Option String) : List (String × Json) :=
  match value with
  | some s => [(name, .text s)]
  | none => []

def Settings.view (s : Settings) : Json :=
  .record [
    ("storage", .record (("data_dir", .text s.storage.dataFolder)
      :: viewPresent "db_path" s.storage.storePath)),
    ("logging", .record [
      ("level", .text s.logging.level),
      ("file", .ofOption .text s.logging.file)]),
    ("scripts", .record ([
      ("strict_checks", .bool s.scripts.strict),
      ("min_text_id", .ofInt32 s.scripts.minText),
      ("max_text_id", .ofInt32 s.scripts.maxText),
      ("tables", .ofMap id .text s.scripts.tables)]
      ++ viewPresent "catalog_path" s.scripts.catalogPath)),
    ("modules", .record (("revision", .text s.modules.revision)
      :: viewPresent "library" s.modules.library))]

end RegionScript
