import RegionScript.CommandLine.Disk
import RegionScript.CommandLine.Report

/-!
Running what the command line asks for.

Every command but the first reads the settings before anything else, and from then on a log file is
there if the settings name one. Lines are added to the log at the time at which they arise, so that
a command which reads its own log file as something else finds in it what it has logged so far.
Without a log file the lines go to where errors are printed. A command ends at its first failure;
what a validation has found is printed also when the findings themselves make it fail.
-/

namespace RegionScript.CommandLine

/-- Why a command failed. -/
inductive Failure where
  | settingsUnreadable (path : String) (reason : DiskError)
  | settingsMalformed (path : String)
  | settingsUnwritable (path : String) (reason : DiskError)
  | disk (reason : DiskError)
  | dataFolder (reason : DiskError)
  | seedMalformed (path : String)
  | catalogMalformed
  | options (reason : OptionsError)
  | store (reason : StoreError)
  | rowsRejected (count : Nat)

/-- The reason in words. -/
def Failure.message : Failure → String
  | settingsUnreadable path e => s!"Failed to read config file {path}: {e.message}"
  | settingsMalformed path => s!"Failed to parse config file {path}: malformed settings"
  | settingsUnwritable path e => s!"Failed to write config file {path}: {e.message}"
  | disk e => s!"io error: {e.message}"
  | dataFolder e => e.message
  | seedMalformed path => s!"io error: Failed to parse {path}: malformed seed"
  | catalogMalformed => "json error: malformed catalog"
  | options e => e.message
  | store e => e.message
  | rowsRejected n => s!"{n} script rows were rejected"

/-- What a command printed, and why it failed if it did. -/
structure Ending where
  output : String
  failure : Option Failure := none

variable {m : Type → Type} [Monad m]

/-- A command, which may use a disk, log lines without a file, and fail. -/
abbrev Running (m : Type → Type) := ExceptT Failure (StateT (List String) m)

/-- A use of the disk whose error is told in a certain way. -/
def reach {α : Type} (tell : DiskError → Failure) (x : m (Except DiskError α)) : Running m α := do
  match ← (x : m (Except DiskError α)) with
  | .ok a => return a
  | .error e => throw (tell e)

/-- A value, or the failure that there is none. -/
def orFail {α : Type} (f : Failure) : Option α → Running m α
  | some a => return a
  | none => throw f

/-! ### The log -/

/-- How much detail a level stands for. -/
def LogLevel.detail : LogLevel → Nat
  | .error => 1
  | .warn => 2
  | .info => 3
  | .debug => 4

/-- The detail that is usual, and that stands for a level without a meaning. -/
def usualDetail : Nat := 3

/-- The detail that a level in the settings stands for. -/
def detailOf (level : String) : Nat :=
  match level.toLower with
  | "off" => 0
  | "error" => 1
  | "warn" => 2
  | "debug" => 4
  | "trace" => 5
  | _ => usualDetail

/-- The detail of the settings, unless the command line asks for a certain one. -/
def wantedDetail (configured : Nat) : Nat → Nat
  | 0 => configured
  | 1 => 4
  | _ => 5

/-- Where a command logs, and in how much detail. -/
structure Journal where
  file : Option String
  detail : Nat

/-- A line of the log, behind the time. -/
def logText (l : LogLine) : String :=
  let level :=
    match l.level with
    | .error => "ERROR"
    | .warn => "WARN"
    | .info => "INFO"
    | .debug => "DEBUG"
  s!"[{level}] {l.target}: {l.message}"

/-- Adds the wanted lines to the log. -/
def note (disk : Disk m) (j : Journal) (log : List LogLine) : Running m Unit := do
  let wanted := (log.filter fun l => LogLevel.detail l.level ≤ j.detail).map logText
  match j.file with
  | none => modify (· ++ wanted)
  | some file => (disk.appendLines file wanted : m Unit)

/-- The log of a command that has no settings yet. -/
def bareJournal (verbosity : Nat) : Journal := ⟨none, wantedDetail usualDetail verbosity⟩

/-- Begins to log as the settings say; a log file that cannot be used is done without. -/
def beginLog (disk : Disk m) (s : LoggingSettings) (verbosity : Nat) : Running m Journal := do
  let detail := wantedDetail (detailOf s.level) verbosity
  match s.file with
  | none => return ⟨none, detail⟩
  | some file =>
    if ← (disk.prepareLog file : m Bool) then return ⟨some file, detail⟩
    else return ⟨none, detail⟩

/-! ### What commands use -/

/-- The settings of a file. -/
def settingsOf (disk : Disk m) (path : String) : Running m Settings := do
  let contents ← reach (.settingsUnreadable path) (disk.readText path)
  orFail (.settingsMalformed path) (Settings.read? contents)

def seedOf (disk : Disk m) (path : String) : Running m Seed := do
  let contents ← reach .disk (disk.readText path)
  orFail (.seedMalformed path) (Seed.read? contents)

/-- What reading a catalog logs. -/
def catalogLine (path : String) (c : Catalog) : LogLine :=
  ⟨.info, "dbscripts::world::catalog",
    s!"Loaded game catalog from {path} ({c.creatureTemplates.size} creatures, "
      ++ s!"{c.gameObjectTemplates.size} objects, {c.quests.size} quests, {c.spells.size} spells)"⟩

/-- The catalog that the settings name; an empty one when they name none. -/
def catalogOf (disk : Disk m) (j : Journal) (s : ScriptSettings) : Running m Catalog := do
  match s.catalogPath with
  | none =>
    note disk j [⟨.warn, programName,
      "No scripts.catalog_path configured; validating against an empty catalog"⟩]
    return {}
  | some path =>
    let contents ← reach .disk (disk.readText path)
    let c ← orFail .catalogMalformed (Catalog.read? contents)
    note disk j [catalogLine path c]
    return c

/-- What opening a store logs. -/
def storeLines (s : Store Blocks) : List LogLine :=
  [⟨.debug, "store", s!"found {s.rowRecords.size} rows"⟩,
    ⟨.debug, "store", s!"next row number {s.nextNumber}"⟩]

/-- Opens the store. -/
def storeOf (disk : Disk m) (j : Journal) (s : Settings) : Running m (Store Blocks) := do
  let store ← reach .disk (disk.openStore s.storage.store)
  note disk j (storeLines store)
  return store

/-! ### Commands -/

/-- A line about what the program does. -/
def progress (message : String) : LogLine := ⟨.info, programName, message⟩

/-- Writes the settings of a new installation and makes its store. -/
def runInit (disk : Disk m) (j : Journal) (path : String) : Running m Ending := do
  note disk j [progress s!"Initializing new {programName} configuration"]
  reach (.settingsUnwritable path) (disk.writeText path Settings.initialFile)
  note disk j [progress s!"Configuration file created at {path}"]
  let s ← settingsOf disk path
  reach .dataFolder (disk.makeFolder s.storage.dataFolder)
  let _ ← storeOf disk j s
  note disk j [progress s!"Script store ready at {s.storage.store}"]
  return { output := ofLines [s!"Created {path} and {s.storage.store}"] }

/-- What an import logs. -/
def importLine (s : ImportSummary) : LogLine :=
  ⟨.info, loadTarget, s!"Imported {s.rows} rows into {s.tables} tables, "
    ++ s!"{s.bindings} trigger bindings, {s.nameLists} name lists"⟩

def runImport (disk : Disk m) (j : Journal) (s : Settings) (path : String) (replacing : Bool) :
    Running m Ending := do
  let store ← storeOf disk j s
  let seed ← seedOf disk path
  let (summary, store) := store.importSeed seed replacing
  disk.saveStore s.storage.store store
  note disk j [importLine summary]
  return { output := importReport summary }

/-- The rows that a validation is about: those of a seed, or those of the store. -/
def validated (disk : Disk m) (j : Journal) (s : Settings) : Option String → Running m RowSource
  | some path => do return (← seedOf disk path).toMemory.source
  | none => do return (← storeOf disk j s).source

def runValidate (disk : Disk m) (j : Journal) (s : Settings) (seed : Option String)
    (denyRejections : Bool) : Running m Ending := do
  let options ←
    match s.scripts.options with
    | .ok o => pure o
    | .error e => throw (.options e)
  let catalog ← catalogOf disk j s.scripts
  let built := Registry.build (← validated disk j s seed) catalog options
  note disk j built.log
  match built.result with
  | .error e => throw (.store e)
  | .ok (registry, report) =>
    let rejected := report.rejectedRows
    let denied := denyRejections && 0 < rejected
    return {
      output := validationReport registry.names.count report
      failure := if denied then some (.rowsRejected rejected) else none }

def runStatus (disk : Disk m) (j : Journal) (s : Settings) : Running m Ending := do
  let store ← storeOf disk j s
  match statusReport s store with
  | .ok output => return { output }
  | .error e => throw (.store e)

/-- Runs a task under a settings path. -/
def runTask (disk : Disk m) (path : String) (verbosity : Nat) : Task → Running m Ending
  | .init => runInit disk (bareJournal verbosity) path
  | task => do
    let s ← settingsOf disk path
    let j ← beginLog disk s.logging verbosity
    match task with
    | .importSeed seed replacing => runImport disk j s seed replacing
    | .validate seed denyRejections => runValidate disk j s seed denyRejections
    | .status | .init => runStatus disk j s

/-! ### Exits -/

/-- What the program leaves behind: its exit code and what it printed. -/
structure Exit where
  code : UInt32
  output : String := ""
  /-- The lines of the log for which there is no file. -/
  log : List String := []
  error : String := ""
  deriving DecidableEq

/-- What is printed where errors are, but for the times. -/
def Exit.diagnostics (e : Exit) : String := ofLines e.log ++ e.error

/-- A failed command exits with one. -/
def Ending.exit (e : Ending) (log : List String) : Exit :=
  match e.failure with
  | none => { code := 0, output := e.output, log }
  | some f => { code := 1, output := e.output, log, error := ofLines [s!"Error: {f.message}"] }

/-- The exit of a command that ended or failed. -/
def exitOf (log : List String) : Except Failure Ending → Exit
  | .ok e => e.exit log
  | .error f => Ending.exit { output := "", failure := some f } log

/-- Does what a command line asks for; one that asks for nothing sensible exits with two. -/
def Request.perform (disk : Disk m) : Request → m Exit
  | .run path verbosity task => do
    let (ending, log) ← (runTask disk path verbosity task).run.run []
    return exitOf log ending
  | .help topic => return { code := 0, output := helpText topic }
  | .version => return { code := 0, output := versionText }
  | .misuse fault =>
    return { code := 2, error := ofLines [s!"error: {fault.message}", "", "Try '--help'."] }

/-- Runs the program with its arguments. -/
def perform (disk : Disk m) (arguments : List String) : m Exit :=
  (Request.ofArguments arguments).perform disk

end RegionScript.CommandLine
