import RegionScript.Load.Check
import RegionScript.Load.Logged
import RegionScript.Load.Source
import RegionScript.Script.Table

/-!
Loading one table: every row is checked, the accepted ones make up the table, and what was found
goes into a report.

A row that completes a quest by exploration asks for the quest's flag to be corrected as soon as its
buddy, its flags and the quest are in order, whatever is found about its distance afterwards.
-/

namespace RegionScript

/-- A row that was dropped, and why. -/
structure RejectedRow where
  id : UInt32
  command : UInt32
  reason : Rejection
  deriving DecidableEq

/-- What loading a table found. -/
structure LoadReport where
  table : String
  /-- The number of accepted rows. -/
  loaded : Nat := 0
  rejected : List RejectedRow := []
  /-- Quests that exploration completes but that lack the flag for it. -/
  corrections : OrderedSet UInt32 := ∅
  /-- Script ids that refer to nothing. -/
  unknownIds : List UInt32 := []
  deriving DecidableEq

/-- Where lines about loading are logged. -/
def loadTarget : String := "db_scripts"

namespace Loader

/-- The quest that a command asks to be corrected. -/
def correctionOf? (l : Loader) (c : Command) : Option UInt32 :=
  match c.payload with
  | .questExplored quest _ => if l.catalog.lacksExploration quest then some quest else none
  | _ => none

/-- The command of a row whose buddy and flags are in order. -/
def wellFlagged? (l : Loader) (row : Row) : Option Command :=
  match Command.ofRow row with
  | .error _ => none
  | .ok c => if ((l.buddyFault c).or (l.flagFault c)).isNone then some c else none

/-- The quest that a row asks to be corrected. -/
def correction? (l : Loader) (row : Row) : Option UInt32 :=
  (l.wellFlagged? row).bind l.correctionOf?

/-- The warning about a quest that a row is the first to ask for. -/
def correctionLog (l : Loader) (table : String) (row : Row) (known : OrderedSet UInt32) :
    List LogLine :=
  match l.correction? row with
  | none => []
  | some quest =>
    if known.contains quest then []
    else
      [⟨.warn, loadTarget,
        s!"Table `{table}` has quest {quest} in {CommandKind.questExplored.describe} for script id "
          ++ s!"{row.id}, but the quest lacks the exploration/event flag. "
          ++ "Quest modified to require objective."⟩]

/-- Sound flags that mean something. -/
def soundFlags : UInt32 :=
  SoundFlag.targetPlayer ||| SoundFlag.distance ||| SoundFlag.mapWide ||| SoundFlag.zoneWide

/-- The warnings about the flags of a known sound. -/
def soundLog (l : Loader) (table : String) (c : Command) : List LogLine :=
  match c.payload with
  | .playSound sound flags =>
    if l.catalog.sounds.contains sound then
      (if flags &&& ~~~soundFlags ≠ 0 then
        [⟨.warn, loadTarget,
          s!"Table `{table}` uses unsupported sound flags {flags} for script id {c.id}, "
            ++ "unsupported flags will be ignored"⟩]
      else []) ++
      (if flags &&& (SoundFlag.targetPlayer ||| SoundFlag.distance) ≠ 0
          ∧ flags &&& (SoundFlag.mapWide ||| SoundFlag.zoneWide) ≠ 0 then
        [⟨.warn, loadTarget,
          s!"Table `{table}` uses sound flags {flags} for script id {c.id}, "
            ++ "combining (1|2) with (4|8) makes no sense"⟩]
      else [])
    else []
  | _ => []

/-- What checking a row logs, given the quests that earlier rows asked for. -/
def checkLog (l : Loader) (table : String) (row : Row) (known : OrderedSet UInt32) :
    List LogLine :=
  l.correctionLog table row known ++
    match l.wellFlagged? row with
    | some c => l.soundLog table c
    | none => []

/-- The corrections with that of a row. -/
def addCorrection (l : Loader) (corrections : OrderedSet UInt32) (row : Row) : OrderedSet UInt32 :=
  match l.correction? row with
  | some quest => corrections.add quest
  | none => corrections

/-- The rows of a table, sorted into accepted and rejected so far. -/
structure Sorting where
  accepted : List Command := []
  rejected : List RejectedRow := []
  corrections : OrderedSet UInt32 := ∅
  log : List LogLine := []

/-- Sorts one more row. -/
def Sorting.add (l : Loader) (table : String) (s : Sorting) (row : Row) : Sorting :=
  let log := s.log ++ l.checkLog table row s.corrections
  let corrections := l.addCorrection s.corrections row
  match l.check row with
  | .ok c => { s with accepted := s.accepted ++ [c], corrections, log }
  | .error reason =>
    let line : LogLine := ⟨.error, loadTarget,
      s!"Table `{table}` id {row.id} command {row.command}: {reason.message}, skipping."⟩
    { s with
      rejected := s.rejected ++ [⟨row.id, row.command, reason⟩]
      corrections
      log := log ++ [line] }

/-- Sorts the rows of a table. -/
def sort (l : Loader) (table : String) (rows : List Row) : Sorting :=
  rows.foldl (Sorting.add l table) {}

/-- What the ids of a family refer to; none where ids refer to nothing in the game data. -/
def referent? : TableKind → Option String
  | .gameObjectUse => some "gameobject guid"
  | .gameObjectTemplateUse => some "gameobject entry"
  | .questStart | .questEnd => some "quest"
  | .spell => some "spell"
  | .event => some "gameobject event, spell send-event effect or taxi node event"
  | .creatureDeath => some "creature entry"
  | .gossip | .creatureMovement => none

/-- Whether an id of a family refers to something that can start its script. -/
def isKnownId (l : Loader) (kind : TableKind) (id : UInt32) : Bool :=
  match kind with
  | .gameObjectUse => l.catalog.gameObjectSpawns.contains id
  | .gameObjectTemplateUse => l.catalog.gameObjectTemplates.contains id
  | .questStart | .questEnd => l.catalog.quests.contains id
  | .spell => ((l.catalog.spells.get? id).map l.catalog.isStarter).getD false
  | .event => l.catalog.eventIds.contains id
  | .creatureDeath => l.catalog.creatureTemplates.contains id
  | .gossip | .creatureMovement => true

/-- The ids of a table that refer to nothing, ascending. -/
def unknownIds (l : Loader) (t : ScriptTable) : List UInt32 :=
  t.ids.filter fun id => !l.isKnownId t.kind id

/-- What the warning about an unknown id says it should refer to. -/
def expected (l : Loader) (kind : TableKind) (id : UInt32) : String :=
  if kind = .spell ∧ l.catalog.spells.contains id then "spell able to start a script"
  else (referent? kind).getD ""

def unknownIdsLog (l : Loader) (t : ScriptTable) : List LogLine :=
  (l.unknownIds t).map fun id =>
    ⟨.warn, loadTarget,
      s!"Table `{t.name}` has script id {id} not referring to any {l.expected t.kind id}"⟩

/-- The table and the report of a list of rows. -/
def loadRows (l : Loader) (kind : TableKind) (name : String) (rows : List Row) :
    ScriptTable × LoadReport :=
  let s := l.sort name rows
  let table := ScriptTable.ofCommands kind name s.accepted
  (table,
    { table := name, loaded := s.accepted.length, rejected := s.rejected,
      corrections := s.corrections, unknownIds := l.unknownIds table })

/-- What loading a list of rows logs. -/
def loadRowsLog (l : Loader) (kind : TableKind) (name : String) (rows : List Row) : List LogLine :=
  let (table, report) := l.loadRows kind name rows
  (l.sort name rows).log ++ l.unknownIdsLog table ++
    [⟨.info, loadTarget, s!">> Loaded {report.loaded} script definitions"⟩]

/-- Loads a table from a source. -/
def loadTable (l : Loader) (source : RowSource) (kind : TableKind) (name : String) :
    Logged (ScriptTable × LoadReport) := do
  Logged.write [⟨.info, loadTarget, s!"{name} :"⟩]
  let rows ← Logged.read (source.rows name)
  Logged.write (l.loadRowsLog kind name rows)
  return l.loadRows kind name rows

end Loader

end RegionScript
