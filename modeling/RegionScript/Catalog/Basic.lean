import RegionScript.Object.GameObject
import RegionScript.Object.Player

/-!
Game data: the templates, spawns, quests, spells and texts that scripts refer to.

A catalog is read once and only ever looked things up in. The one change made to it is `correct`,
which marks quests as completable by exploration after the scripts that complete them were loaded.
-/

namespace RegionScript

structure CreatureTemplate where
  entry : UInt32
  name : String
  displays : List UInt32
  faction : UInt32
  scriptName : String
  deriving DecidableEq

/-- The first display that is set; zero when none is. -/
def CreatureTemplate.chooseDisplay (t : CreatureTemplate) : UInt32 :=
  (t.displays.find? (· ≠ 0)).getD 0

/-- A place where a template is spawned. -/
structure Spawn where
  guid : UInt32
  entry : UInt32
  position : Position
  deriving DecidableEq

structure GameObjectTemplate where
  entry : UInt32
  name : String
  type : GameObjectType
  eventIds : List UInt32
  scriptName : String
  deriving DecidableEq

structure QuestTemplate where
  id : UInt32
  title : String
  specialFlags : UInt32
  deriving DecidableEq

/-- The flag of quests that exploration or a scripted event completes. -/
def explorationFlag : UInt32 := 0x2

def QuestTemplate.hasFlag (q : QuestTemplate) (flag : UInt32) : Bool := q.specialFlags &&& flag ≠ 0

inductive SpellEffectKind where
  | none
  | dummy
  | scriptEffect
  | triggerSpell
  | sendEvent
  | sendTaxi
  | applyAura
  deriving DecidableEq, Repr

structure SpellEffect where
  kind : SpellEffectKind
  miscValue : Int32
  triggerSpell : UInt32
  deriving DecidableEq

/-- An effect that does nothing. -/
def SpellEffect.blank : SpellEffect := ⟨.none, 0, 0⟩

/-- How many effects a spell has. -/
abbrev effectCount : Nat := 3

structure Spell where
  id : UInt32
  name : String
  effects : Vector SpellEffect effectCount
  deriving DecidableEq

structure ItemTemplate where
  entry : UInt32
  name : String
  scriptName : String
  deriving DecidableEq

structure MapEntry where
  id : UInt32
  name : String
  battleground : Bool
  deriving DecidableEq

structure FactionTemplate where
  id : UInt32
  friendly : List UInt32
  deriving DecidableEq

/-- A faction is friendly to itself and to those it lists. -/
def FactionTemplate.isFriendlyTo (f : FactionTemplate) (other : UInt32) : Bool :=
  f.id = other || f.friendly.contains other

structure TaxiNode where
  position : Position
  arrivalEvent : UInt32
  departureEvent : UInt32
  deriving DecidableEq

structure TaxiPath where
  id : UInt32
  nodes : List TaxiNode
  deriving DecidableEq

structure AreaTrigger where
  id : UInt32
  map : UInt32
  position : Position
  radius : Single
  deriving DecidableEq

inductive ChatType where
  | say
  | yell
  | textEmote
  | bossEmote
  | whisper
  | bossWhisper
  | zoneYell
  deriving DecidableEq, Repr

/-- Whispers are heard by one player only. -/
def ChatType.needsPlayerTarget : ChatType → Bool
  | whisper | bossWhisper => true
  | _ => false

structure ScriptText where
  id : Int32
  text : String
  chatType : ChatType
  deriving DecidableEq

inductive LevelComparison where
  | equal
  | atLeast
  | atMost
  deriving DecidableEq, Repr

/-- A stored condition on a player and an optional second object. Composite conditions refer to
others by their id. -/
inductive Condition where
  | always
  | hasAura (spell : UInt32)
  | hasItem (item count : UInt32)
  | questStatus (quest : UInt32) (status : QuestStatus)
  | questNone (quest : UInt32)
  | level (level : UInt8) (comparison : LevelComparison)
  | secondAlive
  | nearCreature (entry : UInt32) (radius : Single)
  | not (condition : UInt32)
  | and (first second : UInt32)
  | or (first second : UInt32)
  deriving DecidableEq

/-- All game data, by id. -/
structure Catalog where
  creatureTemplates : OrderedMap UInt32 CreatureTemplate := ∅
  creatureSpawns : OrderedMap UInt32 Spawn := ∅
  gameObjectTemplates : OrderedMap UInt32 GameObjectTemplate := ∅
  gameObjectSpawns : OrderedMap UInt32 Spawn := ∅
  quests : OrderedMap UInt32 QuestTemplate := ∅
  spells : OrderedMap UInt32 Spell := ∅
  itemTemplates : OrderedMap UInt32 ItemTemplate := ∅
  maps : OrderedMap UInt32 MapEntry := ∅
  factions : OrderedMap UInt32 FactionTemplate := ∅
  taxiPaths : OrderedMap UInt32 TaxiPath := ∅
  areaTriggers : OrderedMap UInt32 AreaTrigger := ∅
  conditions : OrderedMap UInt32 Condition := ∅
  texts : OrderedMap Int32 ScriptText := ∅
  emotes : OrderedSet UInt32 := ∅
  sounds : OrderedSet UInt32 := ∅
  displayModels : OrderedSet UInt32 := ∅
  instanceScripts : OrderedMap UInt32 String := ∅
  worldScripts : OrderedMap UInt32 String := ∅
  deriving DecidableEq

namespace Catalog

/-- The distinct non-empty script names that templates and maps refer to, ascending. -/
def ownedScriptNames (c : Catalog) : List String :=
  let names := c.creatureTemplates.values.map (·.scriptName)
    ++ c.gameObjectTemplates.values.map (·.scriptName)
    ++ c.itemTemplates.values.map (·.scriptName)
    ++ c.instanceScripts.values
    ++ c.worldScripts.values
  (OrderedSet.ofList (names.filter (· ≠ ""))).toList

/-- Whether a quest is there and lacks the exploration flag. -/
def lacksExploration (c : Catalog) (quest : UInt32) : Bool :=
  match c.quests.get? quest with
  | some q => !q.hasFlag explorationFlag
  | none => false

/-- Marks a quest as completable by exploration. -/
def markExploration (c : Catalog) (quest : UInt32) : Catalog :=
  { c with quests := c.quests.modify quest fun q =>
      { q with specialFlags := q.specialFlags ||| explorationFlag } }

/-- Marks those of `quests` that lack the flag, and counts them. -/
def correct (c : Catalog) (quests : List UInt32) : Nat × Catalog :=
  quests.foldl (fun (n, c) quest =>
    if c.lacksExploration quest then (n + 1, c.markExploration quest) else (n, c)) (0, c)

end Catalog

end RegionScript
