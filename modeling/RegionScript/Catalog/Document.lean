import RegionScript.Catalog.Basic
import RegionScript.Document.Decode

/-!
How game data is written in documents: the names of columns, which of them may be left out, and the
words of its enumerations.
-/

namespace RegionScript

open Document
open Document.Json (required optional toUInt8? toUInt32? toInt32? toSingle? toText? toBool? toList?
  toName? toBlankName? toMap? wordKey? signedKey?)

namespace Position

/-- Three coordinates, and a facing that may be left out. -/
def ofJson? (v : Json) : Option Position := do
  let [x, y, z, o] ← v.columns? ["x", "y", "z", "o"] | none
  some ⟨← required toSingle? x, ← required toSingle? y, ← required toSingle? z,
    ← optional .zero toSingle? o⟩

end Position

def GameObjectType.names : List (String × GameObjectType) :=
  GameObjectType.all.map fun t => (t.word, t)

def QuestStatus.word : QuestStatus → String
  | incomplete => "incomplete"
  | complete => "complete"
  | failed => "failed"
  | rewarded => "rewarded"

def QuestStatus.names : List (String × QuestStatus) :=
  [incomplete, complete, failed, rewarded].map fun s => (s.word, s)

def SpellEffectKind.word : SpellEffectKind → String
  | none => "none"
  | dummy => "dummy"
  | scriptEffect => "script_effect"
  | triggerSpell => "trigger_spell"
  | sendEvent => "send_event"
  | sendTaxi => "send_taxi"
  | applyAura => "apply_aura"

def SpellEffectKind.names : List (String × SpellEffectKind) :=
  [none, dummy, scriptEffect, triggerSpell, sendEvent, sendTaxi, applyAura].map fun k => (k.word, k)

def ChatType.all : List ChatType :=
  [say, yell, textEmote, bossEmote, whisper, bossWhisper, zoneYell]

def ChatType.word : ChatType → String
  | say => "say"
  | yell => "yell"
  | textEmote => "text_emote"
  | bossEmote => "boss_emote"
  | whisper => "whisper"
  | bossWhisper => "boss_whisper"
  | zoneYell => "zone_yell"

def ChatType.names : List (String × ChatType) := all.map fun c => (c.word, c)

def LevelComparison.names : List (String × LevelComparison) :=
  [("equal", equal), ("at_least", atLeast), ("at_most", atMost)]

namespace CreatureTemplate

def ofJson? (v : Json) : Option CreatureTemplate := do
  let [entry, name, displays, faction, script] ←
    v.columns? ["entry", "name", "display_ids", "faction", "script_name"] | none
  some ⟨← required toUInt32? entry, ← required toText? name,
    ← optional [] (toList? toUInt32?) displays, ← optional 0 toUInt32? faction,
    ← optional "" toText? script⟩

end CreatureTemplate

namespace Spawn

def ofJson? (v : Json) : Option Spawn := do
  let [guid, entry, position] ← v.columns? ["guid", "entry", "position"] | none
  some ⟨← required toUInt32? guid, ← required toUInt32? entry,
    ← optional .origin Position.ofJson? position⟩

end Spawn

namespace GameObjectTemplate

def ofJson? (v : Json) : Option GameObjectTemplate := do
  let [entry, name, type, events, script] ←
    v.columns? ["entry", "name", "go_type", "event_ids", "script_name"] | none
  some ⟨← required toUInt32? entry, ← required toText? name,
    ← required (toName? GameObjectType.names) type,
    ← optional [] (toList? toUInt32?) events, ← optional "" toText? script⟩

end GameObjectTemplate

namespace QuestTemplate

def ofJson? (v : Json) : Option QuestTemplate := do
  let [id, title, flags] ← v.columns? ["id", "title", "special_flags"] | none
  some ⟨← required toUInt32? id, ← required toText? title,
    ← optional 0 toUInt32? flags⟩

end QuestTemplate

namespace SpellEffect

def ofJson? (v : Json) : Option SpellEffect := do
  let [kind, misc, trigger] ← v.columns? ["kind", "misc_value", "trigger_spell"] | none
  some ⟨← optional .none (toName? SpellEffectKind.names) kind,
    ← optional 0 toInt32? misc, ← optional 0 toUInt32? trigger⟩

/-- The effects of a spell are always three. -/
def tripleOfJson? (v : Json) : Option (Vector SpellEffect effectCount) := do
  let [a, b, c] ← v.toList? ofJson? | none
  some #v[a, b, c]

end SpellEffect

namespace Spell

def ofJson? (v : Json) : Option Spell := do
  let [id, name, effects] ← v.columns? ["id", "name", "effects"] | none
  some ⟨← required toUInt32? id, ← required toText? name,
    ← optional (Vector.replicate _ .blank) SpellEffect.tripleOfJson? effects⟩

end Spell

namespace ItemTemplate

def ofJson? (v : Json) : Option ItemTemplate := do
  let [entry, name, script] ← v.columns? ["entry", "name", "script_name"] | none
  some ⟨← required toUInt32? entry, ← required toText? name,
    ← optional "" toText? script⟩

end ItemTemplate

namespace MapEntry

def ofJson? (v : Json) : Option MapEntry := do
  let [id, name, battleground] ← v.columns? ["id", "name", "battleground"] | none
  some ⟨← required toUInt32? id, ← required toText? name,
    ← optional false toBool? battleground⟩

end MapEntry

namespace FactionTemplate

def ofJson? (v : Json) : Option FactionTemplate := do
  let [id, friendly] ← v.columns? ["id", "friendly"] | none
  some ⟨← required toUInt32? id, ← optional [] (toList? toUInt32?) friendly⟩

end FactionTemplate

namespace TaxiNode

def ofJson? (v : Json) : Option TaxiNode := do
  let [position, arrival, departure] ←
    v.columns? ["position", "arrival_event_id", "departure_event_id"] | none
  some ⟨← optional .origin Position.ofJson? position, ← optional 0 toUInt32? arrival,
    ← optional 0 toUInt32? departure⟩

end TaxiNode

namespace TaxiPath

def ofJson? (v : Json) : Option TaxiPath := do
  let [id, nodes] ← v.columns? ["id", "nodes"] | none
  some ⟨← required toUInt32? id, ← optional [] (toList? TaxiNode.ofJson?) nodes⟩

end TaxiPath

namespace AreaTrigger

def ofJson? (v : Json) : Option AreaTrigger := do
  let [id, map, position, radius] ← v.columns? ["id", "map_id", "position", "radius"] | none
  some ⟨← required toUInt32? id, ← required toUInt32? map,
    ← optional .origin Position.ofJson? position, ← optional .zero toSingle? radius⟩

end AreaTrigger

namespace ScriptText

def ofJson? (v : Json) : Option ScriptText := do
  let [id, text, chat] ← v.columns? ["id", "text", "chat_type"] | none
  some ⟨← required toInt32? id, ← required toText? text,
    ← optional .say (toName? ChatType.names) chat⟩

end ScriptText

namespace Condition

/-- A condition without columns; an array holds nothing else, and of an object the members do not
matter. -/
def bare? (c : Condition) : Json → Option Condition
  | .array (_ :: _) => none
  | _ => some c

/-- The condition of a given type, from the value that holds its other columns. -/
def ofTagged? (type : String) (v : Json) : Option Condition :=
  match type with
  | "always" => bare? .always v
  | "second_alive" => bare? .secondAlive v
  | "has_aura" => do
    let [spell] ← v.columns? ["spell_id"] | none
    some (.hasAura (← required toUInt32? spell))
  | "has_item" => do
    let [item, count] ← v.columns? ["item", "count"] | none
    some (.hasItem (← required toUInt32? item) (← required toUInt32? count))
  | "quest_status" => do
    let [quest, status] ← v.columns? ["quest", "status"] | none
    some (.questStatus (← required toUInt32? quest)
      (← required (toBlankName? QuestStatus.names) status))
  | "quest_none" => do
    let [quest] ← v.columns? ["quest"] | none
    some (.questNone (← required toUInt32? quest))
  | "level" => do
    let [threshold, comparison] ← v.columns? ["level", "comparison"] | none
    some (.level (← required toUInt8? threshold)
      (← required (toBlankName? LevelComparison.names) comparison))
  | "near_creature" => do
    let [entry, radius] ← v.columns? ["entry", "radius"] | none
    some (.nearCreature (← required toUInt32? entry) (← required toSingle? radius))
  | "not" => do
    let [condition] ← v.columns? ["condition"] | none
    some (.not (← required toUInt32? condition))
  | "and" => do
    let [first, second] ← v.columns? ["first", "second"] | none
    some (.and (← required toUInt32? first) (← required toUInt32? second))
  | "or" => do
    let [first, second] ← v.columns? ["first", "second"] | none
    some (.or (← required toUInt32? first) (← required toUInt32? second))
  | _ => none

/-- A catalog is an object, and so is its table of conditions. -/
def depthLimit : Nat := Json.depthLimit - 2

/-- A condition carries its type among its columns, or as the first element of an array. It is used
as a whole, columns that are not its own included. -/
def ofJson? (v : Json) : Option Condition :=
  if !v.isSound depthLimit then none
  else
    match v with
    | .object members => do
      let [type] ← v.columns? ["type"] | none
      ofTagged? (← required toText? type) (.object (members.filter (·.1.text ≠ some "type")))
    | .array (type :: rest) => do ofTagged? (← type.toText?) (.array rest)
    | _ => none

end Condition

namespace Catalog

/-- A table of the catalog, by numeric id. -/
def table? {α : Type} (value : Json → Option α) (column : Option Json) :
    Option (OrderedMap UInt32 α) :=
  optional ∅ (toMap? wordKey? value) column

def idSet? (column : Option Json) : Option (OrderedSet UInt32) :=
  optional ∅ (fun v => (v.toList? toUInt32?).map OrderedSet.ofList) column

/-- Every table of a catalog may be left out. -/
def ofJson? (v : Json) : Option Catalog := do
  let [creatures, creatureSpawns, objects, objectSpawns, quests, spells, items, maps, factions,
      taxiPaths, areaTriggers, conditions, texts, emotes, sounds, models, instances, worlds] ←
    v.columns? ["creature_templates", "creature_spawns", "game_object_templates",
      "game_object_spawns", "quests", "spells", "item_templates", "maps", "factions", "taxi_paths",
      "area_triggers", "conditions", "script_texts", "emotes", "sounds", "display_models",
      "instance_scripts", "world_scripts"] | none
  some {
    creatureTemplates := ← table? CreatureTemplate.ofJson? creatures
    creatureSpawns := ← table? Spawn.ofJson? creatureSpawns
    gameObjectTemplates := ← table? GameObjectTemplate.ofJson? objects
    gameObjectSpawns := ← table? Spawn.ofJson? objectSpawns
    quests := ← table? QuestTemplate.ofJson? quests
    spells := ← table? Spell.ofJson? spells
    itemTemplates := ← table? ItemTemplate.ofJson? items
    maps := ← table? MapEntry.ofJson? maps
    factions := ← table? FactionTemplate.ofJson? factions
    taxiPaths := ← table? TaxiPath.ofJson? taxiPaths
    areaTriggers := ← table? AreaTrigger.ofJson? areaTriggers
    conditions := ← table? Condition.ofJson? conditions
    texts := ← optional ∅ (toMap? signedKey? ScriptText.ofJson?) texts
    emotes := ← idSet? emotes
    sounds := ← idSet? sounds
    displayModels := ← idSet? models
    instanceScripts := ← table? toText? instances
    worldScripts := ← table? toText? worlds }

/-- Reads the text of a catalog file. -/
def read? (contents : String) : Option Catalog := (Json.read? contents).bind ofJson?

end Catalog

end RegionScript
