import RegionScript.Catalog.Document
import RegionScript.View.Basic

/-!
Views of the game data, part by part in the order of the keys.
-/

namespace RegionScript

open Document

/-- The tag of a condition. -/
def Condition.tag : Condition → String
  | always => "Always"
  | hasAura .. => "HasAura"
  | hasItem .. => "HasItem"
  | questStatus .. => "QuestStatus"
  | questNone .. => "QuestNone"
  | level .. => "Level"
  | secondAlive => "SecondAlive"
  | nearCreature .. => "NearCreature"
  | not .. => "Not"
  | and .. => "And"
  | or .. => "Or"

namespace Catalog

def viewTemplate (e : UInt32 × CreatureTemplate) : Json :=
  .array [.ofUInt32 e.1, .ofUInt32 e.2.entry, .text e.2.name, viewWords e.2.displays,
    .ofUInt32 e.2.chooseDisplay, .ofUInt32 e.2.faction, .text e.2.scriptName]

def viewSpawn (e : UInt32 × Spawn) : Json :=
  .array [.ofUInt32 e.1, .ofUInt32 e.2.guid, .ofUInt32 e.2.entry, e.2.position.view]

def viewObject (t : GameObjectTemplate) : Json :=
  .array [.ofUInt32 t.entry, .text t.name, .text t.type.word, .bool t.type.blocksRespawn,
    viewWords t.eventIds, .text t.scriptName]

def viewQuest (q : QuestTemplate) : Json :=
  .array [.ofUInt32 q.id, .text q.title, .ofUInt32 q.specialFlags,
    .bool (q.hasFlag explorationFlag)]

def viewEffect (e : SpellEffect) : Json :=
  .array [.text e.kind.word, .ofInt32 e.miscValue, .ofUInt32 e.triggerSpell]

def viewSpell (s : Spell) : Json :=
  .array [.ofUInt32 s.id, .text s.name, .ofList viewEffect s.effects.toList]

def viewItem (t : ItemTemplate) : Json :=
  .array [.ofUInt32 t.entry, .text t.name, .text t.scriptName]

def viewMap (m : MapEntry) : Json := .array [.ofUInt32 m.id, .text m.name, .bool m.battleground]

/-- A faction, with those among the factions up to 19 that it is friendly to. -/
def viewFaction (f : FactionTemplate) : Json :=
  let others := (List.range 20).map UInt32.ofNat
  .array [.ofUInt32 f.id, viewWords f.friendly, viewWords (others.filter f.isFriendlyTo)]

def viewNode (n : TaxiNode) : Json :=
  .array [n.position.view, .ofUInt32 n.arrivalEvent, .ofUInt32 n.departureEvent]

def viewPath (p : TaxiPath) : Json := .array [.ofUInt32 p.id, .ofList viewNode p.nodes]

def viewTrigger (t : AreaTrigger) : Json :=
  .array [.ofUInt32 t.id, .ofUInt32 t.map, t.position.view, t.radius.view]

def viewCondition (e : UInt32 × Condition) : Json := .array [.ofUInt32 e.1, .text e.2.tag]

def viewText (t : ScriptText) : Json :=
  .array [.ofInt32 t.id, .text t.text, .text t.chatType.word, .bool t.chatType.needsPlayerTarget]

/-- Everything in a catalog. -/
def view (c : Catalog) : Json :=
  .record [
    ("creatures", .ofList viewTemplate c.creatureTemplates.entries),
    ("creature_spawns", .ofList viewSpawn c.creatureSpawns.entries),
    ("objects", .ofList viewObject c.gameObjectTemplates.values),
    ("object_spawns", .ofList viewSpawn c.gameObjectSpawns.entries),
    ("quests", .ofList viewQuest c.quests.values),
    ("spells", .ofList viewSpell c.spells.values),
    ("items", .ofList viewItem c.itemTemplates.values),
    ("maps", .ofList viewMap c.maps.values),
    ("factions", .ofList viewFaction c.factions.values),
    ("taxi", .ofList viewPath c.taxiPaths.values),
    ("triggers", .ofList viewTrigger c.areaTriggers.values),
    ("conditions", .ofList viewCondition c.conditions.entries),
    ("texts", .ofList viewText c.texts.values),
    ("emotes", viewWords c.emotes.toList),
    ("sounds", viewWords c.sounds.toList),
    ("models", viewWords c.displayModels.toList),
    ("names", viewTexts c.ownedScriptNames)]

end Catalog

end RegionScript
