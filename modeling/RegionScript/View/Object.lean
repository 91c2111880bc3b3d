import RegionScript.Catalog.Document
import RegionScript.Region.Basic
import RegionScript.View.Basic

/-!
Views of live objects, and what differs between two states of a region.
-/

namespace RegionScript

open Document

/-- The number of fields, and those that are not zero. -/
def Fields.view (f : Fields) : Json :=
  let set := f.slots.toList.zipIdx.filter (·.1 ≠ 0)
  .array [.ofNat f.count, .ofList (fun e => .array [.ofNat e.2, .ofUInt32 e.1]) set]

def Motion.view : Motion → Json
  | idle => viewTagged "idle" []
  | random center radius => viewTagged "random" [center.view, radius.view]
  | waypoint node pause => viewTagged "waypoint" [.ofUInt32 node, .ofUInt32 pause]
  | point destination speed =>
    viewTagged "point" [destination.view, .ofOption Single.view speed]

def UnitState.members (u : UnitState) : List (String × Json) :=
  [("pos", u.position.view),
    ("radius", u.boundingRadius.view),
    ("alive", .bool u.alive),
    ("faction", .ofUInt32 u.faction),
    ("auras", viewWords u.auras),
    ("stand", .ofUInt8 u.standState),
    ("walking", .bool u.walking),
    ("motion", u.motion.view)]

def SummonDespawn.view : SummonDespawn → Json
  | onDeath => .text "on_death"
  | timedOrDead delay => .ofUInt32 delay

def TemporaryFaction.view (t : TemporaryFaction) : Json := viewWords [t.faction, t.flags]

def Creature.view (c : Creature) : Json :=
  .record (c.unit.members ++
    [("values", c.fields.view),
      ("home", c.home.view),
      ("wander", c.wanderDistance.view),
      ("native", .ofUInt32 c.nativeDisplay),
      ("display", .ofUInt32 c.display),
      ("mount", .ofOption .ofUInt32 c.mountDisplay),
      ("temp_faction", .ofOption TemporaryFaction.view c.temporaryFaction),
      ("effective_faction", .ofUInt32 c.effectiveFaction),
      ("active", .bool c.active),
      ("paused", .bool c.waypointsPaused),
      ("victim", .ofOption Guid.view c.victim),
      ("summoned", .ofOption SummonDespawn.view c.summoned),
      ("despawn_at", .ofOption .ofUInt64 c.despawnAt)])

def KillCredit.view (k : KillCredit) : Json :=
  .array [.ofUInt32 k.entry, .ofOption Guid.view k.source]

def Player.view (p : Player) : Json :=
  .record (p.unit.members ++
    [("values", p.fields.view),
      ("name", .text p.name),
      ("level", .ofUInt8 p.level),
      ("zone", .ofUInt32 p.zone),
      ("quests", .ofMap toString (fun s => .text s.word) p.quests),
      ("group", .ofOption .ofUInt32 p.group),
      ("battleground", .ofOption .ofUInt32 p.battleground),
      ("inventory", .ofMap toString .ofUInt32 p.inventory),
      ("credits", .ofList KillCredit.view p.killCredits),
      ("taxi", .ofOption .ofUInt32 p.taxiPath),
      ("map", .ofUInt32 p.map),
      ("xp_disabled", .bool p.xpDisabled)])

def UseState.word : UseState → String
  | active => "active"
  | ready => "ready"

def Reset.view (r : Reset) : Json := .array [.ofUInt64 r.due, .text r.restore.word]

def GameObject.view (g : GameObject) : Json :=
  .record [
    ("values", g.fields.view),
    ("type", .text g.type.word),
    ("pos", g.position.view),
    ("zone", .ofUInt32 g.zone),
    ("state", .text g.state.word),
    ("spawned", .bool g.spawned),
    ("despawn_at", .ofOption .ofUInt64 g.despawnAt),
    ("reset", .ofOption Reset.view g.reset)]

def Corpse.view (c : Corpse) : Json :=
  .record [("values", c.fields.view), ("owner", c.owner.view), ("pos", c.position.view)]

def Item.view (i : Item) : Json :=
  .record [("values", i.fields.view), ("entry", .ofUInt32 i.entry), ("owner", i.owner.view)]

namespace Object

/-- The state of an object. -/
def view : Object → Json
  | creature c => c.view
  | player p => p.view
  | gameObject g => g.view
  | corpse c => c.view
  | item i => i.view

/-- The broad type of an object; pets are creatures here. -/
def typeTag : Object → String
  | creature _ => "Unit"
  | player _ => "Player"
  | gameObject _ => "GameObject"
  | corpse _ => "Corpse"
  | item _ => "Item"

/-- Everything that can be asked of an object. -/
def card (o : Object) : Json :=
  .record [
    ("guid", o.guid.view),
    ("display", .text o.guid.describe),
    ("type", .text o.typeTag),
    ("entry", .ofUInt32 o.entry),
    ("pos", .ofOption Position.view o.position?),
    ("radius", o.boundingRadius.view),
    ("world", .bool o.isWorldObject),
    ("creature",
      match o with
      | creature c => .array [.bool c.isPet, .ofUInt32 c.npcFlags]
      | _ => .null),
    ("game_object",
      match o with
      | gameObject g => viewWords [g.guid.entry, g.flags]
      | _ => .null),
    ("dump", o.view)]

end Object

namespace Region

/-- All objects, kind by kind. -/
def objects (r : Region) : List Object :=
  r.creatures.values.map .creature ++ r.players.values.map .player
    ++ r.gameObjects.values.map .gameObject ++ r.corpses.values.map .corpse
    ++ r.items.values.map .item

/-- The objects of `before` that are gone, and those of `after` that are new or have changed. -/
def differences (before after : Region) : List (String × Json) :=
  let gone := before.objects.filter fun o => (after.object? o.guid).isNone
  let changed := after.objects.filter fun o => before.object? o.guid ≠ some o
  gone.map (fun o => (o.guid.toText, .null)) ++ changed.map fun o => (o.guid.toText, o.view)

end Region

end RegionScript
