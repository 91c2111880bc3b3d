import RegionScript.Catalog.Document
import RegionScript.Guid.Text
import RegionScript.Region.Basic

/-!
Scenes: documents that say what stands in a region.

An object is given by its guid, whose kind decides what else is read; what is left out is as in an
object that has just been made. The same members, given again later, overwrite those of a live
object. An item needs its owner in the region and is otherwise passed over.
-/

namespace RegionScript.Scene

open Document Document.Json

/-! ### Parts -/

/-- Up to four coordinates; the missing ones are zero. -/
def position? (v : Json) : Option Position := do
  let l ← v.toList? toCoordinate?
  guard (l.length ≤ 4)
  some ⟨l.getD 0 .zero, l.getD 1 .zero, l.getD 2 .zero, l.getD 3 .zero⟩

def guid? (v : Json) : Option Guid := v.toText?.bind Guid.ofText?

def useStates : List (String × UseState) := [("ready", .ready), ("active", .active)]

def useState? (v : Json) : Option UseState := v.toText?.bind fun s => useStates.lookup s

def motion? : Json → Option Motion
  | array [text "idle"] => some .idle
  | array [text "random", center, radius] => do
    some (.random (← position? center) (← radius.toCoordinate?))
  | array [text "waypoint", node, pause] => do
    some (.waypoint (← node.toUInt32?) (← pause.toUInt32?))
  | array [text "point", destination] => (position? destination).map fun p => .point p none
  | array [text "point", destination, speed] => do
    some (.point (← position? destination) (← toOption? toCoordinate? speed))
  | _ => none

def summonDespawn? : Json → Option SummonDespawn
  | text "on_death" => some .onDeath
  | v => v.toUInt32?.map .timedOrDead

def pair? (v : Json) : Option (UInt32 × UInt32) := do
  let [a, b] ← v.toList? toUInt32? | none
  some (a, b)

def temporaryFaction? (v : Json) : Option TemporaryFaction := (pair? v).map fun p => ⟨p.1, p.2⟩

def reset? : Json → Option Reset
  | array [due, restore] => do some ⟨← due.toUInt64?, ← useState? restore⟩
  | _ => none

/-- A member with a value that is not there otherwise. -/
def present {α : Type} (value : Json → Option α) (v : Json) (name : String) (now : Option α) :
    Option (Option α) :=
  v.memberOr now (fun m => (value m).map some) name

/-! ### Overwriting -/

/-- Fields set one by one. -/
def fields? (v : Json) (f : Fields) : Option Fields := do
  let set ← v.memberOr [] (toList? pair?) "values"
  some (set.foldl (fun f e => f.set e.1 e.2) f)

def unit? (v : Json) (u : UnitState) : Option UnitState := do
  some { u with
    boundingRadius := ← v.memberOr u.boundingRadius toCoordinate? "radius"
    alive := ← v.memberOr u.alive toBool? "alive"
    faction := ← v.memberOr u.faction toUInt32? "faction"
    auras := ← v.memberOr u.auras (toList? toUInt32?) "auras"
    standState := ← v.memberOr u.standState toUInt8? "stand"
    walking := ← v.memberOr u.walking toBool? "walking"
    motion := ← v.memberOr u.motion motion? "motion" }

def creature? (v : Json) (c : Creature) : Option Creature := do
  some { c with
    unit := ← unit? v c.unit
    fields := ← fields? v c.fields
    home := ← v.memberOr c.home position? "home"
    wanderDistance := ← v.memberOr c.wanderDistance toCoordinate? "wander"
    display := ← v.memberOr c.display toUInt32? "display_now"
    mountDisplay := ← present toUInt32? v "mount" c.mountDisplay
    temporaryFaction := ← present temporaryFaction? v "temp_faction" c.temporaryFaction
    active := ← v.memberOr c.active toBool? "active"
    waypointsPaused := ← v.memberOr c.waypointsPaused toBool? "paused"
    summoned := ← present summonDespawn? v "summoned" c.summoned
    despawnAt := ← present toUInt64? v "despawn_at" c.despawnAt }

def player? (v : Json) (p : Player) : Option Player := do
  some { p with
    unit := ← unit? v p.unit
    fields := ← fields? v p.fields
    level := ← v.memberOr p.level toUInt8? "level"
    zone := ← v.memberOr p.zone toUInt32? "zone"
    quests := ← v.memberOr p.quests (toMap? wordKey? (toName? QuestStatus.names)) "quests"
    inventory := ← v.memberOr p.inventory (toMap? wordKey? toUInt32?) "inventory"
    battleground := ← present toUInt32? v "battleground" p.battleground
    group := ← present toUInt32? v "group" p.group }

def gameObject? (v : Json) (g : GameObject) : Option GameObject := do
  some { g with
    fields := ← fields? v g.fields
    zone := ← v.memberOr g.zone toUInt32? "zone"
    state := ← v.memberOr g.state useState? "state"
    spawned := ← v.memberOr g.spawned toBool? "spawned"
    despawnAt := ← present toUInt64? v "despawn_at" g.despawnAt
    reset := ← present reset? v "reset" g.reset }

/-- Puts a unit where the document says. -/
def moved? (v : Json) (u : UnitState) : Option UnitState := do
  some { u with position := ← v.memberOr u.position position? "pos" }

/-- A live object with the members of a document; corpses and items stay as they are made. -/
def overwrite? (v : Json) : Object → Option Object
  | .creature c => do some (.creature (← creature? v { c with unit := ← moved? v c.unit }))
  | .player p => do some (.player (← player? v { p with unit := ← moved? v p.unit }))
  | .gameObject g => do
    let position ← v.memberOr g.position position? "pos"
    some (.gameObject (← gameObject? v { g with position }))
  | .corpse _ | .item _ => none

/-! ### Making -/

/-- The object that a document describes. -/
def object? (v : Json) : Option Object := do
  let guid ← (v.member? "guid").bind guid?
  let position ← v.memberOr .origin position? "pos"
  match guid.kind with
  | .creature | .pet =>
    let faction ← v.memberOr 0 toUInt32? "faction"
    let display ← v.memberOr 0 toUInt32? "display"
    some (.creature (← creature? v (.spawn guid position faction display)))
  | .player =>
    let name ← v.memberOr "P" toText? "name"
    let map ← v.memberOr 0 toUInt32? "map"
    some (.player (← player? v (.new guid.counter name position map)))
  | .gameObject =>
    let type ← (v.member? "type").bind (toName? GameObjectType.names)
    let made : GameObject := { guid, type, position }
    some (.gameObject (← gameObject? v made))
  | .corpse =>
    let owner ← (v.member? "owner").bind guid?
    let count ← v.memberOr Fields.objectEnd toUInt32? "count"
    some (.corpse { guid, owner, position, fields := ← fields? v (.zeros count) })
  | .item =>
    let entry ← (v.member? "entry").bind toUInt32?
    let owner ← (v.member? "owner").bind guid?
    let made : Item := { guid := .item guid.counter, entry, owner }
    some (.item { made with fields := ← fields? v made.fields })

/-- Puts an object into a region, in place of one of its guid; none for an item without its owner.
-/
def place? (r : Region) : Object → Option Region
  | .creature c => some (r.addCreature c)
  | .player p => some (r.addPlayer p)
  | .gameObject g => some (r.addGameObject g)
  | .corpse c => some (r.addCorpse c)
  | .item i => r.addItem? i

/-- Puts an object into a region, or leaves it out where it has no place. -/
def place (r : Region) (o : Object) : Region := (place? r o).getD r

/-- Makes the group that a document describes. -/
def group? (r : Region) (v : Json) : Option Region := do
  let id ← (v.member? "id").bind toUInt32?
  let members ← (v.member? "members").bind (toList? guid?)
  some (r.formGroup id members)

/-- The region that a document describes: its objects first, then its groups. -/
def region? (v : Json) : Option Region := do
  let bare : Region := {
    id := ← v.memberOr 0 toUInt32? "id"
    battleground := ← present toUInt32? v "battleground" none }
  let objects ← v.memberOr [] (toList? object?) "objects"
  let groups ← v.memberOr [] (toList? some) "groups"
  groups.foldlM group? (objects.foldl place bare)

end RegionScript.Scene
