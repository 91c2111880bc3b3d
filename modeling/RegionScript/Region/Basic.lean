import RegionScript.Object.Basic
import RegionScript.Region.Event
import RegionScript.Schedule

/-!
A region: the live objects of one simulated map, its clock, its groups, its schedule of script steps
and the log of what happened in it.

Objects live in one map per kind, under their own guid (`WellKeyed`). A guid's kind decides in which
map it is looked up.
-/

namespace RegionScript

/-- One simulated map and everything in it. The clock counts milliseconds and wraps around. -/
structure Region where
  id : UInt32
  battleground : Option UInt32 := none
  now : UInt64 := 0
  creatures : OrderedMap Guid Creature := ∅
  players : OrderedMap Guid Player := ∅
  gameObjects : OrderedMap Guid GameObject := ∅
  corpses : OrderedMap Guid Corpse := ∅
  items : OrderedMap Guid Item := ∅
  groups : OrderedMap UInt32 (List Guid) := ∅
  events : List WorldEvent := []
  nextSummon : UInt32 := 1000000
  schedule : Schedule := {}
  deriving DecidableEq

namespace Region

/-- Every object is stored under its own guid, in the map of that guid's kind. -/
structure WellKeyed (r : Region) : Prop where
  creature : ∀ g c, r.creatures.get? g = some c → c.guid = g ∧ g.kind.isCreature
  player : ∀ g p, r.players.get? g = some p → p.guid = g ∧ g.kind = .player
  gameObject : ∀ g o, r.gameObjects.get? g = some o → o.guid = g ∧ g.kind = .gameObject
  corpse : ∀ g c, r.corpses.get? g = some c → c.guid = g ∧ g.kind = .corpse
  item : ∀ g i, r.items.get? g = some i → i.guid = g ∧ g.kind = .item

/-! ### Looking objects up -/

def creature? (r : Region) (g : Guid) : Option Creature := r.creatures.get? g

def player? (r : Region) (g : Guid) : Option Player := r.players.get? g

def gameObject? (r : Region) (g : Guid) : Option GameObject := r.gameObjects.get? g

/-- The live object that a guid names. -/
def object? (r : Region) (g : Guid) : Option Object :=
  match g.kind with
  | .creature | .pet => (r.creatures.get? g).map .creature
  | .player => (r.players.get? g).map .player
  | .gameObject => (r.gameObjects.get? g).map .gameObject
  | .corpse => (r.corpses.get? g).map .corpse
  | .item => (r.items.get? g).map .item

/-- The update fields of the object that a guid names. -/
def fields? (r : Region) (g : Guid) : Option Fields := (r.object? g).map Object.fields

/-- The unit that a guid names. -/
def unit? (r : Region) (g : Guid) : Option UnitState :=
  match g.kind with
  | .creature | .pet => (r.creatures.get? g).map (·.unit)
  | .player => (r.players.get? g).map (·.unit)
  | _ => none

/-! ### Changing objects -/

def modifyCreature (r : Region) (g : Guid) (f : Creature → Creature) : Region :=
  { r with creatures := r.creatures.modify g f }

def modifyPlayer (r : Region) (g : Guid) (f : Player → Player) : Region :=
  { r with players := r.players.modify g f }

def modifyGameObject (r : Region) (g : Guid) (f : GameObject → GameObject) : Region :=
  { r with gameObjects := r.gameObjects.modify g f }

/-- Changes the update fields of the object that a guid names. -/
def modifyFields (r : Region) (g : Guid) (f : Fields → Fields) : Region :=
  match g.kind with
  | .creature | .pet => r.modifyCreature g fun c => { c with fields := f c.fields }
  | .player => r.modifyPlayer g fun p => { p with fields := f p.fields }
  | .gameObject => r.modifyGameObject g fun o => { o with fields := f o.fields }
  | .corpse => { r with corpses := r.corpses.modify g fun c => { c with fields := f c.fields } }
  | .item => { r with items := r.items.modify g fun i => { i with fields := f i.fields } }

/-- Changes the unit that a guid names. -/
def modifyUnit (r : Region) (g : Guid) (f : UnitState → UnitState) : Region :=
  match g.kind with
  | .creature | .pet => r.modifyCreature g fun c => { c with unit := f c.unit }
  | .player => r.modifyPlayer g fun p => { p with unit := f p.unit }
  | _ => r

/-- Adds an event to the log. -/
def record (r : Region) (e : WorldEvent) : Region := { r with events := r.events ++ [e] }

/-! ### Adding objects -/

def addCreature (r : Region) (c : Creature) : Region :=
  { r with creatures := r.creatures.insert c.guid c }

def addPlayer (r : Region) (p : Player) : Region :=
  { r with players := r.players.insert p.guid p }

def addGameObject (r : Region) (o : GameObject) : Region :=
  { r with gameObjects := r.gameObjects.insert o.guid o }

def addCorpse (r : Region) (c : Corpse) : Region :=
  { r with corpses := r.corpses.insert c.guid c }

/-- Puts an item into its owner's bags; none when the owner is not here. -/
def addItem? (r : Region) (i : Item) : Option Region :=
  (r.player? i.owner).map fun _ =>
    let r := r.modifyPlayer i.owner fun p => p.addItems i.entry 1
    { r with items := r.items.insert i.guid i }

/-! ### Groups -/

/-- Makes a group of the given members; members that are here know their group. -/
def formGroup (r : Region) (id : UInt32) (members : List Guid) : Region :=
  let r := members.foldl (fun r g => r.modifyPlayer g fun p => { p with group := some id }) r
  { r with groups := r.groups.insert id members }

/-- The group list that a player belongs to. -/
def groupOf? (r : Region) (player : Guid) : Option (List Guid) :=
  ((r.player? player).bind (·.group)).bind r.groups.get?

/-- Members of the player's group in this region, or just the player. -/
def groupMembers (r : Region) (player : Guid) : List Guid :=
  match r.groupOf? player with
  | some members => members.filter r.players.contains
  | none => if r.players.contains player then [player] else []

def inGroup (r : Region) (player : Guid) : Bool := (r.groupOf? player).isSome

end Region

end RegionScript
