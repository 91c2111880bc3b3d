import RegionScript.Object.Creature
import RegionScript.Object.Player
import RegionScript.Object.GameObject

/-!
Live objects of every kind under one type.
-/

namespace RegionScript

structure Corpse where
  guid : Guid
  owner : Guid
  position : Position
  fields : Fields
  deriving DecidableEq

/-- An item in a player's bags. -/
structure Item where
  guid : Guid
  entry : UInt32
  owner : Guid
  fields : Fields := .zeros Fields.itemEnd
  deriving DecidableEq

/-- A live object of any kind. -/
inductive Object where
  | creature (c : Creature)
  | player (p : Player)
  | gameObject (g : GameObject)
  | corpse (c : Corpse)
  | item (i : Item)
  deriving DecidableEq

namespace Object

def guid : Object → Guid
  | creature c => c.guid
  | player p => p.guid
  | gameObject g => g.guid
  | corpse c => c.guid
  | item i => i.guid

/-- The template entry; an item's is not in its guid. -/
def entry : Object → UInt32
  | item i => i.entry
  | o => o.guid.entry

/-- Items lie in bags and have no place in the world. -/
def position? : Object → Option Position
  | creature c => some c.unit.position
  | player p => some p.unit.position
  | gameObject g => some g.position
  | corpse c => some c.position
  | item _ => none

def boundingRadius : Object → Single
  | creature c => c.unit.boundingRadius
  | player p => p.unit.boundingRadius
  | _ => .zero

/-- Whether the object stands in the world. -/
def isWorldObject : Object → Bool
  | item _ => false
  | _ => true

def fields : Object → Fields
  | creature c => c.fields
  | player p => p.fields
  | gameObject g => g.fields
  | corpse c => c.fields
  | item i => i.fields

end Object

end RegionScript
