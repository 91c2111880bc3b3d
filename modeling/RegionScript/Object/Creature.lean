import RegionScript.Object.Fields
import RegionScript.Object.Unit

/-!
Creatures and pets.
-/

namespace RegionScript

/-- A faction that replaces a creature's own for a while. -/
structure TemporaryFaction where
  faction : UInt32
  flags : UInt32
  deriving DecidableEq

/-- When a summoned creature leaves: at its death, or also after a delay in milliseconds. -/
inductive SummonDespawn where
  | onDeath
  | timedOrDead (delay : UInt32)
  deriving DecidableEq

/-- A creature or pet; times are region clock milliseconds. -/
structure Creature where
  guid : Guid
  unit : UnitState
  fields : Fields := .zeros Fields.unitEnd
  home : Position
  wanderDistance : Single := .zero
  nativeDisplay : UInt32
  display : UInt32
  mountDisplay : Option UInt32 := none
  temporaryFaction : Option TemporaryFaction := none
  active : Bool := false
  waypointsPaused : Bool := false
  victim : Option Guid := none
  summoned : Option SummonDespawn := none
  despawnAt : Option UInt64 := none
  deriving DecidableEq

namespace Creature

/-- A creature as it spawns. -/
def spawn (guid : Guid) (position : Position) (faction display : UInt32) : Creature :=
  { guid, unit := { position, faction }, home := position, nativeDisplay := display, display }

def isPet (c : Creature) : Bool := c.guid.kind = .pet

/-- The faction others see. -/
def effectiveFaction (c : Creature) : UInt32 :=
  match c.temporaryFaction with
  | some t => t.faction
  | none => c.unit.faction

def npcFlags (c : Creature) : UInt32 := c.fields.get Fields.npcFlags

end Creature

end RegionScript
