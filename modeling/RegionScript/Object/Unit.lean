import RegionScript.Guid
import RegionScript.Position

/-!
What creatures and players share: a place, a body and a way of moving.
-/

namespace RegionScript

/-- What drives a unit's movement. -/
inductive Motion where
  | idle
  | random (center : Position) (radius : Single)
  /-- Along its path, from a node on; `pause` is the wait still to come, in milliseconds. -/
  | waypoint (node pause : UInt32)
  | point (destination : Position) (speed : Option Single)
  deriving DecidableEq

/-- The state common to creatures and players. -/
structure UnitState where
  position : Position
  boundingRadius : Single := .half
  alive : Bool := true
  faction : UInt32
  auras : List UInt32 := []
  standState : UInt8 := 0
  walking : Bool := true
  motion : Motion := .idle
  deriving DecidableEq

namespace UnitState

def hasAura (u : UnitState) (spell : UInt32) : Bool := u.auras.contains spell

/-- Takes every aura of a spell off. -/
def removeAura (u : UnitState) (spell : UInt32) : UnitState :=
  { u with auras := u.auras.filter (· ≠ spell) }

/-- An aura is held once, however often its spell is cast. -/
def addAura (u : UnitState) (spell : UInt32) : UnitState :=
  if u.hasAura spell then u else { u with auras := u.auras ++ [spell] }

end UnitState

/-- Sum of two pauses, at most the longest a word can hold. -/
def addPause (a b : UInt32) : UInt32 :=
  if a.toNat + b.toNat < UInt32.size then a + b else 0xffffffff

/-- Lengthens the wait of a unit that follows waypoints; other motions have none. -/
def Motion.extendPause (ms : UInt32) : Motion → Motion
  | .waypoint node pause => .waypoint node (addPause pause ms)
  | m => m

end RegionScript
