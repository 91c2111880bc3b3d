import RegionScript.Guid
import RegionScript.Position
import RegionScript.Object.Fields

/-!
Game objects: doors, buttons, chests and the other fixtures of a map.
-/

namespace RegionScript

inductive GameObjectType where
  | door
  | button
  | questGiver
  | chest
  | generic
  | trap
  | goober
  | camera
  | fishingNode
  | fishingHole
  | capturePoint
  | other
  deriving DecidableEq, Repr

namespace GameObjectType

def all : List GameObjectType :=
  [door, button, questGiver, chest, generic, trap, goober, camera, fishingNode, fishingHole,
    capturePoint, other]

/-- The word of game data files. -/
def word : GameObjectType → String
  | door => "door"
  | button => "button"
  | questGiver => "quest_giver"
  | chest => "chest"
  | generic => "generic"
  | trap => "trap"
  | goober => "goober"
  | camera => "camera"
  | fishingNode => "fishing_node"
  | fishingHole => "fishing_hole"
  | capturePoint => "capture_point"
  | other => "other"

/-- The name in messages. -/
def label : GameObjectType → String
  | door => "Door"
  | button => "Button"
  | questGiver => "QuestGiver"
  | chest => "Chest"
  | generic => "Generic"
  | trap => "Trap"
  | goober => "Goober"
  | camera => "Camera"
  | fishingNode => "FishingNode"
  | fishingHole => "FishingHole"
  | capturePoint => "CapturePoint"
  | other => "Other"

/-- Types that a script never respawns. -/
def blocksRespawn : GameObjectType → Bool
  | fishingNode | fishingHole | door | button | trap => true
  | _ => false

/-- Types whose templates list events of their own. -/
def raisesEvents : GameObjectType → Bool
  | goober | chest | camera | capturePoint => true
  | _ => false

end GameObjectType

/-- State of a door or button; a closed door is ready, an open one active. -/
inductive UseState where
  | active
  | ready
  deriving DecidableEq, Repr

def UseState.toggle : UseState → UseState
  | active => ready
  | ready => active

/-- A pending return of a used door or button to an earlier state. -/
structure Reset where
  due : UInt64
  restore : UseState
  deriving DecidableEq

/-- A game object; times are region clock milliseconds. -/
structure GameObject where
  guid : Guid
  type : GameObjectType
  position : Position
  zone : UInt32 := 0
  fields : Fields := .zeros Fields.gameObjectEnd
  state : UseState := .ready
  spawned : Bool := true
  despawnAt : Option UInt64 := none
  reset : Option Reset := none
  deriving DecidableEq

def GameObject.flags (g : GameObject) : UInt32 := g.fields.get Fields.gameObjectFlags

end RegionScript
