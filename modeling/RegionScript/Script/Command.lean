import RegionScript.Script.Rejection
import RegionScript.Script.Row

/-!
Typed script commands.

A row decodes into a command whose payload holds just the data that its kind understands. Decoding
fails on an unknown command number, on unknown flag bits and on an unknown kind of movement; whether
the data refers to anything is checked against the catalog later.
-/

namespace RegionScript

/-- The kinds of commands, in the order of their numbers. -/
inductive CommandKind where
  | talk
  | emote
  | fieldSet
  | moveTo
  | flagSet
  | flagRemove
  | teleportTo
  | questExplored
  | killCredit
  | respawnGameObject
  | tempSummonCreature
  | openDoor
  | closeDoor
  | activateObject
  | removeAura
  | castSpell
  | playSound
  | createItem
  | despawnSelf
  | playMovie
  | movement
  | setActiveObject
  | setFaction
  | morphToEntryOrModel
  | mountToEntryOrModel
  | setRun
  | attackStart
  | goLockState
  | standState
  | modifyNpcFlags
  | sendTaxiPath
  | terminateScript
  | pauseWaypoints
  | xpUser
  | terminateCondition
  deriving DecidableEq, Repr

namespace CommandKind

def all : List CommandKind :=
  [talk, emote, fieldSet, moveTo, flagSet, flagRemove, teleportTo, questExplored, killCredit,
    respawnGameObject, tempSummonCreature, openDoor, closeDoor, activateObject, removeAura,
    castSpell, playSound, createItem, despawnSelf, playMovie, movement, setActiveObject, setFaction,
    morphToEntryOrModel, mountToEntryOrModel, setRun, attackStart, goLockState, standState,
    modifyNpcFlags, sendTaxiPath, terminateScript, pauseWaypoints, xpUser, terminateCondition]

/-- The number that stands for a kind in a row. -/
def number (k : CommandKind) : Nat := k.ctorIdx

def ofNumber? (n : UInt32) : Option CommandKind := all[n.toNat]?

/-- The number of a kind reads back as the kind. -/
theorem ofNumber?_number (k : CommandKind) : ofNumber? (UInt32.ofNat k.number) = some k := by
  cases k <;> rfl

/-- The name of a command in messages. -/
def name : CommandKind → String
  | talk => "SCRIPT_COMMAND_TALK"
  | emote => "SCRIPT_COMMAND_EMOTE"
  | fieldSet => "SCRIPT_COMMAND_FIELD_SET"
  | moveTo => "SCRIPT_COMMAND_MOVE_TO"
  | flagSet => "SCRIPT_COMMAND_FLAG_SET"
  | flagRemove => "SCRIPT_COMMAND_FLAG_REMOVE"
  | teleportTo => "SCRIPT_COMMAND_TELEPORT_TO"
  | questExplored => "SCRIPT_COMMAND_QUEST_EXPLORED"
  | killCredit => "SCRIPT_COMMAND_KILL_CREDIT"
  | respawnGameObject => "SCRIPT_COMMAND_RESPAWN_GAMEOBJECT"
  | tempSummonCreature => "SCRIPT_COMMAND_TEMP_SUMMON_CREATURE"
  | openDoor => "SCRIPT_COMMAND_OPEN_DOOR"
  | closeDoor => "SCRIPT_COMMAND_CLOSE_DOOR"
  | activateObject => "SCRIPT_COMMAND_ACTIVATE_OBJECT"
  | removeAura => "SCRIPT_COMMAND_REMOVE_AURA"
  | castSpell => "SCRIPT_COMMAND_CAST_SPELL"
  | playSound => "SCRIPT_COMMAND_PLAY_SOUND"
  | createItem => "SCRIPT_COMMAND_CREATE_ITEM"
  | despawnSelf => "SCRIPT_COMMAND_DESPAWN_SELF"
  | playMovie => "SCRIPT_COMMAND_PLAY_MOVIE"
  | movement => "SCRIPT_COMMAND_MOVEMENT"
  | setActiveObject => "SCRIPT_COMMAND_SET_ACTIVEOBJECT"
  | setFaction => "SCRIPT_COMMAND_SET_FACTION"
  | morphToEntryOrModel => "SCRIPT_COMMAND_MORPH_TO_ENTRY_OR_MODEL"
  | mountToEntryOrModel => "SCRIPT_COMMAND_MOUNT_TO_ENTRY_OR_MODEL"
  | setRun => "SCRIPT_COMMAND_SET_RUN"
  | attackStart => "SCRIPT_COMMAND_ATTACK_START"
  | goLockState => "SCRIPT_COMMAND_GO_LOCK_STATE"
  | standState => "SCRIPT_COMMAND_STAND_STATE"
  | modifyNpcFlags => "SCRIPT_COMMAND_MODIFY_NPC_FLAGS"
  | sendTaxiPath => "SCRIPT_COMMAND_SEND_TAXI_PATH"
  | terminateScript => "SCRIPT_COMMAND_TERMINATE_SCRIPT"
  | pauseWaypoints => "SCRIPT_COMMAND_PAUSE_WAYPOINTS"
  | xpUser => "SCRIPT_COMMAND_XP_USER"
  | terminateCondition => "SCRIPT_COMMAND_TERMINATE_COND"

/-- Name and number. -/
def describe (k : CommandKind) : String := s!"{k.name} ({k.number})"

/-- The buddy of these commands is a game object, that of all others a creature. -/
def isCreatureBuddy : CommandKind → Bool
  | respawnGameObject | openDoor | closeDoor | goLockState => false
  | _ => true

/-- The commands to which the additional flag means something. -/
def supportsAdditional : CommandKind → Bool
  | moveTo | tempSummonCreature | castSpell | movement | morphToEntryOrModel | mountToEntryOrModel
  | terminateScript | terminateCondition => true
  | _ => false

end CommandKind

/-- The motions that a command can switch a creature to. -/
inductive MotionChange where
  | idle
  | random
  | waypoint
  deriving DecidableEq, Repr

def MotionChange.ofNumber? (n : UInt32) : Option MotionChange :=
  if n = 0 then some .idle
  else if n = 1 then some .random
  else if n = 2 then some .waypoint
  else none

inductive NpcFlagChange where
  | add
  | remove
  | toggle
  deriving DecidableEq, Repr

/-- Adding goes before removing, and no bit means toggling. -/
def NpcFlagChange.ofNumber (n : UInt32) : NpcFlagChange :=
  if n &&& 1 ≠ 0 then .add else if n &&& 2 ≠ 0 then .remove else .toggle

/-! ### Bits of data words -/

namespace SoundFlag

def targetPlayer : UInt32 := 0x1
def distance : UInt32 := 0x2
def mapWide : UInt32 := 0x4
def zoneWide : UInt32 := 0x8

end SoundFlag


namespace LockFlag

def lock : UInt32 := 0x1
def unlock : UInt32 := 0x2
def nonInteract : UInt32 := 0x4
def interact : UInt32 := 0x8

end LockFlag

/-- What a command does, with its data. -/
inductive Payload where
  /-- The texts are in the text slots. -/
  | talk
  /-- Alternatives are in the text slots. -/
  | emote (emote : UInt32)
  | fieldSet (field value : UInt32)
  /-- In hundredths of a unit per second; zero leaves the pace to the unit. -/
  | moveTo (speed : UInt32)
  | flagSet (field value : UInt32)
  | flagRemove (field value : UInt32)
  | teleportTo (map : UInt32)
  | questExplored (quest distance : UInt32)
  | killCredit (entry : UInt32) (group : Bool)
  | respawnGameObject (spawn delay : UInt32)
  | tempSummonCreature (entry delay : UInt32)
  | openDoor (spawn delay : UInt32)
  | closeDoor (spawn delay : UInt32)
  | activateObject
  | removeAura (spell : UInt32)
  | castSpell (spell : UInt32)
  | playSound (sound flags : UInt32)
  | createItem (item amount : UInt32)
  | despawnSelf (delay : UInt32)
  | playMovie (movie : UInt32)
  | movement (motion : MotionChange) (distance : UInt32)
  | setActiveObject (activate : Bool)
  | setFaction (faction flags : UInt32)
  | morphToEntryOrModel (value : UInt32)
  | mountToEntryOrModel (value : UInt32)
  | setRun (run : Bool)
  | attackStart
  | goLockState (state : UInt32)
  | standState (state : UInt32)
  | modifyNpcFlags (flags : UInt32) (change : NpcFlagChange)
  | sendTaxiPath (path : UInt32)
  /-- The waypoint pause, in milliseconds, is in the first text slot. -/
  | terminateScript (entry distance : UInt32)
  | pauseWaypoints (pause : Bool)
  | xpUser (disable : Bool)
  | terminateCondition (condition quest : UInt32)
  deriving DecidableEq

namespace Payload

def kind : Payload → CommandKind
  | talk => .talk
  | emote .. => .emote
  | fieldSet .. => .fieldSet
  | moveTo .. => .moveTo
  | flagSet .. => .flagSet
  | flagRemove .. => .flagRemove
  | teleportTo .. => .teleportTo
  | questExplored .. => .questExplored
  | killCredit .. => .killCredit
  | respawnGameObject .. => .respawnGameObject
  | tempSummonCreature .. => .tempSummonCreature
  | openDoor .. => .openDoor
  | closeDoor .. => .closeDoor
  | activateObject => .activateObject
  | removeAura .. => .removeAura
  | castSpell .. => .castSpell
  | playSound .. => .playSound
  | createItem .. => .createItem
  | despawnSelf .. => .despawnSelf
  | playMovie .. => .playMovie
  | movement .. => .movement
  | setActiveObject .. => .setActiveObject
  | setFaction .. => .setFaction
  | morphToEntryOrModel .. => .morphToEntryOrModel
  | mountToEntryOrModel .. => .mountToEntryOrModel
  | setRun .. => .setRun
  | attackStart => .attackStart
  | goLockState .. => .goLockState
  | standState .. => .standState
  | modifyNpcFlags .. => .modifyNpcFlags
  | sendTaxiPath .. => .sendTaxiPath
  | terminateScript .. => .terminateScript
  | pauseWaypoints .. => .pauseWaypoints
  | xpUser .. => .xpUser
  | terminateCondition .. => .terminateCondition

/-- The payload of a kind, from the two data words. -/
def decode (kind : CommandKind) (a b : UInt32) : Except Rejection Payload :=
  match kind with
  | .talk => .ok talk
  | .emote => .ok (emote a)
  | .fieldSet => .ok (fieldSet a b)
  | .moveTo => .ok (moveTo b)
  | .flagSet => .ok (flagSet a b)
  | .flagRemove => .ok (flagRemove a b)
  | .teleportTo => .ok (teleportTo a)
  | .questExplored => .ok (questExplored a b)
  | .killCredit => .ok (killCredit a (b ≠ 0))
  | .respawnGameObject => .ok (respawnGameObject a b)
  | .tempSummonCreature => .ok (tempSummonCreature a b)
  | .openDoor => .ok (openDoor a b)
  | .closeDoor => .ok (closeDoor a b)
  | .activateObject => .ok activateObject
  | .removeAura => .ok (removeAura a)
  | .castSpell => .ok (castSpell a)
  | .playSound => .ok (playSound a b)
  | .createItem => .ok (createItem a b)
  | .despawnSelf => .ok (despawnSelf a)
  | .playMovie => .ok (playMovie a)
  | .movement =>
    match MotionChange.ofNumber? a with
    | some motion => .ok (movement motion b)
    | none => .error (.invalidMovementType a)
  | .setActiveObject => .ok (setActiveObject (a ≠ 0))
  | .setFaction => .ok (setFaction a b)
  | .morphToEntryOrModel => .ok (morphToEntryOrModel a)
  | .mountToEntryOrModel => .ok (mountToEntryOrModel a)
  | .setRun => .ok (setRun (a ≠ 0))
  | .attackStart => .ok attackStart
  | .goLockState => .ok (goLockState a)
  | .standState => .ok (standState a)
  | .modifyNpcFlags => .ok (modifyNpcFlags a (.ofNumber b))
  | .sendTaxiPath => .ok (sendTaxiPath a)
  | .terminateScript => .ok (terminateScript a b)
  | .pauseWaypoints => .ok (pauseWaypoints (a ≠ 0))
  | .xpUser => .ok (xpUser (a ≠ 0))
  | .terminateCondition => .ok (terminateCondition a b)

/-- The spawn that a respawn or door command names, if it names one. -/
def spawn? : Payload → Option UInt32
  | respawnGameObject spawn _ | openDoor spawn _ | closeDoor spawn _ =>
    if spawn = 0 then none else some spawn
  | _ => none

end Payload

/-- What a step changes about its buddy, its direction and its meaning. -/
structure StepFlags where
  buddyAsTarget : Bool := false
  reverseDirection : Bool := false
  targetsSelf : Bool := false
  additional : Bool := false
  buddyByGuid : Bool := false
  buddyIsPet : Bool := false
  deriving DecidableEq, Repr

namespace StepFlags

/-- The six lowest bits of a row's flags; no other bit may be set. -/
def ofBits? (bits : UInt32) : Option StepFlags :=
  if bits < 0x40 then
    some {
      buddyAsTarget := bits &&& 0x01 ≠ 0
      reverseDirection := bits &&& 0x02 ≠ 0
      targetsSelf := bits &&& 0x04 ≠ 0
      additional := bits &&& 0x08 ≠ 0
      buddyByGuid := bits &&& 0x10 ≠ 0
      buddyIsPet := bits &&& 0x20 ≠ 0 }
  else none

def bits (f : StepFlags) : UInt32 :=
  (if f.buddyAsTarget then 0x01 else 0) ||| (if f.reverseDirection then 0x02 else 0)
    ||| (if f.targetsSelf then 0x04 else 0) ||| (if f.additional then 0x08 else 0)
    ||| (if f.buddyByGuid then 0x10 else 0) ||| (if f.buddyIsPet then 0x20 else 0)

end StepFlags

/-- One step of a script, decoded. `delay` is in seconds. -/
structure Command where
  id : UInt32
  delay : UInt32
  payload : Payload
  buddyEntry : UInt32
  /-- How far to look for the buddy, or its spawn guid when the buddy is given by guid. -/
  buddyRadius : UInt32
  flags : StepFlags
  texts : Vector Int32 textSlots
  position : Position
  deriving DecidableEq

namespace Command

/-- Decodes number, flags and payload, in this order. -/
def ofRow (r : Row) : Except Rejection Command :=
  match CommandKind.ofNumber? r.command with
  | none => .error (.unknownCommand r.command)
  | some kind =>
    match StepFlags.ofBits? r.flags with
    | none => .error (.invalidFlags r.flags)
    | some flags =>
      match Payload.decode kind r.data r.data2 with
      | .error e => .error e
      | .ok payload =>
        .ok { id := r.id, delay := r.delay, payload, buddyEntry := r.buddyEntry,
              buddyRadius := r.searchRadius, flags, texts := r.texts, position := r.position }

def kind (c : Command) : CommandKind := c.payload.kind

def isCreatureBuddy (c : Command) : Bool := c.kind.isCreatureBuddy

/-- The text in the first slot. -/
def firstText (c : Command) : Int32 := c.texts[0]

/-- The texts that are set, in slot order. -/
def populatedTexts (c : Command) : List Int32 := c.texts.toList.filter (· ≠ 0)

/-- Other emotes to choose from: the slots before the first empty one. -/
def emoteAlternatives (c : Command) : List UInt32 :=
  (c.texts.toList.takeWhile (· ≠ 0)).map Int32.toUInt32

end Command

end RegionScript
