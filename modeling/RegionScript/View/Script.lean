import RegionScript.Load.Texts
import RegionScript.Registry
import RegionScript.View.Basic

/-!
Views of rows, commands, script tables and of what loading them found.
-/

namespace RegionScript

open Document

/-- The tag of a command. -/
def CommandKind.tag : CommandKind → String
  | talk => "Talk"
  | emote => "Emote"
  | fieldSet => "FieldSet"
  | moveTo => "MoveTo"
  | flagSet => "FlagSet"
  | flagRemove => "FlagRemove"
  | teleportTo => "TeleportTo"
  | questExplored => "QuestExplored"
  | killCredit => "KillCredit"
  | respawnGameObject => "RespawnGameObject"
  | tempSummonCreature => "TempSummonCreature"
  | openDoor => "OpenDoor"
  | closeDoor => "CloseDoor"
  | activateObject => "ActivateObject"
  | removeAura => "RemoveAura"
  | castSpell => "CastSpell"
  | playSound => "PlaySound"
  | createItem => "CreateItem"
  | despawnSelf => "DespawnSelf"
  | playMovie => "PlayMovie"
  | movement => "Movement"
  | setActiveObject => "SetActiveObject"
  | setFaction => "SetFaction"
  | morphToEntryOrModel => "MorphToEntryOrModel"
  | mountToEntryOrModel => "MountToEntryOrModel"
  | setRun => "SetRun"
  | attackStart => "AttackStart"
  | goLockState => "GoLockState"
  | standState => "StandState"
  | modifyNpcFlags => "ModifyNpcFlags"
  | sendTaxiPath => "SendTaxiPath"
  | terminateScript => "TerminateScript"
  | pauseWaypoints => "PauseWaypoints"
  | xpUser => "XpUser"
  | terminateCondition => "TerminateCondition"

/-- A kind of command with its names and what it supports. -/
def CommandKind.view (k : CommandKind) : Json :=
  .record [
    ("debug", .text k.tag),
    ("name", .text k.name),
    ("display", .text k.describe),
    ("creature_buddy", .bool k.isCreatureBuddy),
    ("additional", .bool k.supportsAdditional),
    ("value", .ofNat k.number)]

def MotionChange.word : MotionChange → String
  | idle => "idle"
  | random => "random"
  | waypoint => "waypoint"

def NpcFlagChange.word : NpcFlagChange → String
  | add => "add"
  | remove => "remove"
  | toggle => "toggle"

namespace Payload

/-- The data of a payload. -/
def parts : Payload → List Json
  | talk | activateObject | attackStart => []
  | emote a | moveTo a | teleportTo a | removeAura a | castSpell a | despawnSelf a | playMovie a
  | morphToEntryOrModel a | mountToEntryOrModel a | goLockState a | standState a
  | sendTaxiPath a => [.ofUInt32 a]
  | fieldSet a b | flagSet a b | flagRemove a b | questExplored a b | respawnGameObject a b
  | tempSummonCreature a b | openDoor a b | closeDoor a b | playSound a b | createItem a b
  | setFaction a b | terminateScript a b | terminateCondition a b => [.ofUInt32 a, .ofUInt32 b]
  | killCredit entry group => [.ofUInt32 entry, .bool group]
  | movement motion distance => [.text motion.word, .ofUInt32 distance]
  | setActiveObject b | setRun b | pauseWaypoints b | xpUser b => [.bool b]
  | modifyNpcFlags flags change => [.ofUInt32 flags, .text change.word]

def view (p : Payload) : Json := viewTagged p.kind.tag p.parts

end Payload

def Command.view (c : Command) : Json :=
  .record [
    ("id", .ofUInt32 c.id),
    ("delay", .ofUInt32 c.delay),
    ("payload", c.payload.view),
    ("kind", .ofNat c.kind.number),
    ("buddy", viewWords [c.buddyEntry, c.buddyRadius]),
    ("flags", .ofUInt32 c.flags.bits),
    ("texts", .ofList .ofInt32 c.texts.toList),
    ("pos", c.position.view)]

/-- What follows from a command alone. -/
def Command.traits (c : Command) : List (String × Json) :=
  [("creature_buddy", .bool c.isCreatureBuddy),
    ("additional", .bool c.flags.additional),
    ("go_guid", .ofOption .ofUInt32 c.payload.spawn?),
    ("texts", .ofList .ofInt32 c.populatedTexts),
    ("emotes", viewWords c.emoteAlternatives),
    ("origin", .bool c.position.isOrigin),
    ("valid_coord", .bool c.position.isOnMap)]

/-- The columns of a row in their order. -/
def Row.view (r : Row) : Json :=
  .array (.ofUInt8 r.schemaVersion
    :: [r.id, r.delay, r.command, r.data, r.data2, r.buddyEntry, r.searchRadius, r.flags].map
        Json.ofUInt32
    ++ r.texts.toList.map Json.ofInt32
    ++ r.position.views)

def NamedScript.view (s : NamedScript) : Json :=
  .record [("id", .ofUInt32 s.id), ("script_name", .text s.scriptName)]

def Script.view (s : Script) : Json := .ofList Command.view s

def ScriptTable.view (t : ScriptTable) : Json :=
  .record [
    ("kind", .text t.kind.word),
    ("name", .text t.name),
    ("len", .ofNat t.size),
    ("empty", .bool t.isEmpty),
    ("commands", .ofNat t.commandCount),
    ("ids", viewWords t.ids),
    ("scripts", .ofList (fun e => .array [.ofUInt32 e.1, Script.view e.2]) t.scripts.entries)]

/-- The tag of a reason for dropping a row. -/
def Rejection.tag : Rejection → String
  | unknownCommand .. => "UnknownCommand"
  | unknownBuddyTemplate .. => "UnknownBuddyTemplate"
  | zeroSearchRadius .. => "ZeroSearchRadius"
  | invalidFlags .. => "InvalidFlags"
  | additionalNotSupported .. => "AdditionalNotSupported"
  | buddyRequired .. => "BuddyRequired"
  | buddyGuidNotSpawned .. => "BuddyGuidNotSpawned"
  | buddyGuidEntryMismatch .. => "BuddyGuidEntryMismatch"
  | missingTalkText .. => "MissingTalkText"
  | textIdOutOfRange .. => "TextIdOutOfRange"
  | unknownEmote .. => "UnknownEmote"
  | unknownMap .. => "UnknownMap"
  | invalidCoordinates .. => "InvalidCoordinates"
  | unknownQuest .. => "UnknownQuest"
  | distanceTooLarge .. => "DistanceTooLarge"
  | distanceTooSmall .. => "DistanceTooSmall"
  | unknownCreature .. => "UnknownCreature"
  | noGameObject => "NoGameObject"
  | unknownGameObjectGuid .. => "UnknownGameObjectGuid"
  | unknownGameObjectEntry .. => "UnknownGameObjectEntry"
  | unsupportedGameObjectType .. => "UnsupportedGameObjectType"
  | unknownSpell .. => "UnknownSpell"
  | unknownSound .. => "UnknownSound"
  | unknownItem .. => "UnknownItem"
  | zeroItemAmount => "ZeroItemAmount"
  | movieUnsupported => "MovieUnsupported"
  | invalidMovementType .. => "InvalidMovementType"
  | unknownFaction .. => "UnknownFaction"
  | unknownDisplayModel .. => "UnknownDisplayModel"
  | invalidLockState .. => "InvalidLockState"
  | invalidStandState .. => "InvalidStandState"
  | unknownTaxiPath .. => "UnknownTaxiPath"
  | ambiguousTaxiPath .. => "AmbiguousTaxiPath"
  | unknownCondition .. => "UnknownCondition"

def RejectedRow.view (r : RejectedRow) : Json :=
  .array [.ofUInt32 r.id, .ofUInt32 r.command, .text r.reason.tag, .text r.reason.message]

def LoadReport.view (r : LoadReport) : Json :=
  .record [
    ("table", .text r.table),
    ("loaded", .ofNat r.loaded),
    ("rejected", .ofList RejectedRow.view r.rejected),
    ("corrections", viewWords r.corrections.toList),
    ("unknown_ids", viewWords r.unknownIds)]

def MissingText.view (m : MissingText) : Json :=
  .array [.text m.table, .ofUInt32 m.script, .ofInt32 m.text]

def TextReport.view (r : TextReport) : Json :=
  .record [("missing", .ofList MissingText.view r.missing), ("unused", .ofList .ofInt32 r.unused)]

def RegistryReport.view (r : RegistryReport) : Json :=
  .record [
    ("tables", .ofList LoadReport.view r.tables),
    ("texts", r.texts.view),
    ("loaded", .ofNat r.loadedRows),
    ("rejected", .ofNat r.rejectedRows),
    ("corrections", viewWords r.corrections.toList)]

/-- Count, all names by number with nothing behind the last, and the numbers of given names. -/
def ScriptNames.members (n : ScriptNames) (lookup : List String) : List (String × Json) :=
  [("count", .ofUInt32 n.count),
    ("all", .ofList (.ofOption .text) ((List.range (n.size + 1)).map fun i => n.name? (.ofNat i))),
    ("lookup", viewWords (lookup.map n.idOf))]

end RegionScript
