import RegionScript.Catalog.Starts
import RegionScript.Script.Command

/-!
Whether a script row may be loaded.

A row is decoded, then its buddy, its flags and its payload are checked against the game data, and
the first fault found is the reason for which it is dropped. What is accepted depends on the row,
the catalog and the options alone.
-/

namespace RegionScript

/-- Text ids below this one are none. -/
def minTextId : Int32 := 2000000000

/-- Text ids end before this one. -/
def maxTextId : Int32 := 2000010000

structure LoaderOptions where
  /-- Also refuse taxi paths that a spell can start. -/
  strict : Bool := true
  minText : Int32 := minTextId
  /-- The first number that is no text id any more. -/
  maxText : Int32 := maxTextId
  deriving DecidableEq

/-- Whether a text id lies in the range of the options. -/
def LoaderOptions.admits (o : LoaderOptions) (text : Int32) : Bool :=
  o.minText ≤ text && text < o.maxText

/-- How far players see, and so the longest distance to an exploration's anchor. -/
def visibilityDistance : UInt32 := 90

/-- How close players come to interact, and so the shortest distance but zero. -/
def interactionDistance : UInt32 := 5

/-- Stand states are below this number. -/
def standStateCount : UInt32 := 9

/-- Checks rows against a catalog. -/
structure Loader where
  catalog : Catalog
  options : LoaderOptions := {}

namespace Loader

/-- A fault that is there on a condition. -/
def faultIf (condition : Bool) (fault : Rejection) : Option Rejection :=
  if condition then some fault else none

@[simp] theorem faultIf_eq_none {condition : Bool} {fault : Rejection} :
    faultIf condition fault = none ↔ condition = false := by
  cases condition <;> simp [faultIf]

theorem eq_of_faultIf {condition : Bool} {fault reason : Rejection}
    (h : faultIf condition fault = some reason) : reason = fault := by
  unfold faultIf at h
  split at h
  · exact (Option.some.inj h).symm
  · cases h

/-- A buddy that is looked for needs a template and a radius. -/
def buddyFault (l : Loader) (c : Command) : Option Rejection :=
  if c.buddyEntry = 0 ∨ c.flags.buddyByGuid then none
  else
    let template : BuddyTemplate := if c.isCreatureBuddy then .creature else .gameObject
    let known :=
      if c.isCreatureBuddy then l.catalog.creatureTemplates.contains c.buddyEntry
      else l.catalog.gameObjectTemplates.contains c.buddyEntry
    (faultIf (!known) (.unknownBuddyTemplate c.buddyEntry template)).or
      (faultIf (c.buddyRadius = 0) (.zeroSearchRadius c.buddyEntry))

/-- The entry that is spawned under the guid of a buddy. -/
def spawnedBuddy? (l : Loader) (c : Command) : Option UInt32 :=
  (if c.isCreatureBuddy then l.catalog.creatureSpawns.get? c.buddyRadius
    else l.catalog.gameObjectSpawns.get? c.buddyRadius).map (·.entry)

/-- A buddy that is given by guid has to be spawned with its entry. -/
def spawnedBuddyFault (l : Loader) (c : Command) : Option Rejection :=
  match l.spawnedBuddy? c with
  | none => some (.buddyGuidNotSpawned c.buddyRadius)
  | some found =>
    faultIf (found ≠ c.buddyEntry) (.buddyGuidEntryMismatch c.buddyRadius found c.buddyEntry)

/-- The additional flag needs a command that knows it, and a buddy as target needs a buddy. -/
def flagFault (l : Loader) (c : Command) : Option Rejection :=
  (faultIf (c.flags.additional && !c.kind.supportsAdditional)
      (.additionalNotSupported c.flags.bits)).or <|
  (faultIf (c.flags.buddyAsTarget && c.buddyEntry = 0) (.buddyRequired c.flags.bits)).or <|
  if c.flags.buddyByGuid then l.spawnedBuddyFault c else none

/-- The template entry of the game object that a command is about: that of the spawn it names, or
else its buddy's. -/
def objectEntry (l : Loader) (c : Command) : Except Rejection UInt32 :=
  match c.payload.spawn? with
  | some guid =>
    match l.catalog.gameObjectSpawns.get? guid with
    | some spawn => .ok spawn.entry
    | none => .error (.unknownGameObjectGuid guid)
  | none => if c.buddyEntry = 0 then .error .noGameObject else .ok c.buddyEntry

/-- The type of that game object. -/
def objectType (l : Loader) (c : Command) : Except Rejection GameObjectType :=
  match l.objectEntry c with
  | .error e => .error e
  | .ok entry =>
    match l.catalog.gameObjectTemplates.get? entry with
    | some t => .ok t.type
    | none => .error (.unknownGameObjectEntry entry)

/-- A fault of a command whose game object has a type that is not allowed. -/
def objectFault (l : Loader) (c : Command) (allowed : GameObjectType → Bool) : Option Rejection :=
  match l.objectType c with
  | .error e => some e
  | .ok type => faultIf (!allowed type) (.unsupportedGameObjectType type)

/-- Every text that is set has to be in range, and the first one has to be set. -/
def textFault (l : Loader) (c : Command) : Option Rejection :=
  (faultIf (c.firstText = 0) (.missingTalkText c.firstText)).or <|
    c.texts.toList.zipIdx.findSome? fun (text, slot) =>
      faultIf (text ≠ 0 && !l.options.admits text)
        (.textIdOutOfRange (slot + 1) text l.options.minText l.options.maxText)

/-- Whether a text slot of an emote command holds an emote. -/
def knowsEmote (l : Loader) (slot : Int32) : Bool :=
  0 ≤ slot && l.catalog.emotes.contains slot.toUInt32

/-- The emote and all alternatives have to be known. -/
def emoteFault (l : Loader) (c : Command) (emote : UInt32) : Option Rejection :=
  (faultIf (!l.catalog.emotes.contains emote) (.unknownEmote emote.toNat)).or <|
    c.populatedTexts.findSome? fun slot => faultIf (!l.knowsEmote slot) (.unknownEmote slot.toInt)

/-- The command's position has to be on a map. -/
def positionFault (c : Command) : Option Rejection :=
  faultIf (!c.position.isOnMap) (.invalidCoordinates c.position.x c.position.y c.position.z)

/-- A creature entry has to be known unless it is zero. -/
def creatureFault (l : Loader) (entry : UInt32) : Option Rejection :=
  faultIf (entry ≠ 0 && !l.catalog.creatureTemplates.contains entry) (.unknownCreature entry)

/-- Bits may not contradict each other, nor be missing or unknown. -/
def isLockState (state : UInt32) : Bool :=
  !(state &&& LockFlag.lock ≠ 0 && state &&& LockFlag.unlock ≠ 0)
    && !(state &&& LockFlag.nonInteract ≠ 0 && state &&& LockFlag.interact ≠ 0)
    && state ≠ 0 && state < 0x10

/-- A display is a model if the command is additional, and a creature entry otherwise. -/
def displayFault (l : Loader) (c : Command) (value : UInt32) : Option Rejection :=
  if c.flags.additional then
    faultIf (value ≠ 0 && !l.catalog.displayModels.contains value) (.unknownDisplayModel value)
  else l.creatureFault value

/-- In strict mode a taxi path may not be one that a spell starts. -/
def taxiSpellFault (l : Loader) (path : UInt32) : Option Rejection :=
  if l.options.strict then (l.catalog.taxiSpell? path).map (.ambiguousTaxiPath path) else none

/-- The fault of a command's own data. -/
def payloadFault (l : Loader) (c : Command) : Option Rejection :=
  match c.payload with
  | .talk => l.textFault c
  | .emote e => l.emoteFault c e
  | .teleportTo map =>
    (faultIf (!l.catalog.maps.contains map) (.unknownMap map)).or (positionFault c)
  | .questExplored quest distance =>
    (faultIf (!l.catalog.quests.contains quest) (.unknownQuest quest)).or <|
    (faultIf (visibilityDistance < distance) (.distanceTooLarge distance)).or <|
    faultIf (distance ≠ 0 && distance < interactionDistance) (.distanceTooSmall distance)
  | .killCredit entry _ => l.creatureFault entry
  | .respawnGameObject .. => l.objectFault c (!·.blocksRespawn)
  | .tempSummonCreature entry _ =>
    (positionFault c).or
      (faultIf (!l.catalog.creatureTemplates.contains entry) (.unknownCreature entry))
  | .openDoor .. | .closeDoor .. => l.objectFault c (· = .door)
  | .removeAura spell | .castSpell spell =>
    faultIf (!l.catalog.spells.contains spell) (.unknownSpell spell)
  | .playSound sound _ => faultIf (!l.catalog.sounds.contains sound) (.unknownSound sound)
  | .createItem item amount =>
    (faultIf (!l.catalog.itemTemplates.contains item) (.unknownItem item)).or
      (faultIf (amount = 0) .zeroItemAmount)
  | .playMovie _ => some .movieUnsupported
  | .setFaction faction _ =>
    faultIf (faction ≠ 0 && !l.catalog.factions.contains faction) (.unknownFaction faction)
  | .morphToEntryOrModel value | .mountToEntryOrModel value => l.displayFault c value
  | .goLockState state => faultIf (!isLockState state) (.invalidLockState state)
  | .standState state => faultIf (standStateCount ≤ state) (.invalidStandState state)
  | .sendTaxiPath path =>
    (faultIf (!l.catalog.taxiPaths.contains path) (.unknownTaxiPath path)).or
      (l.taxiSpellFault path)
  | .terminateScript entry _ => l.creatureFault entry
  | .terminateCondition condition quest =>
    (faultIf (!l.catalog.conditions.contains condition) (.unknownCondition condition)).or
      (faultIf (quest ≠ 0 && !l.catalog.quests.contains quest) (.unknownQuest quest))
  | .fieldSet .. | .moveTo .. | .flagSet .. | .flagRemove .. | .activateObject | .despawnSelf ..
  | .movement .. | .setActiveObject .. | .setRun .. | .attackStart | .modifyNpcFlags ..
  | .pauseWaypoints .. | .xpUser .. => none

/-- The first fault of a command. -/
def fault (l : Loader) (c : Command) : Option Rejection :=
  (l.buddyFault c).or ((l.flagFault c).or (l.payloadFault c))

/-- The command of a row, or why the row is dropped. -/
def check (l : Loader) (row : Row) : Except Rejection Command :=
  match Command.ofRow row with
  | .error e => .error e
  | .ok c =>
    match l.fault c with
    | some e => .error e
    | none => .ok c

section Checks

variable {l : Loader} {row : Row} {c : Command}

theorem check_of_ofRow (hrow : Command.ofRow row = .ok c) :
    l.check row = (l.fault c).elim (.ok c) .error := by
  simp only [check, hrow]
  cases l.fault c <;> rfl

theorem check_eq_ok_iff :
    l.check row = .ok c ↔ Command.ofRow row = .ok c ∧ l.fault c = none := by
  cases hrow : Command.ofRow row with
  | error e => simp [check, hrow]
  | ok d =>
    rw [check_of_ofRow hrow, Except.ok.injEq]
    cases hfault : l.fault d with
    | none =>
      rw [Option.elim_none, Except.ok.injEq]
      exact ⟨fun hd => ⟨hd, hd ▸ hfault⟩, And.left⟩
    | some e =>
      rw [Option.elim_some]
      constructor
      · intro h
        cases h
      · rintro ⟨rfl, hnone⟩
        rw [hfault] at hnone
        cases hnone

end Checks

end Loader

end RegionScript
