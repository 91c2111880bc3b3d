import RegionScript.Object.GameObject
import RegionScript.Single.Decimal
import RegionScript.Text.Numeral

/-!
Why a script row is dropped when its table is loaded.
-/

namespace RegionScript

/-- What a buddy entry was looked up as. -/
inductive BuddyTemplate where
  | creature
  | gameObject
  deriving DecidableEq, Repr

inductive Rejection where
  | unknownCommand (command : UInt32)
  | unknownBuddyTemplate (entry : UInt32) (template : BuddyTemplate)
  | zeroSearchRadius (entry : UInt32)
  | invalidFlags (bits : UInt32)
  | additionalNotSupported (bits : UInt32)
  | buddyRequired (bits : UInt32)
  | buddyGuidNotSpawned (guid : UInt32)
  | buddyGuidEntryMismatch (guid found expected : UInt32)
  | missingTalkText (text : Int32)
  /-- Slots are counted from one; the range excludes `max`. -/
  | textIdOutOfRange (slot : Nat) (text min max : Int32)
  | unknownEmote (emote : Int)
  | unknownMap (map : UInt32)
  | invalidCoordinates (x y z : Single)
  | unknownQuest (quest : UInt32)
  | distanceTooLarge (distance : UInt32)
  | distanceTooSmall (distance : UInt32)
  | unknownCreature (entry : UInt32)
  | noGameObject
  | unknownGameObjectGuid (guid : UInt32)
  | unknownGameObjectEntry (entry : UInt32)
  | unsupportedGameObjectType (type : GameObjectType)
  | unknownSpell (spell : UInt32)
  | unknownSound (sound : UInt32)
  | unknownItem (item : UInt32)
  | zeroItemAmount
  | movieUnsupported
  | invalidMovementType (type : UInt32)
  | unknownFaction (faction : UInt32)
  | unknownDisplayModel (model : UInt32)
  | invalidLockState (state : UInt32)
  | invalidStandState (state : UInt32)
  | unknownTaxiPath (path : UInt32)
  | ambiguousTaxiPath (path spell : UInt32)
  | unknownCondition (condition : UInt32)
  deriving DecidableEq, Repr

def BuddyTemplate.word : BuddyTemplate → String
  | creature => "creature"
  | gameObject => "gameobject"

namespace Rejection

open Text

/-- The reason in words. -/
def message : Rejection → String
  | unknownCommand c => s!"unknown command {c}"
  | unknownBuddyTemplate e t => s!"buddy entry {e} is not a known {t.word} template"
  | zeroSearchRadius e => s!"buddy entry {e} has search radius 0"
  | invalidFlags b => s!"invalid data_flags {hex b.toNat}"
  | additionalNotSupported b =>
    s!"data_flags {hex b.toNat} set the additional flag, which this command does not support"
  | buddyRequired b => s!"data_flags {hex b.toNat} require a buddy but none is defined"
  | buddyGuidNotSpawned g =>
    s!"buddy defined by guid {g}, but nothing is spawned with that guid"
  | buddyGuidEntryMismatch g found expected =>
    s!"buddy defined by guid {g} has entry {found}, expected {expected}"
  | missingTalkText t => s!"invalid talk text id {t}"
  | textIdOutOfRange slot t min max => s!"text id {t} in slot {slot} outside {min}..{max}"
  | unknownEmote e => s!"invalid emote id {e}"
  | unknownMap m => s!"invalid map {m}"
  | invalidCoordinates x y z =>
    s!"invalid coordinates ({x.toText}, {y.toText}, {z.toText})"
  | unknownQuest q => s!"invalid quest {q}"
  | distanceTooLarge d => s!"exploration distance {d} too large"
  | distanceTooSmall d => s!"exploration distance {d} too small"
  | unknownCreature e => s!"invalid creature entry {e}"
  | noGameObject => "no game object guid nor buddy defined"
  | unknownGameObjectGuid g => s!"invalid game object guid {g}"
  | unknownGameObjectEntry e => s!"game object entry {e} does not exist"
  | unsupportedGameObjectType t =>
    s!"game object type {t.label} is not supported by this command"
  | unknownSpell s => s!"nonexistent spell {s}"
  | unknownSound s => s!"nonexistent sound {s}"
  | unknownItem i => s!"nonexistent item {i}"
  | zeroItemAmount => "create item amount is 0"
  | movieUnsupported => "play movie is not supported"
  | invalidMovementType t => s!"invalid movement type {t}"
  | unknownFaction f => s!"faction template {f} does not exist"
  | unknownDisplayModel m => s!"display model {m} does not exist"
  | invalidLockState s => s!"invalid lock state {hex s.toNat}"
  | invalidStandState s => s!"invalid stand state {s}"
  | unknownTaxiPath p => s!"taxi path {p} does not exist"
  | ambiguousTaxiPath p s => s!"taxi path {p} can already be triggered by spell {s}"
  | unknownCondition c => s!"condition {c} does not exist"

end Rejection

end RegionScript
