import RegionScript.Object.GameObject

/-!
Why a single step of a script did nothing.
-/

namespace RegionScript

inductive StepError where
  | unsupportedGuid (guid : Guid)
  | buddyDead (entry guid : UInt32)
  | buddyNotLoaded (entry guid region : UInt32)
  | noSearcher (entry : UInt32)
  | buddyNotFound (entry radius : UInt32) (searcher : Guid)
  | noSource
  | notCreature
  | notUnit
  | notGameObject
  | notPlayer
  /-- `count` is the number of fields of the object. -/
  | invalidField (field : UInt32) (count : Nat) (guid : Guid)
  | textNotDisplayed (text : Int32)
  | noWorldObject
  | noCreditSource
  | gameObjectMissing (guid buddy : UInt32)
  | wrongGameObjectType (type : GameObjectType)
  | unknownTemplate (entry : UInt32)
  | summonFailed (entry : UInt32)
  | friendlyTarget (attacker target : Guid)
  | unsupported (command : UInt32)
  deriving DecidableEq, Repr

/-- The reason in words. -/
def StepError.message : StepError → String
  | unsupportedGuid g => s!"unsupported guid {g.describe} for this role"
  | buddyDead e g => s!"buddy {e} by guid {g} is dead"
  | buddyNotLoaded e g r => s!"buddy {e} by guid {g} is not loaded in region {r}"
  | noSearcher e => s!"buddy {e} wanted but no source for the search is available"
  | buddyNotFound e r s => s!"buddy {e} not found in range {r} of {s.describe}"
  | noSource => "no world object as source"
  | notCreature => "call for non-creature"
  | notUnit => "call for non-unit"
  | notGameObject => "call for non-gameobject"
  | notPlayer => "call for non-player"
  | invalidField f count g => s!"field {f} outside 4..{count} of {g.describe}"
  | textNotDisplayed t => s!"could not display text {t}"
  | noWorldObject => "called with a distance but without a world object"
  | noCreditSource => "dynamic kill credit without creature partner"
  | gameObjectMissing g b => s!"game object (guid {g}, buddy {b}) not found"
  | wrongGameObjectType t => s!"game object type {t.label} can not be used with this command"
  | unknownTemplate e => s!"creature template {e} does not exist"
  | summonFailed e => s!"summon of creature {e} failed"
  | friendlyTarget a t => s!"attacker {a.describe} is friendly to target {t.describe}"
  | unsupported c => s!"unsupported command {c}"

end RegionScript
