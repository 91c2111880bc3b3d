import RegionScript.Step.Basic

/-!
Steps that write update fields.
-/

namespace RegionScript

/-- Whether a script may write a field: behind the header and inside the object. -/
def Fields.isWritable (f : Fields) (field : UInt32) : Bool :=
  Fields.headerLast < field && field.toNat < f.count

namespace Step

/-- Changes a field of the source, or of the item that started the script. -/
def writeField (r : Region) (p : Participants) (field : UInt32) (change : Fields → Fields) :
    StepResult :=
  require r p.sourceOrItem .noSource fun holder =>
  require r (r.fields? holder) .noSource fun fields =>
  demand r (fields.isWritable field) (.invalidField field fields.count holder) <|
  applied (r.modifyFields holder change)

def fieldSet (r : Region) (p : Participants) (field value : UInt32) : StepResult :=
  writeField r p field (·.set field value)

def flagSet (r : Region) (p : Participants) (field flag : UInt32) : StepResult :=
  writeField r p field (·.setFlag field flag)

def flagRemove (r : Region) (p : Participants) (field flag : UInt32) : StepResult :=
  writeField r p field (·.removeFlag field flag)

/-- Locking goes before unlocking. -/
def changeLock (state : UInt32) (f : Fields) : Fields :=
  if state &&& LockFlag.lock ≠ 0 then f.setFlag Fields.gameObjectFlags Fields.lockedFlag
  else if state &&& LockFlag.unlock ≠ 0 then
    f.removeFlag Fields.gameObjectFlags Fields.lockedFlag
  else f

/-- Forbidding interaction goes before allowing it. -/
def changeInteraction (state : UInt32) (f : Fields) : Fields :=
  if state &&& LockFlag.nonInteract ≠ 0 then
    f.setFlag Fields.gameObjectFlags Fields.noInteractFlag
  else if state &&& LockFlag.interact ≠ 0 then
    f.removeFlag Fields.gameObjectFlags Fields.noInteractFlag
  else f

/-- Sets the lock and the interaction of a game object. -/
def goLockState (r : Region) (p : Participants) (state : UInt32) : StepResult :=
  require r p.sourceGameObject? .notGameObject fun g =>
  require r (r.fields? g) .notGameObject fun _ =>
  applied (r.modifyFields g fun f => changeInteraction state (changeLock state f))

/-- Toggling clears the flags if any of them is raised, and raises them otherwise. -/
def changeNpcFlags (flags : UInt32) (change : NpcFlagChange) (f : Fields) : Fields :=
  match change with
  | .add => f.setFlag Fields.npcFlags flags
  | .remove => f.removeFlag Fields.npcFlags flags
  | .toggle =>
    if f.hasFlag Fields.npcFlags flags then f.removeFlag Fields.npcFlags flags
    else f.setFlag Fields.npcFlags flags

/-- Changes what a creature offers to players. -/
def modifyNpcFlags (r : Region) (p : Participants) (flags : UInt32) (change : NpcFlagChange) :
    StepResult :=
  require r p.sourceCreature? .notCreature fun g =>
  require r (r.fields? g) .notCreature fun _ =>
  applied (r.modifyFields g (changeNpcFlags flags change))

/-- Stops or resumes a player's gain of experience. -/
def xpUser (r : Region) (p : Participants) (disable : Bool) : StepResult :=
  require r p.player? .notPlayer fun g =>
  require r (r.fields? g) .notPlayer fun _ =>
  applied <| r.modifyFields g fun f =>
    if disable then f.setFlag Fields.playerFlags Fields.xpDisabledFlag
    else f.removeFlag Fields.playerFlags Fields.xpDisabledFlag

end Step

end RegionScript
