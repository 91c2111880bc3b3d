import RegionScript.Step.Basic

/-!
Steps on game objects: respawning them, opening and closing doors, using them.
-/

namespace RegionScript.Step

/-- Shortest time that a respawned object stays, in seconds. -/
def minRespawnDelay : UInt32 := 5

/-- Shortest time before a door returns, in seconds. -/
def minDoorReset : UInt32 := 15

/-- The game object that a command is about: the spawn that it names, or else the source. -/
def commandObject (ctx : StepContext) (r : Region) (c : Command) (p : Participants)
    (spawn : UInt32) : Except StepError Guid :=
  let missing := StepError.gameObjectMissing spawn c.buddyEntry
  if spawn = 0 then p.sourceGameObject?.elim (.error .notGameObject) .ok
  else
    match ctx.catalog.gameObjectSpawns.get? spawn with
    | none => .error missing
    | some s => (r.gameObject? (.gameObject s.entry spawn)).elim (.error missing) (.ok ·.guid)

/-- Spawns a game object that is gone, for at least five seconds. -/
def respawnGameObject (ctx : StepContext) (r : Region) (c : Command) (p : Participants)
    (spawn delay : UInt32) : StepResult :=
  attempt r (commandObject ctx r c p spawn) fun g =>
  require r (r.gameObject? g) (.gameObjectMissing spawn c.buddyEntry) fun o =>
  demand r (!o.type.blocksRespawn) (.wrongGameObjectType o.type) <|
  if o.spawned then applied r else applied ((r.respawn? g (max delay minRespawnDelay)).getD r)

/-- The target if it is a button. -/
def button? (r : Region) (p : Participants) : Option Guid :=
  ((p.target.bind r.gameObject?).filter (·.type = .button)).map (·.guid)

/-- Brings a door to a state, and uses the button in the target with it. A door in that state
already is left alone, and so is the button. -/
def useDoor (ctx : StepContext) (r : Region) (c : Command) (p : Participants)
    (state : UseState) (spawn delay : UInt32) : StepResult :=
  attempt r (commandObject ctx r c p spawn) fun g =>
  require r (r.gameObject? g) (.gameObjectMissing spawn c.buddyEntry) fun door =>
  demand r (door.type = .door) (.wrongGameObjectType door.type) <|
  if door.state = state then applied r
  else
    let reset := max delay minDoorReset
    let button := button? r p
    let r := r.useDoor g reset
    applied (button.elim r fun b => r.useDoor b reset)

/-- Lets a unit use the game object in the target. -/
def activateObject (r : Region) (p : Participants) : StepResult :=
  require r p.sourceUnit? .notUnit fun user =>
  require r p.targetGameObject? .notGameObject fun o =>
  applied ((r.useGameObject? o user).getD r)

end RegionScript.Step
