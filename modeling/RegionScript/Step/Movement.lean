import RegionScript.Step.Basic

/-!
Steps that move units or change how they move.
-/

namespace RegionScript.Step

/-- Distance under which a unit counts as standing at its destination. -/
def arrivalTolerance : Single := .hundredth

/-- The pace of a movement in units per second; none leaves it to the unit. -/
def pace (speed : UInt32) : Option Single :=
  if speed = 0 then none else some (.ofUInt32 speed * .hundredth)

/-- Turns a unit that has no way to go, puts it at its destination if the command is additional, and
sends it there otherwise. A destination without facing keeps the unit's. -/
def moveTo (r : Region) (c : Command) (p : Participants) (speed : UInt32) : StepResult :=
  require r p.sourceUnit? .notUnit fun actor =>
  require r (r.unit? actor) .notUnit fun unit =>
  let destination := c.position
  let current := unit.position
  if destination.isOrigin || (current.distance destination).le arrivalTolerance then
    applied <|
      (r.modifyUnit actor fun u =>
        { u with position := { u.position with o := destination.o } }).record
        (.facingSet actor destination.o)
  else if c.flags.additional then
    let o := if destination.o.isZero then current.o else destination.o
    let arrival := { destination with o }
    applied <| (r.modifyUnit actor fun u => { u with position := arrival }).record
      (.nearTeleport actor arrival)
  else
    applied <|
      (r.modifyUnit actor fun u => { u with motion := .point destination (pace speed) }).record
        (.movedTo actor destination (pace speed))

/-- Sends a player to another place; nothing happens when the player is gone. -/
def teleportTo (r : Region) (c : Command) (p : Participants) (map : UInt32) : StepResult :=
  require r p.player? .notPlayer fun player =>
  applied ((r.teleport? player map c.position).getD r)

/-- The motion that a creature is switched to. Wandering is around the creature's home, or around
where it stands if the command is additional. -/
def motionOf (creature : Creature) (change : MotionChange) (distance : UInt32) (additional : Bool) :
    Motion :=
  match change with
  | .idle => .idle
  | .random =>
    if additional then .random creature.unit.position (.ofUInt32 distance)
    else
      let radius := if distance = 0 then creature.wanderDistance else .ofUInt32 distance
      .random creature.home radius
  | .waypoint => .waypoint 0 0

/-- Switches a creature's motion. -/
def movement (r : Region) (c : Command) (p : Participants) (change : MotionChange)
    (distance : UInt32) : StepResult :=
  require r p.sourceCreature? .notCreature fun g =>
  require r (r.creature? g) .notCreature fun creature =>
  let motion := motionOf creature change distance c.flags.additional
  applied (r.modifyCreature g fun x => { x with unit := { x.unit with motion } })

/-- Lets a creature run or walk. -/
def setRun (r : Region) (p : Participants) (run : Bool) : StepResult :=
  require r p.sourceCreature? .notCreature fun g =>
  applied (r.modifyCreature g fun x => { x with unit := { x.unit with walking := !run } })

/-- Halts a creature on its path or lets it go on. -/
def pauseWaypoints (r : Region) (p : Participants) (pause : Bool) : StepResult :=
  require r p.sourceCreature? .notCreature fun g =>
  applied (r.modifyCreature g fun x => { x with waypointsPaused := pause })

/-- Lets a creature stand, sit, sleep or kneel. -/
def standState (r : Region) (p : Participants) (state : UInt32) : StepResult :=
  require r p.sourceCreature? .notCreature fun g =>
  applied (r.modifyCreature g fun x =>
    { x with unit := { x.unit with standState := state.toUInt8 } })

/-- Puts a player on a taxi; nothing happens when the player is gone. -/
def sendTaxiPath (r : Region) (p : Participants) (path : UInt32) : StepResult :=
  require r p.player? .notPlayer fun player =>
  if r.players.contains player then
    applied <| (r.modifyPlayer player fun x => { x with taxiPath := some path }).record
      (.taxiStarted player path)
  else applied r

end RegionScript.Step
