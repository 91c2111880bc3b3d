import RegionScript.Step.Basic

/-!
Steps that end their script.

Either command asks a question; without the additional flag one answer ends the script, with it the
other. Only an ending has further effects: a waypoint pause or failed quests.
-/

namespace RegionScript.Step

/-- Whether a living creature of an entry is near. -/
def creatureIsNear (r : Region) (p : Participants) (entry distance : UInt32) : Bool :=
  ((searcher? p.source p.target).bind fun s =>
    r.nearestCreature s entry (.ofUInt32 distance) .grid).isSome

/-- Ends the script when the creature is not near, or when it is if the command is additional;
without an entry to look for, always. -/
def endsByCreature (r : Region) (c : Command) (p : Participants) (entry distance : UInt32) : Bool :=
  entry = 0 || creatureIsNear r p entry distance = c.flags.additional

/-- The pause in the first text slot, in milliseconds; none is negative. -/
def waypointPause (c : Command) : UInt32 := (max c.firstText 0).toUInt32

/-- The creature whose waypoints an ending pauses. -/
def paused? (r : Region) (p : Participants) : Option Guid :=
  p.sourceCreature?.filter r.creatures.contains

/-- Ends the script by a creature's presence; a pause is added to the source's wait. -/
def terminateScript (ctx : StepContext) (r : Region) (c : Command) (p : Participants)
    (entry distance : UInt32) : StepResult :=
  if endsByCreature r c p entry distance then
    if c.firstText = 0 then ⟨r, .ok .terminate, []⟩
    else
      match paused? r p with
      | some g =>
        let pause := waypointPause c
        ⟨r.modifyCreature g fun x =>
            { x with unit := { x.unit with motion := x.unit.motion.extendPause pause } },
          .ok .terminate, []⟩
      | none =>
        ⟨r, .ok .terminate,
          [ctx.complaint c " call for non-creature, skipping waypoint pause"]⟩
  else applied r

/-- Who a terminating condition is about: the target if a player, or else the source if one. -/
def conditionSubject (p : Participants) : ConditionSubject :=
  match p.target.filter Guid.isPlayer with
  | some t => ⟨some t, p.source⟩
  | none =>
    match p.source.filter Guid.isPlayer with
    | some s => ⟨some s, p.target⟩
    | none => ⟨none, p.source⟩

/-- Fails a quest for those members of a list who have it open and incomplete. -/
def failIncomplete (r : Region) (quest : UInt32) (members : List Guid) : Region :=
  members.foldl (fun r g =>
    if (r.player? g).bind (·.questStatus quest) = some .incomplete then
      (r.failQuest? g quest).getD r
    else r) r

/-- Fails a quest for the group of the acting player. -/
def failGroupQuest (r : Region) (player : Option Guid) (quest : UInt32) : Region :=
  match player with
  | none => r
  | some player => if quest = 0 then r else failIncomplete r quest (r.groupMembers player)

/-- Ends the script when a condition is met, or when it is not if the command is additional. -/
def terminateCondition (ctx : StepContext) (r : Region) (c : Command) (p : Participants)
    (condition quest : UInt32) : StepResult :=
  let subject := conditionSubject p
  let log := Condition.warnings ctx.catalog r subject condition
  if Condition.isMet ctx.catalog r subject condition = !c.flags.additional then
    ⟨failGroupQuest r subject.player quest, .ok .terminate, log⟩
  else ⟨r, .ok .applied, log⟩

end RegionScript.Step
