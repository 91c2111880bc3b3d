import RegionScript.Module.Hooks
import RegionScript.Registry
import RegionScript.Region.Advance
import RegionScript.Step.Run

/-!
The engine: starting scripts, routing events and running what is due.

Starting a script copies its steps into the region's schedule, so that it runs to its end as it was
even when the registry changes meanwhile. Running takes one due step after the other off the
schedule; since no step adds to the schedule or moves the clock, there are at most as many as were
pending.
-/

namespace RegionScript

/-- What scripts run with. -/
structure Engine (σ : Type) where
  registry : Registry
  catalog : Catalog
  hooks : Hooks σ := {}
  pvp : Option (PvpHandler σ) := none

/-- A step that was taken off the schedule and run. -/
structure Execution where
  /-- The clock when it was run. -/
  clock : UInt64
  key : DueKey
  step : PendingStep
  outcome : Except StepError Outcome

/-- The region after a run, the steps that were run, and what they logged. -/
structure Progress where
  region : Region
  executed : List Execution := []
  log : List LogLine := []

namespace Engine

variable {σ : Type}

/-! ### Starting scripts -/

/-- Whether a start is refused because the script is still running. -/
def isRefused (r : Region) (kind : TableKind) (id : UInt32) (source target : Option Guid)
    (policy : Policy) : Bool :=
  policy ≠ .normal && r.schedule.isRunning kind id source target policy

/-- Starts a script of a family; whether there is one and it was not refused. -/
def start (e : Engine σ) (r : Region) (kind : TableKind) (id : UInt32)
    (source target : Option Guid) (policy : Policy) : Bool × Region :=
  match e.registry.table? kind with
  | none => (false, r)
  | some table =>
    match table.get? id with
    | none => (false, r)
    | some script =>
      if isRefused r kind id source target policy then (false, r)
      else
        let schedule := (r.schedule.enqueue r.now kind table.name id script source target).2
        (true, { r with schedule })

/-! ### Events -/

/-- An event script runs once at a time for its source, or else for its target, if that is a
creature or game object, and otherwise for the pair. -/
def eventPolicy (source : Guid) (target : Option Guid) : Policy :=
  if source.isCreatureOrGameObject then .uniqueBySource
  else if (target.filter Guid.isCreatureOrGameObject).isSome then .uniqueByTarget
  else .uniqueBySourceTarget

/-- Asks a handler of contested areas whether it takes an event. The region is not its to change. -/
def askPvp (handle : UInt32 → UInt32 → Guid → World σ → Bool × World σ) (area event : UInt32)
    (object : Guid) (w : World σ) : Bool × World σ :=
  let (taken, after) := handle area event object w
  (taken, { w with memory := after.memory })

/-- Forwards the event of an object: for a player to where the player is, and otherwise to the
region's battleground or to the zone of the object. -/
def forward (e : Engine σ) (event : UInt32) (object forward : Guid) (w : World σ) :
    Bool × World σ :=
  match e.pvp with
  | none => (false, w)
  | some pvp =>
    if forward.isPlayer then
      match w.region.player? forward with
      | none => (false, w)
      | some p =>
        match p.battleground with
        | some b => askPvp pvp.battleground b event object w
        | none => askPvp pvp.outdoor p.zone event object w
    else
      match w.region.battleground with
      | some b => askPvp pvp.battleground b event object w
      | none =>
        match w.region.gameObject? object with
        | none => (false, w)
        | some o => askPvp pvp.outdoor o.zone event object w

/-- Forwards the event of a game object if it is to be forwarded. -/
def forwardEvent (e : Engine σ) (event : UInt32) (source : Guid) (forwardTo : Option Guid)
    (w : World σ) : Bool × World σ :=
  match forwardTo with
  | none => (false, w)
  | some f => if source.isGameObject then e.forward event source f w else (false, w)

/-- Starts the event script of an event. -/
def startEventScript (e : Engine σ) (event : UInt32) (source : Guid) (target : Option Guid)
    (w : World σ) : Bool × World σ :=
  let (started, region) :=
    e.start w.region .event event (some source) target (eventPolicy source target)
  (started, { w with region })

/-- Raises an event. The module may take it, then a handler of contested areas, then the event
table; whether one of them did. -/
def startEvent (e : Engine σ) (event : UInt32) (source : Guid) (target : Option Guid)
    (isStart : Bool) (forwardTo : Option Guid) (w : World σ) : Bool × World σ :=
  match e.hooks.call (.processEvent event source target isStart) w with
  | (true, w) => (true, w)
  | (false, w) =>
    match e.forwardEvent event source forwardTo w with
    | (true, w) => (true, w)
    | (false, w) => e.startEventScript event source target w

/-- A player enters an area; hooks hear of it if a script is bound to the trigger. -/
def areaTrigger (e : Engine σ) (player : Guid) (trigger : UInt32) (w : World σ) : Bool × World σ :=
  if e.registry.areaTriggerScript trigger = 0 then (false, w)
  else e.hooks.call (.areaTrigger player trigger) w

/-! ### Running -/

/-- The context of a pending step. -/
def context (e : Engine σ) (step : PendingStep) (draw : Nat) : StepContext :=
  { catalog := e.catalog, table := step.table, draw }

/-- What the failure of a step logs. -/
def failureLog (ctx : StepContext) (c : Command) : Except StepError Outcome → List LogLine
  | .error e => [ctx.complaint c s!" skipped: {e.message}"]
  | .ok _ => []

/-- Drops the rest of an invocation that was ended. -/
def settle (r : Region) (invocation : Nat) : Except StepError Outcome → Region
  | .ok .terminate => { r with schedule := (r.schedule.cancel invocation).2 }
  | _ => r

/-- Takes the next step off the schedule, if it is due, and runs it. -/
def runNext (e : Engine σ) (draw : Nat) (p : Progress) : Option Progress :=
  match p.region.schedule.popDue p.region.now with
  | none => none
  | some ((key, step), schedule) =>
    let ctx := e.context step draw
    let result := Step.run ctx { p.region with schedule } step.command step.source step.target
    some {
      region := settle result.region step.invocation result.outcome
      executed := p.executed ++ [⟨p.region.now, key, step, result.outcome⟩]
      log := p.log ++ result.log ++ failureLog ctx step.command result.outcome }

/-- Runs at most `limit` due steps; `draws` decides among their alternatives. -/
def runSteps (e : Engine σ) (draws : Nat → Nat) : Nat → Progress → Progress
  | 0, p => p
  | limit + 1, p =>
    match e.runNext (draws p.executed.length) p with
    | none => p
    | some p => runSteps e draws limit p

/-- Runs every step that is due by the region's clock. -/
def processDue (e : Engine σ) (draws : Nat → Nat) (r : Region) : Progress :=
  e.runSteps draws r.schedule.pendingSteps { region := r }

/-- Moves the clock on and runs every step that came due. -/
def update (e : Engine σ) (draws : Nat → Nat) (r : Region) (elapsed : UInt64) : Progress :=
  e.processDue draws (r.advance elapsed)

end Engine

end RegionScript
