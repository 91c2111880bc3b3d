import RegionScript.Region.Condition
import RegionScript.Region.Effects
import RegionScript.Step.Participants

/-!
What every command is written with: what a step may look at, what comes of it, and how it demands
something and otherwise fails.

A result always carries a region. A command that fails hands back the region that it has reached, so
that it is a statement about the commands, and not about this type, that failing changes nothing.
-/

namespace RegionScript

/-- How a step that did not fail went. -/
inductive Outcome where
  | applied
  /-- The remaining steps of the script are not to run. -/
  | terminate
  deriving DecidableEq, Repr

/-- The world after a step, how the step went, and what it logged. -/
structure StepResult where
  region : Region
  outcome : Except StepError Outcome
  log : List LogLine := []

/-- What a step may look at besides the region. -/
structure StepContext where
  catalog : Catalog
  /-- Name of the table the step comes from. -/
  table : String
  /-- The number that decides among alternatives. -/
  draw : Nat

namespace StepContext

/-- One of several alternatives; a single one leaves nothing to decide. -/
def pick {α : Type} (ctx : StepContext) (choices : List α) : Option α :=
  choices[ctx.draw % choices.length]?

/-- How log lines about a command begin. -/
def describe (ctx : StepContext) (c : Command) : String :=
  s!"Process table `{ctx.table}` id {c.id}, command {c.kind.describe}"

/-- An error line about a command. -/
def complaint (ctx : StepContext) (c : Command) (rest : String) : LogLine :=
  ⟨.error, "db_scripts::exec", ctx.describe c ++ rest⟩

end StepContext

namespace Step

/-- The step did nothing. -/
def fail (r : Region) (e : StepError) : StepResult := ⟨r, .error e, []⟩

/-- The step did its work. -/
def applied (r : Region) : StepResult := ⟨r, .ok .applied, []⟩

/-- Goes on with a value, or fails when there is none. -/
def require {α : Type} (r : Region) (value : Option α) (e : StepError) (next : α → StepResult) :
    StepResult :=
  match value with
  | none => fail r e
  | some a => next a

/-- As `require`, where the value comes with its own error. -/
def attempt {α : Type} (r : Region) (value : Except StepError α) (next : α → StepResult) :
    StepResult :=
  match value with
  | .error e => fail r e
  | .ok a => next a

/-- Goes on if a condition holds, and fails otherwise. -/
def demand (r : Region) (condition : Bool) (e : StepError) (next : StepResult) : StepResult :=
  if condition then next else fail r e

end Step

namespace Participants

/-- The target if it is a player, or else the source if it is one. -/
def player? (p : Participants) : Option Guid :=
  (p.target.filter Guid.isPlayer).or (p.source.filter Guid.isPlayer)

def sourceCreature? (p : Participants) : Option Guid := p.source.filter Guid.isCreature

def sourceUnit? (p : Participants) : Option Guid := p.source.filter Guid.isUnit

def sourceGameObject? (p : Participants) : Option Guid := p.source.filter Guid.isGameObject

def targetUnit? (p : Participants) : Option Guid := p.target.filter Guid.isUnit

def targetGameObject? (p : Participants) : Option Guid := p.target.filter Guid.isGameObject

/-- The source if it is a creature, or else the target if it is one. -/
def creature? (p : Participants) : Option Guid :=
  p.sourceCreature?.or (p.target.filter Guid.isCreature)

/-- The source if it is a creature or game object, or else the target if it is one. -/
def anchor? (p : Participants) : Option Guid :=
  (p.source.filter Guid.isCreatureOrGameObject).or (p.target.filter Guid.isCreatureOrGameObject)

end Participants

end RegionScript
