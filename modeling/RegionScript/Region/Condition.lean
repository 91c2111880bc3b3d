import RegionScript.Catalog.Basic
import RegionScript.Log
import RegionScript.Region.Search

/-!
Evaluation of stored conditions.

Composite conditions are followed by id. Unknown ids and absent players are unmet, and so is
whatever nests deeper than eight levels, which every cycle does.
-/

namespace RegionScript

/-- Who a condition is about. -/
structure ConditionSubject where
  player : Option Guid
  second : Option Guid

namespace Condition

/-- How many levels of references are followed. -/
def nestingLimit : Nat := 8

/-- Whether a level satisfies a comparison with a threshold. -/
def compareLevel (level threshold : UInt8) : LevelComparison → Bool
  | .equal => level = threshold
  | .atLeast => threshold ≤ level
  | .atMost => level ≤ threshold

/-- A condition on the player alone; composite conditions and those on the second object are not. -/
def holdsFor (region : Region) (p : Player) : Condition → Bool
  | hasAura spell => p.unit.hasAura spell
  | hasItem item count => max count 1 ≤ p.itemCount item
  | questStatus quest status => p.questStatus quest = some status
  | questNone quest => p.questStatus quest = none
  | level threshold comparison => compareLevel p.level threshold comparison
  | nearCreature entry radius => (region.nearestCreature p.guid entry radius .grid).isSome
  | _ => false

/-- Whether the second object is here and, if a unit, alive. -/
def secondIsAlive (region : Region) (second : Option Guid) : Bool :=
  match second.bind region.object? with
  | some (.creature c) => c.unit.alive
  | some (.player p) => p.unit.alive
  | some _ => true
  | none => false

/-- Whether the condition with an id holds, given how many levels may still be entered. -/
def holds (catalog : Catalog) (region : Region) (subject : ConditionSubject) :
    Nat → UInt32 → Bool
  | 0, _ => false
  | levels + 1, id =>
    match catalog.conditions.get? id with
    | none => false
    | some .always => true
    | some (.not c) => !holds catalog region subject levels c
    | some (.and a b) =>
      holds catalog region subject levels a && holds catalog region subject levels b
    | some (.or a b) =>
      holds catalog region subject levels a || holds catalog region subject levels b
    | some .secondAlive => secondIsAlive region subject.second
    | some c =>
      match subject.player.bind region.player? with
      | none => false
      | some p => c.holdsFor region p

/-- One level of an evaluation, given what holds of the conditions that are referred to. -/
def evalLevel (region : Region) (subject : ConditionSubject) (refersTo : UInt32 → Bool) :
    Option Condition → Bool
  | none => false
  | some always => true
  | some (not c) => !refersTo c
  | some (and a b) => refersTo a && refersTo b
  | some (or a b) => refersTo a || refersTo b
  | some secondAlive => secondIsAlive region subject.second
  | some c =>
    match subject.player.bind region.player? with
    | none => false
    | some p => c.holdsFor region p

theorem holds_zero (catalog : Catalog) (region : Region) (subject : ConditionSubject)
    (id : UInt32) : holds catalog region subject 0 id = false :=
  rfl

theorem holds_succ (catalog : Catalog) (region : Region) (subject : ConditionSubject)
    (levels : Nat) (id : UInt32) :
    holds catalog region subject (levels + 1) id =
      evalLevel region subject (holds catalog region subject levels)
        (catalog.conditions.get? id) :=
  rfl

section Composite

variable {catalog : Catalog} {region : Region} {subject : ConditionSubject} {a b c : UInt32}

theorem holds_not (h : catalog.conditions.get? a = some (.not b)) (levels : Nat) :
    holds catalog region subject (levels + 1) a = !holds catalog region subject levels b := by
  rw [holds_succ, h]
  rfl

theorem holds_and (h : catalog.conditions.get? a = some (.and b c)) (levels : Nat) :
    holds catalog region subject (levels + 1) a =
      (holds catalog region subject levels b && holds catalog region subject levels c) := by
  rw [holds_succ, h]
  rfl

theorem holds_or (h : catalog.conditions.get? a = some (.or b c)) (levels : Nat) :
    holds catalog region subject (levels + 1) a =
      (holds catalog region subject levels b || holds catalog region subject levels c) := by
  rw [holds_succ, h]
  rfl

end Composite

/-- The ids at which an evaluation runs out of levels, in order; the second part of a composite
condition is looked at only when the first leaves it open. -/
def tooDeep (catalog : Catalog) (region : Region) (subject : ConditionSubject) :
    Nat → UInt32 → List UInt32
  | 0, id => [id]
  | levels + 1, id =>
    match catalog.conditions.get? id with
    | some (.not c) => tooDeep catalog region subject levels c
    | some (.and a b) =>
      tooDeep catalog region subject levels a ++
        if holds catalog region subject levels a then tooDeep catalog region subject levels b
        else []
    | some (.or a b) =>
      tooDeep catalog region subject levels a ++
        if holds catalog region subject levels a then []
        else tooDeep catalog region subject levels b
    | _ => []

/-- Whether the condition with an id is met. -/
def isMet (catalog : Catalog) (region : Region) (subject : ConditionSubject) (id : UInt32) : Bool :=
  holds catalog region subject (nestingLimit + 1) id

/-- What an evaluation logs. -/
def warnings (catalog : Catalog) (region : Region) (subject : ConditionSubject) (id : UInt32) :
    List LogLine :=
  (tooDeep catalog region subject (nestingLimit + 1) id).map fun c =>
    ⟨.warn, "dbscripts::world::condition",
      s!"condition {c} nests deeper than {nestingLimit} levels, treating as unmet"⟩

end Condition

end RegionScript
