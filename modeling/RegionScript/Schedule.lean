import RegionScript.Clock
import RegionScript.Guid
import RegionScript.Script.Table

/-!
The pending steps of one region.

Starting a script schedules all of its steps at once, as one invocation: every step gets its due
time and the next sequence number, and steps are taken off in the order of both. An invocation is
kept for as long as steps of it are pending, so that a script can be refused while it is still
running, and so that the rest of an invocation can be dropped.
-/

namespace RegionScript

/-- How a new invocation treats pending invocations of the same script. -/
inductive Policy where
  | normal
  | uniqueBySource
  | uniqueByTarget
  | uniqueBySourceTarget
  deriving DecidableEq, Repr

/-- A started script with steps still to run. -/
structure Invocation where
  kind : TableKind
  scriptId : UInt32
  source : Option Guid
  target : Option Guid
  pending : Nat
  deriving DecidableEq

/-- Whether a start of the given script would repeat this invocation under a policy. -/
def Invocation.matches (i : Invocation) (kind : TableKind) (scriptId : UInt32)
    (source target : Option Guid) (policy : Policy) : Bool :=
  i.kind = kind && i.scriptId = scriptId &&
    match policy with
    | .normal => false
    | .uniqueBySource => i.source = source
    | .uniqueByTarget => i.target = target
    | .uniqueBySourceTarget => i.source = source && i.target = target

/-- A step that waits for its time. -/
structure PendingStep where
  invocation : Nat
  /-- The table it came from. -/
  table : String
  command : Command
  source : Option Guid
  target : Option Guid
  deriving DecidableEq

/-- When a step is due, and its place among steps due at the same time. -/
structure DueKey where
  due : UInt64
  sequence : Nat
  deriving DecidableEq, Repr

namespace DueKey

instance : Ord DueKey := ⟨compareLex (compareOn due) (compareOn sequence)⟩

instance : Std.TransOrd DueKey :=
  inferInstanceAs (Std.TransCmp (compareLex (compareOn due) (compareOn sequence)))

theorem compare_eq (a b : DueKey) :
    compare a b = (compare a.due b.due).then (compare a.sequence b.sequence) := rfl

instance : Std.LawfulEqOrd DueKey where
  eq_of_compare {a b} h := by
    rw [compare_eq] at h
    simp only [Ordering.then_eq_eq, Std.LawfulEqOrd.compare_eq_iff_eq] at h
    cases a; cases b; simp_all

end DueKey

/-- Pending steps by due time, and the invocations they belong to. -/
structure Schedule where
  steps : OrderedMap DueKey PendingStep := ∅
  invocations : OrderedMap Nat Invocation := ∅
  nextSequence : Nat := 0
  nextInvocation : Nat := 0
  deriving DecidableEq

namespace Schedule

def isEmpty (s : Schedule) : Bool := s.steps.isEmpty

def pendingSteps (s : Schedule) : Nat := s.steps.size

def pendingInvocations (s : Schedule) : Nat := s.invocations.size

/-- Whether a pending invocation matches a start under a policy. -/
def isRunning (s : Schedule) (kind : TableKind) (scriptId : UInt32) (source target : Option Guid)
    (policy : Policy) : Bool :=
  s.invocations.values.any fun i => i.matches kind scriptId source target policy

/-- The due time of a command started at `now`; delays are in seconds. -/
def dueTime (now : UInt64) (c : Command) : UInt64 := now + Clock.seconds c.delay

/-- Adds the steps of a script one by one, each with its own sequence number. -/
def addSteps (s : Schedule) (now : UInt64) (invocation : Nat) (table : String)
    (source target : Option Guid) : Script → Schedule
  | [] => s
  | c :: rest =>
    addSteps
      { s with
        steps := s.steps.insert ⟨dueTime now c, s.nextSequence⟩
          { invocation, table, command := c, source, target }
        nextSequence := s.nextSequence + 1 }
      now invocation table source target rest

/-- Starts a script at `now`; also the number of the new invocation. -/
def enqueue (s : Schedule) (now : UInt64) (kind : TableKind) (table : String)
    (scriptId : UInt32) (script : Script) (source target : Option Guid) : Nat × Schedule :=
  let invocation := s.nextInvocation
  let started : Invocation := { kind, scriptId, source, target, pending := script.length }
  let s := addSteps { s with nextInvocation := invocation + 1 } now invocation table source target
    script
  (invocation, { s with invocations := s.invocations.insert invocation started })

/-- Counts one step of an invocation as done, and forgets the invocation with its last step. -/
def finishStep (invocations : OrderedMap Nat Invocation) (invocation : Nat) :
    OrderedMap Nat Invocation :=
  match invocations.get? invocation with
  | none => invocations
  | some i =>
    if i.pending ≤ 1 then invocations.erase invocation
    else invocations.insert invocation { i with pending := i.pending - 1 }

/-- The step that is taken off next, with its key. -/
def next? (s : Schedule) : Option (DueKey × PendingStep) := s.steps.first?

/-- The schedule without a step that is taken off. -/
def take (s : Schedule) (key : DueKey) (step : PendingStep) : Schedule :=
  { s with
    steps := s.steps.erase key
    invocations := finishStep s.invocations step.invocation }

/-- Takes the earliest step off, if it is due by `now`. -/
def popDue (s : Schedule) (now : UInt64) : Option ((DueKey × PendingStep) × Schedule) :=
  match s.next? with
  | none => none
  | some (key, step) => if key.due ≤ now then some ((key, step), s.take key step) else none

/-- Drops the remaining steps of an invocation; also their number. -/
def cancel (s : Schedule) (invocation : Nat) : Nat × Schedule :=
  let steps := s.steps.filter fun _ step => step.invocation ≠ invocation
  (s.steps.size - steps.size,
    { s with steps, invocations := s.invocations.erase invocation })

/-- Drops everything pending; numbers go on from where they were. -/
def clear (s : Schedule) : Schedule := { s with steps := ∅, invocations := ∅ }

end Schedule

end RegionScript
