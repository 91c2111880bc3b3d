import Mathlib.Logic.Relation
import RegionScript.Proofs.Running

/-!
The loop that runs what is due.

A round of the loop takes the earliest step off, if it is due, and runs it. Every round leaves fewer
steps pending, so the loop ends, wherever it is begun, and `processDue` is where it ends. What a
round makes of the schedule is `Schedule.execute`: a step that ends its invocation takes the rest of
that invocation with it, and only that. So the keys of the steps that are run ascend, and the steps
that were pending are those that were run, those that endings dropped, and those still pending.
-/

namespace RegionScript

namespace Schedule

/-- The schedule after its next step was run: an ending drops the rest of the invocation. Also how
many steps that are. -/
def execute (s : Schedule) (x : Execution) : Nat × Schedule :=
  match x.outcome with
  | .ok .terminate => (s.take x.key x.step).cancel x.step.invocation
  | _ => (0, s.take x.key x.step)

/-- How many steps the endings among some executions drop. -/
def dropped : Schedule → List Execution → Nat
  | _, [] => 0
  | s, x :: rest => (s.execute x).1 + (s.execute x).2.dropped rest

theorem execute_ended (s : Schedule) {x : Execution} (h : x.outcome = .ok .terminate) :
    s.execute x = (s.take x.key x.step).cancel x.step.invocation := by
  rw [execute, h]

theorem execute_goesOn (s : Schedule) {x : Execution} (h : x.outcome ≠ .ok .terminate) :
    s.execute x = (0, s.take x.key x.step) := by
  unfold execute
  split
  · exact absurd ‹_› h
  · rfl

/-- What is dropped and what stays is all that there was. -/
theorem cancel_size (s : Schedule) (i : Nat) :
    s.pendingSteps = (s.cancel i).1 + (s.cancel i).2.pendingSteps := by
  have hle : (s.cancel i).2.pendingSteps ≤ s.pendingSteps := List.length_filter_le ..
  have hdropped : (s.cancel i).1 = s.pendingSteps - (s.cancel i).2.pendingSteps := rfl
  omega

end Schedule

/-! ### One step -/

namespace Leads

variable {s t : Schedule} {x : Execution}

/-- The step that is run is the earliest of all. -/
theorem first_ran (h : Leads s (.ran x) t) :
    ∃ rest, s.steps.entries = (x.key, x.step) :: rest := by
  cases h with
  | ran first _ _ => exact ⟨_, first⟩
  | ended first _ _ => exact ⟨_, first⟩

theorem eq_execute (h : Leads s (.ran x) t) : t = (s.execute x).2 := by
  cases h with
  | ran first due goesOn => rw [s.execute_goesOn goesOn]
  | ended first due ends => rw [s.execute_ended ends]

/-- A step that does not end its invocation is the only one to go. -/
theorem entries_goesOn (h : Leads s (.ran x) t) (hx : x.outcome ≠ .ok .terminate) :
    s.steps.entries = (x.key, x.step) :: t.steps.entries := by
  obtain ⟨rest, hfirst⟩ := h.first_ran
  rw [h.eq_execute, s.execute_goesOn hx, Schedule.entries_take hfirst, hfirst]

/-- A step that ends its invocation goes with all that the invocation has left, and every step of
another invocation stays, in its place. -/
theorem entries_ended (h : Leads s (.ran x) t) (hx : x.outcome = .ok .terminate) :
    t.steps.entries = s.steps.entries.filter fun e => e.2.invocation ≠ x.step.invocation := by
  obtain ⟨rest, hfirst⟩ := h.first_ran
  rw [h.eq_execute, s.execute_ended hx, Schedule.entries_cancel, Schedule.entries_take hfirst,
    hfirst, List.filter_cons_of_neg (by simp)]

/-- Either way nothing is left that was not there behind the step. -/
theorem mem_of_ran (h : Leads s (.ran x) t) {rest : List (DueKey × PendingStep)}
    (hfirst : s.steps.entries = (x.key, x.step) :: rest) {e : DueKey × PendingStep}
    (he : e ∈ t.steps.entries) : e ∈ rest := by
  by_cases hx : x.outcome = .ok .terminate
  · rw [h.entries_ended hx, hfirst, List.filter_cons_of_neg (by simp)] at he
    exact (List.mem_filter.mp he).1
  · have hentries := (h.entries_goesOn hx).symm.trans hfirst
    rwa [← (List.cons.inj hentries).2]

/-- One step is run, and an ending drops what it counts. -/
theorem pendingSteps_ran (h : Leads s (.ran x) t) :
    s.pendingSteps = 1 + (s.execute x).1 + t.pendingSteps := by
  obtain ⟨rest, hfirst⟩ := h.first_ran
  have htake : s.pendingSteps = 1 + (s.take x.key x.step).pendingSteps := by
    show s.steps.entries.length = 1 + (s.take x.key x.step).steps.entries.length
    rw [Schedule.entries_take hfirst, hfirst, List.length_cons, Nat.add_comm]
  rw [h.eq_execute, htake]
  by_cases hx : x.outcome = .ok .terminate
  · rw [s.execute_ended hx, (s.take x.key x.step).cancel_size x.step.invocation]
    omega
  · rw [s.execute_goesOn hx, Nat.add_zero]

end Leads

/-! ### Any number of steps -/

namespace Path

variable {s t : Schedule} {xs : List Execution}

/-- What is run was pending at the beginning. -/
theorem mem_of_ran (h : Path s (xs.map .ran) t) {x : Execution} (hx : x ∈ xs) :
    (x.key, x.step) ∈ s.steps.entries := by
  induction xs generalizing s with
  | nil => cases hx
  | cons y rest ih =>
    cases h with
    | next first later =>
      obtain ⟨behind, hfirst⟩ := first.first_ran
      rw [hfirst]
      rcases List.mem_cons.mp hx with rfl | hx
      · exact List.mem_cons_self ..
      · exact List.mem_cons_of_mem _ (first.mem_of_ran hfirst (ih later hx))

/-- Steps are run in the order of their keys. -/
theorem keys_ascending (h : Path s (xs.map .ran) t) :
    xs.Pairwise fun x y => compare x.key y.key = .lt := by
  induction xs generalizing s with
  | nil => exact List.Pairwise.nil
  | cons x rest ih =>
    cases h with
    | next first later =>
      refine List.pairwise_cons.mpr ⟨fun y hy => ?_, ih later⟩
      obtain ⟨behind, hfirst⟩ := first.first_ran
      have hasc := s.steps.ascending
      rw [hfirst] at hasc
      exact (List.pairwise_cons.mp hasc).1 _ (first.mem_of_ran hfirst (later.mem_of_ran hy))

theorem eq_foldl_execute (h : Path s (xs.map .ran) t) :
    t = xs.foldl (fun s x => (s.execute x).2) s := by
  induction xs generalizing s with
  | nil =>
    cases h
    rfl
  | cons x rest ih =>
    cases h with
    | next first later =>
      rw [List.foldl_cons, ← first.eq_execute]
      exact ih later

/-- Pending before is what was run, what endings dropped, and what is pending after. -/
theorem pendingSteps_ran (h : Path s (xs.map .ran) t) :
    s.pendingSteps = xs.length + s.dropped xs + t.pendingSteps := by
  induction xs generalizing s with
  | nil =>
    cases h
    simp [Schedule.dropped]
  | cons x rest ih =>
    cases h with
    | next first later =>
      have hone := first.pendingSteps_ran
      have hrest := ih later
      rw [List.length_cons, Schedule.dropped, ← first.eq_execute]
      omega

end Path

/-! ### The loop -/

namespace Engine

variable {σ : Type}

/-- One round of the loop that runs what is due. -/
def Round (e : Engine σ) (draws : Nat → Nat) (p p' : Progress) : Prop :=
  e.runNext (draws p.executed.length) p = some p'

variable (e : Engine σ) (draws : Nat → Nat)

theorem round_leads {p p' : Progress} (h : e.Round draws p p') :
    ∃ x, p'.executed = p.executed ++ [x] ∧ p'.region.now = p.region.now ∧
      Leads p.region.schedule (.ran x) p'.region.schedule :=
  e.runNext_leads h

/-- From wherever it is begun, the loop ends: every round leaves fewer steps pending. -/
theorem round_acc (p : Progress) : Acc (fun next now => e.Round draws now next) p := by
  refine Subrelation.accessible ?_
    ((measure fun p : Progress => p.region.schedule.pendingSteps).wf.apply p)
  intro next now hround
  obtain ⟨x, -, -, hlead⟩ := e.round_leads draws hround
  exact hlead.size_lt

theorem runSteps_rounds (limit : Nat) (p : Progress) :
    Relation.ReflTransGen (e.Round draws) p (e.runSteps draws limit p) := by
  induction limit generalizing p with
  | zero => exact .refl
  | succ limit ih =>
    unfold runSteps
    cases hnext : e.runNext (draws p.executed.length) p with
    | none => exact .refl
    | some p' => exact .head hnext (ih p')

/-- When nothing is due there is no further round. -/
theorem not_round_of_popDue {p : Progress}
    (h : p.region.schedule.popDue p.region.now = none) (p' : Progress) :
    ¬ e.Round draws p p' := by
  intro hround
  unfold Round runNext at hround
  rw [h] at hround
  cases hround

/-- Running what is due ends, whatever the steps do, with nothing due any more. The steps that are
run come in the strict order of due time and sequence number, across all invocations. All that was
pending was run, was dropped by an ending, or is still pending; and an ending drops just what its
own invocation had left, due or not, and leaves the steps of all other invocations as they were. -/
theorem due_steps_are_drained (r : Region) :
    let start : Progress := { region := r }
    let p := e.processDue draws r
    Acc (fun next now => e.Round draws now next) start ∧
    (Relation.ReflTransGen (e.Round draws) start p ∧ ∀ q, ¬ e.Round draws p q) ∧
    (p.executed.Pairwise fun x y =>
      x.key.due < y.key.due ∨ x.key.due = y.key.due ∧ x.key.sequence < y.key.sequence) ∧
    (p.region.now = r.now ∧
      ∀ s ∈ p.region.schedule.steps.entries, p.region.now < s.1.due) ∧
    (p.region.schedule = p.executed.foldl (fun s x => (s.execute x).2) r.schedule ∧
      r.schedule.pendingSteps =
        p.executed.length + r.schedule.dropped p.executed + p.region.schedule.pendingSteps) ∧
    ∀ q q', e.Round draws q q' → ∃ x, q'.executed = q.executed ++ [x] ∧
      q'.region.schedule = (q.region.schedule.execute x).2 ∧
      (x.outcome = .ok .terminate → q'.region.schedule.steps.entries =
        q.region.schedule.steps.entries.filter fun s => s.2.invocation ≠ x.step.invocation) ∧
      (x.outcome ≠ .ok .terminate → q.region.schedule.steps.entries =
        (x.key, x.step) :: q'.region.schedule.steps.entries) := by
  intro start p
  have hpath := e.processDue_path draws r
  have hdry : p.region.schedule.popDue p.region.now = none :=
    e.runSteps_drains draws (Nat.le_refl r.schedule.pendingSteps)
  obtain ⟨-, -, hnow, -⟩ := e.runSteps_path draws r.schedule.pendingSteps start
  refine ⟨e.round_acc draws start, ⟨e.runSteps_rounds draws _ start, ?_⟩, ?_,
    ⟨hnow, e.processDue_drains draws r⟩, ⟨hpath.eq_foldl_execute, hpath.pendingSteps_ran⟩, ?_⟩
  · exact e.not_round_of_popDue draws hdry
  · exact hpath.keys_ascending.imp fun hlt => (DueKey.compare_lt_iff _ _).mp hlt
  · intro q q' hround
    obtain ⟨x, hexecuted, -, hlead⟩ := e.round_leads draws hround
    exact ⟨x, hexecuted, hlead.eq_execute, hlead.entries_ended, hlead.entries_goesOn⟩

/-- Two invocations with their first steps due at once; the first one ends itself. -/
def mingled : Region :=
  let ending : Script := [.plain 5 0 .talk, .plain 5 0 (.terminateScript 0 0), .plain 5 5 .talk]
  let other : Script := [.plain 6 0 .talk, .plain 6 7 .talk]
  let s := (({} : Schedule).enqueue 0 .gossip "dbscripts_on_gossip" 5 ending none none).2
  { id := 0, schedule := (s.enqueue 0 .gossip "dbscripts_on_gossip" 6 other none none).2 }

/-- Of five steps three are run, one is dropped and one, of the other invocation, still waits. -/
theorem due_steps_are_drained_mingled :
    let e : Engine Unit := { registry := {}, catalog := {} }
    let p := e.processDue (fun _ => 0) mingled
    mingled.schedule.pendingSteps = 5 ∧ p.executed.map (·.step.command.id) = [5, 5, 6] ∧
      mingled.schedule.dropped p.executed = 1 ∧ p.region.schedule.pendingSteps = 1 := by
  intro e p
  obtain ⟨-, -, -, -, ⟨-, haccount⟩, -⟩ := e.due_steps_are_drained (fun _ => 0) mingled
  have hpending : mingled.schedule.pendingSteps = 5 := rfl
  have hexecuted : p.executed.map (·.step.command.id) = [5, 5, 6] := by decide +kernel
  have hdropped : mingled.schedule.dropped p.executed = 1 := by decide +kernel
  have hlength := congrArg List.length hexecuted
  rw [List.length_map] at hlength
  refine ⟨hpending, hexecuted, hdropped, ?_⟩
  change 5 = p.executed.length + mingled.schedule.dropped p.executed + _ at haccount
  rw [hlength, hdropped] at haccount
  exact (Nat.add_left_cancel haccount).symm

end Engine

end RegionScript
