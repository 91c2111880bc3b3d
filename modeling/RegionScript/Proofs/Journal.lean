import RegionScript.Engine
import RegionScript.Proofs.Pending

/-!
What happens to a schedule.

A schedule changes in three ways: a script is started, its next step is run, or an invocation is
dropped. `Leads` says all that each of them does and under which condition, and `Path` chains them.
What every one of them keeps holds along every path (`Path.keeps`), so that nothing else needs to be
known of the engine to follow a schedule through a run.
-/

namespace RegionScript

/-- A script that was started, as its list of steps was at that time. -/
structure Start where
  invocation : Nat
  /-- The clock at the start. -/
  clock : UInt64
  kind : TableKind
  id : UInt32
  source : Option Guid
  target : Option Guid
  policy : Policy
  script : Script

inductive Happening where
  | started (start : Start)
  | ran (x : Execution)
  | cancelled (invocation : Nat)

/-- What a happening makes of a schedule. A start takes the next number and is not refused; a step
is run when it is the first of all and due, and may end its invocation. -/
inductive Leads : Schedule → Happening → Schedule → Prop
  | started {s : Schedule} {a : Start} (table : String)
      (number : a.invocation = s.nextInvocation)
      (steps : a.script ≠ [])
      (order : Script.InOrder a.script)
      (free : a.policy ≠ .normal → s.isRunning a.kind a.id a.source a.target a.policy = false) :
      Leads s (.started a) (s.enqueue a.clock a.kind table a.id a.script a.source a.target).2
  | ran {s : Schedule} {x : Execution} {rest : List (DueKey × PendingStep)}
      (first : s.steps.entries = (x.key, x.step) :: rest)
      (due : x.key.due ≤ x.clock)
      (goesOn : x.outcome ≠ .ok .terminate) :
      Leads s (.ran x) (s.take x.key x.step)
  | ended {s : Schedule} {x : Execution} {rest : List (DueKey × PendingStep)}
      (first : s.steps.entries = (x.key, x.step) :: rest)
      (due : x.key.due ≤ x.clock)
      (ends : x.outcome = .ok .terminate) :
      Leads s (.ran x) ((s.take x.key x.step).cancel x.step.invocation).2
  | cancelled (s : Schedule) (i : Nat) : Leads s (.cancelled i) (s.cancel i).2

/-- One happening after another. -/
inductive Path : Schedule → List Happening → Schedule → Prop
  | done (s : Schedule) : Path s [] s
  | next {s t u : Schedule} {h : Happening} {rest : List Happening} (first : Leads s h t)
      (later : Path t rest u) : Path s (h :: rest) u

namespace Path

variable {s t u : Schedule} {hs hs' : List Happening}

theorem single {h : Happening} (hlead : Leads s h t) : Path s [h] t := .next hlead (.done t)

theorem append (h : Path s hs t) (h' : Path t hs' u) : Path s (hs ++ hs') u := by
  induction h with
  | done => exact h'
  | next first _ ih => exact .next first (ih h')

/-- What every happening keeps, as the journal grows by it, is kept along a path. -/
theorem keeps {P : Schedule → List Happening → Prop} (hpath : Path s hs t)
    (hstep : ∀ s t j, ∀ h ∈ hs, Leads s h t → P s j → P t (j ++ [h])) {j : List Happening}
    (hstart : P s j) : P t (j ++ hs) := by
  induction hpath generalizing j with
  | done s => rwa [List.append_nil]
  | next first later ih =>
    have hnext := hstep _ _ j _ (List.mem_cons_self ..) first hstart
    have hrest := ih (fun s t j h hh => hstep s t j h (List.mem_cons_of_mem _ hh)) hnext
    rwa [List.append_assoc] at hrest

end Path

/-! ### What a happening does -/

/-- Only a script with a step and in order is started. -/
theorem Path.started_tidy {s t : Schedule} {hs : List Happening} {a : Start} (hpath : Path s hs t)
    (ha : .started a ∈ hs) : a.script ≠ [] ∧ a.script.InOrder := by
  induction hpath with
  | done => cases ha
  | next first _ ih =>
    rcases List.mem_cons.mp ha with rfl | ha
    · cases first with
      | started table number steps order free => exact ⟨steps, order⟩
    · exact ih ha

/-- Running a step takes at least that step off. -/
theorem Leads.size_lt {s t : Schedule} {x : Execution} (h : Leads s (.ran x) t) :
    t.steps.size < s.steps.size := by
  cases h with
  | ran first due goesOn =>
    show (s.take x.key x.step).steps.entries.length < s.steps.entries.length
    rw [Schedule.entries_take first, first]
    exact Nat.lt_succ_self _
  | ended first due ends =>
    show (List.filter _ _).length < s.steps.entries.length
    refine Nat.lt_of_le_of_lt (List.length_filter_le ..) ?_
    rw [Schedule.entries_take first, first]
    exact Nat.lt_succ_self _

/-- A happening leaves nothing behind that has a number still to be given. -/
theorem Leads.fresh {s t : Schedule} {h : Happening} (hlead : Leads s h t) (hs : s.Fresh) :
    t.Fresh := by
  cases hlead with
  | started table number steps order free => exact hs.enqueue
  | ran first due goesOn => exact hs.take first
  | ended first due ends => exact (hs.take first).cancel _
  | cancelled => exact hs.cancel _

/-- Running a step gives no number. -/
theorem Leads.nextInvocation_ran {s t : Schedule} {x : Execution} (h : Leads s (.ran x) t) :
    t.nextInvocation = s.nextInvocation := by
  cases h <;> rfl

/-- The step that is run heads the list of its invocation, and is due; what was behind it stays
pending unless the step ended its invocation. -/
theorem Leads.pendingOf_own {s t : Schedule} {x : Execution} (h : Leads s (.ran x) t) :
    x.key.due ≤ x.clock ∧ ∃ rest, s.pendingOf x.step.invocation = (x.key, x.step) :: rest ∧
      (x.outcome ≠ .ok .terminate ∧ t.pendingOf x.step.invocation = rest ∨
        x.outcome = .ok .terminate ∧ t.pendingOf x.step.invocation = []) := by
  cases h with
  | ran first due goesOn =>
    refine ⟨due, _, (Schedule.pendingOf_take first x.step.invocation).trans (if_pos rfl), ?_⟩
    exact .inl ⟨goesOn, rfl⟩
  | ended first due ends =>
    refine ⟨due, _, (Schedule.pendingOf_take first x.step.invocation).trans (if_pos rfl), ?_⟩
    exact .inr ⟨ends, (Schedule.pendingOf_cancel ..).trans (if_pos rfl)⟩

/-- Running a step leaves what other invocations have pending. -/
theorem Leads.pendingOf_other {s t : Schedule} {x : Execution} (h : Leads s (.ran x) t) {i : Nat}
    (hi : x.step.invocation ≠ i) : t.pendingOf i = s.pendingOf i := by
  cases h with
  | ran first due goesOn => exact ((Schedule.pendingOf_take first i).trans (if_neg hi)).symm
  | ended first due ends =>
    rw [Schedule.pendingOf_cancel, if_neg (Ne.symm hi)]
    exact ((Schedule.pendingOf_take first i).trans (if_neg hi)).symm

end RegionScript
