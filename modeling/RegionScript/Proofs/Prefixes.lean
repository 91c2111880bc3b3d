import Mathlib.Algebra.Group.Nat.Defs
import RegionScript.Proofs.Bookkeeping
import RegionScript.Proofs.Simulation

/-!
Scripts run as they were started.

A started script has a plan: its steps in the order in which they come due, each with its time. At
any time what was run of it and what is pending of it make up the plan, or else the step that was
run last ended it and nothing is pending. `Faithful` says so of all scripts in a journal at once;
every happening but a dropped invocation keeps it, because it takes the first step of one invocation
off and leaves the lists of all others. A step whose time is past the end of the clock comes due
when the clock has started over, and by the numbers that is at once: such steps are run ahead of the
others.
-/

namespace RegionScript

/-- The steps of an invocation that were run, in turn. -/
def executionsOf (journal : List Happening) (i : Nat) : List Execution :=
  journal.filterMap fun
    | .ran x => if x.step.invocation = i then some x else none
    | _ => none

theorem executionsOf_started (journal : List Happening) (a : Start) (i : Nat) :
    executionsOf (journal ++ [.started a]) i = executionsOf journal i := by
  simp [executionsOf]

theorem executionsOf_ran (journal : List Happening) (x : Execution) (i : Nat) :
    executionsOf (journal ++ [.ran x]) i =
      if x.step.invocation = i then executionsOf journal i ++ [x] else executionsOf journal i := by
  unfold executionsOf
  rw [List.filterMap_append]
  split
  · next hi => simp [hi]
  · next hi => simp [hi]

theorem mem_executionsOf {journal : List Happening} {i : Nat} {x : Execution} :
    x ∈ executionsOf journal i ↔ .ran x ∈ journal ∧ x.step.invocation = i := by
  unfold executionsOf
  rw [List.mem_filterMap]
  constructor
  · rintro ⟨h, hh, hx⟩
    cases h with
    | ran y =>
      dsimp only at hx
      split at hx
      · obtain rfl := Option.some.inj hx
        exact ⟨hh, ‹_›⟩
      · cases hx
    | started | cancelled => cases hx
  · rintro ⟨hx, rfl⟩
    exact ⟨.ran x, hx, if_pos rfl⟩

/-! ### The account of a script -/

/-- The steps of a script that was started, with the keys under which they were scheduled, in the
order of those. -/
def Start.plan (a : Start) (table : String) (first : Nat) : List (DueKey × PendingStep) :=
  Schedule.queue a.clock a.invocation table a.source a.target first a.script

/-- When a step of a script that was started comes due. -/
def Start.due (a : Start) (c : Command) : UInt64 := Schedule.dueTime a.clock c

/-- The steps of a script that was started, in the order in which they come due. -/
def Start.agenda (a : Start) : Script := Schedule.agenda a.clock a.script

theorem Start.mem_plan {a : Start} {table : String} {first : Nat} {e : DueKey × PendingStep}
    (h : e ∈ a.plan table first) : e.1.due = a.due e.2.command :=
  (Schedule.mem_plan ((Schedule.queue_perm ..).mem_iff.mp h)).2.1

theorem Start.plan_commands (a : Start) (table : String) (first : Nat) :
    (a.plan table first).map (·.2.command) = a.agenda :=
  Schedule.queue_commands ..

/-- The key and the step of an execution, as they were pending. -/
def Execution.entry (x : Execution) : DueKey × PendingStep := (x.key, x.step)

/-- How far a plan has come: `xs` were run of it. -/
inductive Account (planned pending : List (DueKey × PendingStep)) (xs : List Execution) : Prop
  /-- The rest is pending. -/
  | going (whole : xs.map Execution.entry ++ pending = planned)
      (unended : ∀ x ∈ xs, x.outcome ≠ .ok .terminate)
  /-- The last step that was run ended it. -/
  | ended {front : List Execution} {last : Execution} (split : xs = front ++ [last])
      (part : xs.map Execution.entry <+: planned)
      (unended : ∀ x ∈ front, x.outcome ≠ .ok .terminate)
      (ends : last.outcome = .ok .terminate)
      (nothing : pending = [])

namespace Account

variable {planned pending : List (DueKey × PendingStep)} {xs : List Execution}

/-- The first pending step is run. -/
theorem ran {x : Execution} {rest pending' : List (DueKey × PendingStep)}
    (h : Account planned (x.entry :: rest) xs)
    (hnext : x.outcome ≠ .ok .terminate ∧ pending' = rest ∨
      x.outcome = .ok .terminate ∧ pending' = []) :
    Account planned pending' (xs ++ [x]) := by
  cases h with
  | ended split part unended ends nothing => cases nothing
  | going whole unended =>
    have hwhole : (xs ++ [x]).map Execution.entry ++ rest = planned := by
      rw [← whole, List.map_append, List.append_assoc]
      rfl
    rcases hnext with ⟨hgoes, rfl⟩ | ⟨hends, rfl⟩
    · refine .going hwhole fun y hy => ?_
      rcases List.mem_append.mp hy with hy | hy
      · exact unended y hy
      · obtain rfl := List.mem_singleton.mp hy
        exact hgoes
    · exact .ended rfl ⟨rest, hwhole⟩ unended hends rfl

end Account

/-! ### All accounts of a journal -/

/-- Every script that was started is on its way through its plan. -/
structure Faithful (s : Schedule) (journal : List Happening) : Prop where
  fresh : s.Fresh
  /-- No step was run of an invocation that is still to come. -/
  numbered : ∀ x, .ran x ∈ journal → x.step.invocation < s.nextInvocation
  started : ∀ a, .started a ∈ journal → a.invocation < s.nextInvocation
  onTime : ∀ x, .ran x ∈ journal → x.key.due ≤ x.clock
  account : ∀ a, .started a ∈ journal → ∃ table first,
    Account (a.plan table first) (s.pendingOf a.invocation) (executionsOf journal a.invocation)

namespace Faithful

variable {s t : Schedule} {journal : List Happening}

theorem nil (h : s.Fresh) : Faithful s [] where
  fresh := h
  numbered x hx := by cases hx
  started a ha := by cases ha
  onTime x hx := by cases hx
  account a ha := by cases ha

/-- A script that is started has all of its plan before it. -/
theorem start (hs : Faithful s journal) {a : Start} (hlead : Leads s (.started a) t) :
    Faithful t (journal ++ [.started a]) := by
  have hfresh := hlead.fresh hs.fresh
  cases hlead with
  | started table number steps order free =>
    have hnext : ∀ {i}, i < s.nextInvocation → i <
        (s.enqueue a.clock a.kind table a.id a.script a.source a.target).2.nextInvocation :=
      fun hi => (Schedule.enqueue_nextInvocation ..).symm ▸ Nat.lt_succ_of_lt hi
    constructor
    · exact hfresh
    · intro x hx
      exact hnext (hs.numbered x (by simpa using hx))
    · intro b hb
      rcases List.mem_append.mp hb with hb | hb
      · exact hnext (hs.started b hb)
      · obtain rfl : b = a := by simpa using hb
        rw [number, Schedule.enqueue_nextInvocation]
        exact Nat.lt_succ_self _
    · intro x hx
      exact hs.onTime x (by simpa using hx)
    · intro b hb
      rw [executionsOf_started, hs.fresh.pendingOf_enqueue]
      rcases List.mem_append.mp hb with hb | hb
      · have hne : b.invocation ≠ s.nextInvocation := Nat.ne_of_lt (hs.started b hb)
        rw [if_neg hne]
        exact hs.account b hb
      · obtain rfl : b = a := by simpa using hb
        -- the number is new, so that nothing can have been run under it
        have hnone : executionsOf journal b.invocation = [] := by
          refine List.eq_nil_iff_forall_not_mem.mpr fun x hx => ?_
          obtain ⟨hx, hi⟩ := mem_executionsOf.mp hx
          exact Nat.lt_irrefl _ (number ▸ hi ▸ hs.numbered x hx)
        rw [if_pos number, hnone, ← number]
        exact ⟨table, s.nextSequence, .going rfl (by simp)⟩

/-- A step that is run moves its own script on, and no other. -/
theorem ran (hs : Faithful s journal) {x : Execution} (hlead : Leads s (.ran x) t) :
    Faithful t (journal ++ [.ran x]) := by
  obtain ⟨hdue, rest, hown, hnext⟩ := hlead.pendingOf_own
  have hnumber := hlead.nextInvocation_ran
  constructor
  · exact hlead.fresh hs.fresh
  · intro y hy
    rw [hnumber]
    rcases List.mem_append.mp hy with hy | hy
    · exact hs.numbered y hy
    · obtain rfl : y = x := by simpa using hy
      have hmem : (y.key, y.step) ∈ s.pendingOf y.step.invocation :=
        hown ▸ List.mem_cons_self ..
      exact hs.fresh.invocation _ (Schedule.mem_pendingOf.mp hmem).1
  · intro a ha
    rw [hnumber]
    exact hs.started a (by simpa using ha)
  · intro y hy
    rcases List.mem_append.mp hy with hy | hy
    · exact hs.onTime y hy
    · obtain rfl : y = x := by simpa using hy
      exact hdue
  · intro a ha
    obtain ⟨table, first, haccount⟩ := hs.account a (by simpa using ha)
    refine ⟨table, first, ?_⟩
    rw [executionsOf_ran]
    -- of its own script the step was the first one pending; the others do not see it
    by_cases hi : x.step.invocation = a.invocation
    · rw [← hi] at haccount ⊢
      rw [if_pos rfl]
      rw [hown] at haccount
      exact haccount.ran hnext
    · rw [if_neg hi, hlead.pendingOf_other hi]
      exact haccount

end Faithful

namespace Account

variable {a : Start} {table : String} {first : Nat} {pending : List (DueKey × PendingStep)}
  {xs : List Execution}

/-- When nothing is due any more, all of the script was run, or the last step ended it, or the next
step is due only later. -/
theorem settled (h : Account (a.plan table first) pending xs) {now : UInt64}
    (hlater : ∀ e ∈ pending, now < e.1.due) :
    xs.length = a.script.length ∨ (∃ x, xs.getLast? = some x ∧ x.outcome = .ok .terminate) ∨
      ∃ c, a.agenda[xs.length]? = some c ∧ now < a.due c := by
  cases h with
  | ended split part unended ends nothing =>
    refine .inr (.inl ⟨_, ?_, ends⟩)
    rw [split, List.getLast?_concat]
  | going whole unended =>
    cases pending with
    | nil =>
      have hlength := congrArg List.length whole
      rw [List.append_nil, List.length_map, Start.plan, (Schedule.queue_perm ..).length_eq,
        Schedule.length_plan] at hlength
      exact .inl hlength
    | cons e rest =>
      -- the first step that is pending stands in the plan right behind those that were run
      have hmem : e ∈ a.plan table first :=
        whole ▸ List.mem_append_right _ (List.mem_cons_self ..)
      have hcommand : a.agenda[xs.length]? = some e.2.command := by
        rw [← a.plan_commands table first, ← whole, List.map_append,
          List.getElem?_append_right (by simp)]
        simp
      refine .inr (.inr ⟨_, hcommand, ?_⟩)
      rw [← Start.mem_plan hmem]
      exact hlater e (List.mem_cons_self ..)

end Account

end RegionScript
