import RegionScript.Proofs.Journal
import RegionScript.Proofs.StepFrame

/-!
Running what is due.

A step that is run keeps the clock and the schedule as they are, so that running is a path of the
schedule: each step is the first that is due, and only an ending takes more than that step off.
Every step that is run leaves fewer pending, so the number of pending steps is limit enough: at the
end nothing is due any more.
-/

namespace RegionScript.Engine

variable {σ : Type} (e : Engine σ)

/-- A region in which an invocation is settled has the same clock. -/
theorem settle_now (r : Region) (i : Nat) (outcome : Except StepError Outcome) :
    (settle r i outcome).now = r.now := by
  unfold settle
  split <;> rfl

/-- Only an ending drops anything. -/
theorem settle_goesOn (r : Region) (i : Nat) {outcome : Except StepError Outcome}
    (h : outcome ≠ .ok .terminate) : settle r i outcome = r := by
  unfold settle
  split
  · exact absurd rfl h
  · rfl

/-- Running the next step adds one execution, and leads the schedule along. -/
theorem runNext_leads {draw : Nat} {p p' : Progress} (h : e.runNext draw p = some p') :
    ∃ x, p'.executed = p.executed ++ [x] ∧ p'.region.now = p.region.now ∧
      Leads p.region.schedule (.ran x) p'.region.schedule := by
  unfold runNext at h
  split at h
  · cases h
  · next key step schedule hpop =>
    obtain ⟨⟨rest, hfirst⟩, hdue, rfl⟩ := Schedule.of_popDue_eq_some hpop
    obtain rfl := Option.some.inj h
    -- the command works on the schedule without its step, and leaves it at that
    have hframe := (Step.run_within (e.context step draw)
      { p.region with schedule := p.region.schedule.take key step } step.command step.source
      step.target).frame
    refine ⟨_, rfl, (settle_now ..).trans hframe.now, ?_⟩
    generalize hresult : Step.run (e.context step draw)
      { p.region with schedule := p.region.schedule.take key step } step.command step.source
      step.target = result at hframe
    have hschedule : result.region.schedule = p.region.schedule.take key step := hframe.schedule
    by_cases hends : result.outcome = .ok .terminate
    · have hsettle : settle result.region step.invocation result.outcome =
          { result.region with
            schedule := (result.region.schedule.cancel step.invocation).2 } := by
        rw [hends]
        rfl
      rw [hsettle, hschedule]
      exact .ended (x := ⟨p.region.now, key, step, result.outcome⟩) hfirst hdue hends
    · rw [settle_goesOn _ step.invocation hends, hschedule]
      exact .ran (x := ⟨p.region.now, key, step, result.outcome⟩) hfirst hdue hends

/-- When no step is run, none is due. -/
theorem popDue_eq_none_of_runNext {draw : Nat} {p : Progress} (h : e.runNext draw p = none) :
    p.region.schedule.popDue p.region.now = none := by
  unfold runNext at h
  split at h
  · assumption
  · cases h

/-- Running steps is a path, and keeps the clock. -/
theorem runSteps_path (draws : Nat → Nat) (limit : Nat) (p : Progress) :
    ∃ xs, (e.runSteps draws limit p).executed = p.executed ++ xs ∧
      (e.runSteps draws limit p).region.now = p.region.now ∧
      Path p.region.schedule (xs.map .ran) (e.runSteps draws limit p).region.schedule := by
  induction limit generalizing p with
  | zero => exact ⟨[], by simp [runSteps], rfl, .done _⟩
  | succ limit ih =>
    unfold runSteps
    cases hnext : e.runNext (draws p.executed.length) p with
    | none => exact ⟨[], by simp, rfl, .done _⟩
    | some p' =>
      obtain ⟨x, hx, hnow, hlead⟩ := e.runNext_leads hnext
      obtain ⟨xs, hxs, hnow', hpath⟩ := ih p'
      refine ⟨x :: xs, ?_, hnow'.trans hnow, .next hlead hpath⟩
      rw [hxs, hx, List.append_assoc]
      rfl

/-- With a limit of all that are pending, running stops only when nothing is due. -/
theorem runSteps_drains (draws : Nat → Nat) {limit : Nat} {p : Progress}
    (h : p.region.schedule.pendingSteps ≤ limit) :
    (e.runSteps draws limit p).region.schedule.popDue (e.runSteps draws limit p).region.now =
      none := by
  induction limit generalizing p with
  | zero =>
    exact Schedule.popDue_nil (List.length_eq_zero_iff.mp (Nat.le_zero.mp h)) _
  | succ limit ih =>
    unfold runSteps
    cases hnext : e.runNext (draws p.executed.length) p with
    | none => exact e.popDue_eq_none_of_runNext hnext
    | some p' =>
      obtain ⟨x, -, -, hlead⟩ := e.runNext_leads hnext
      refine ih (Nat.le_of_lt_succ (Nat.lt_of_lt_of_le hlead.size_lt h))

/-- Running what is due follows the schedule along what was run. -/
theorem processDue_path (draws : Nat → Nat) (r : Region) :
    Path r.schedule ((e.processDue draws r).executed.map .ran)
      (e.processDue draws r).region.schedule := by
  obtain ⟨xs, hxs, -, hpath⟩ := e.runSteps_path draws r.schedule.pendingSteps { region := r }
  have hexecuted : (e.processDue draws r).executed = xs := hxs
  rw [hexecuted]
  exact hpath

/-- What is still pending after running is due only later. -/
theorem processDue_drains (draws : Nat → Nat) (r : Region) :
    ∀ x ∈ (e.processDue draws r).region.schedule.steps.entries,
      (e.processDue draws r).region.now < x.1.due :=
  Schedule.of_popDue_eq_none (e.runSteps_drains draws (Nat.le_refl r.schedule.pendingSteps))

end RegionScript.Engine
