import Mathlib.Data.List.TakeWhile
import RegionScript.Proofs.Accepted
import RegionScript.Proofs.AlikeSteps
import RegionScript.Proofs.Running

/-!
What the drawn numbers decide.

A step draws a number to choose among texts or emotes. Two runs of what is due, from one region and
with whatever numbers, go step by step together: the same steps are taken off the schedule, and the
regions stay alike, so that the numbers decide only what is said, and whether it is.
-/

namespace RegionScript

namespace Command

/-- What a step may say: a talk one of the texts that are set, if any is, and an emote its own or
that of a slot before the first empty one. -/
def MaySay (c : Command) : WorldEvent → Prop
  | .text _ _ text =>
    c.payload = .talk ∧ ((∃ t ∈ c.texts.toList, t ≠ 0) → text ∈ c.texts.toList ∧ text ≠ 0)
  | .emote _ emote =>
    ∃ first, c.payload = .emote first ∧ (emote = first ∨
      ∃ (k : Nat) (slot : Int32), c.texts.toList[k]? = some slot ∧ emote = slot.toUInt32 ∧
        ∀ j ≤ k, c.texts.toList[j]? ≠ some 0)
  | _ => True

variable {c : Command}

theorem mem_populatedTexts {text : Int32} :
    text ∈ c.populatedTexts ↔ text ∈ c.texts.toList ∧ text ≠ 0 := by
  rw [populatedTexts, List.mem_filter, decide_eq_true_iff]

/-- An alternative is in a slot, and no slot up to there is empty. -/
theorem slot_of_mem_emoteAlternatives {emote : UInt32} (h : emote ∈ c.emoteAlternatives) :
    ∃ (k : Nat) (slot : Int32), c.texts.toList[k]? = some slot ∧ emote = slot.toUInt32 ∧
      ∀ j ≤ k, c.texts.toList[j]? ≠ some 0 := by
  have hfront : c.texts.toList.takeWhile (fun t => decide (t ≠ 0)) <+: c.texts.toList :=
    List.takeWhile_prefix _
  have hset : ∀ t ∈ c.texts.toList.takeWhile (fun t => decide (t ≠ 0)), t ≠ 0 := by
    intro t ht
    have hdecide := List.mem_takeWhile_imp ht
    exact of_decide_eq_true hdecide
  unfold emoteAlternatives at h
  generalize c.texts.toList.takeWhile (fun t => decide (t ≠ 0)) = leading at h hfront hset
  obtain ⟨back, hback⟩ := hfront
  obtain ⟨slot, hslot, rfl⟩ := List.mem_map.mp h
  obtain ⟨k, hk⟩ := List.mem_iff_getElem?.mp hslot
  have hlt : k < leading.length := (List.getElem?_eq_some_iff.mp hk).1
  have hsame : ∀ j ≤ k, c.texts.toList[j]? = leading[j]? := by
    intro j hj
    rw [← hback, List.getElem?_append_left (by omega)]
  refine ⟨k, slot, (hsame k (Nat.le_refl k)).trans hk, rfl, fun j hj hempty => ?_⟩
  rw [hsame j hj] at hempty
  exact hset 0 (List.mem_of_getElem? hempty) rfl

end Command

namespace Step

/-- Whatever a step records, it says only what its command may say. -/
theorem run_says (ctx : StepContext) (r : Region) (c : Command) (source target : Option Guid) :
    r.Logs c.MaySay (run ctx r c source target).region := by
  obtain ⟨new, hnew, hrecords⟩ := run_logs ctx r c source target
  refine ⟨new, hnew, fun event hevent => ?_⟩
  have hrecorded := hrecords event hevent
  cases event with
  | text speaker listener text =>
    obtain ⟨htalk, rfl, -⟩ := hrecorded
    refine ⟨htalk, ?_⟩
    rintro ⟨t, hslot, hset⟩
    have hany : c.populatedTexts ≠ [] :=
      List.ne_nil_of_mem (Command.mem_populatedTexts.mpr ⟨hslot, hset⟩)
    exact Command.mem_populatedTexts.mp (ctx.pick_getD_mem hany c.firstText)
  | emote actor emote =>
    obtain ⟨first, hemote, rfl⟩ := hrecorded
    refine ⟨first, hemote, ?_⟩
    rcases List.mem_cons.mp (ctx.pick_getD_mem (List.cons_ne_nil first c.emoteAlternatives) first)
      with hfirst | halternative
    · exact .inl hfirst
    · exact .inr (Command.slot_of_mem_emoteAlternatives halternative)
  | _ => trivial

end Step

/-! ### Two runs -/

/-- A step that was run, without how it went. -/
def Execution.place (x : Execution) : UInt64 × DueKey × PendingStep := (x.clock, x.key, x.step)

/-- Two runs that have come equally far: alike regions, and the same steps run at the same times. -/
structure Progress.Alike (p p' : Progress) : Prop where
  region : p.region.Alike p'.region
  executed : p.executed.map Execution.place = p'.executed.map Execution.place

namespace Engine

variable {σ : Type}

/-- The rest of an invocation is dropped in both regions or in neither. -/
theorem settle_alike {x x' : StepResult} (h : x.Alike x') (i : Nat) :
    (settle x.region i x.outcome).Alike (settle x'.region i x'.outcome) := by
  by_cases hends : x.outcome = .ok .terminate
  · rw [hends, h.ends.mp hends]
    exact h.region.change (fun r => { r with schedule := (r.schedule.cancel i).2 }) fun _ _ => rfl
  · have hends' : x'.outcome ≠ .ok .terminate := fun hx' => hends (h.ends.mpr hx')
    rw [settle_goesOn _ i hends, settle_goesOn _ i hends']
    exact h.region

variable (e : Engine σ)

/-- The next step is run in both or in neither, whatever numbers are drawn. -/
theorem runNext_alike {p p' : Progress} (h : p.Alike p') (draw draw' : Nat) :
    Option.Rel Progress.Alike (e.runNext draw p) (e.runNext draw' p') := by
  obtain ⟨es, hregion⟩ := h.region.exists_log
  -- the two regions differ in their logs alone, so the same step is due
  have hpop : p'.region.schedule.popDue p'.region.now =
      p.region.schedule.popDue p.region.now := by
    rw [hregion]
    rfl
  unfold runNext
  rw [hpop]
  cases p.region.schedule.popDue p.region.now with
  | none => exact .none
  | some next =>
    obtain ⟨⟨key, step⟩, schedule⟩ := next
    have htaken := h.region.change (fun r => { r with schedule }) fun _ _ => rfl
    have hrun := Step.run_alike (e.context step draw) step.command htaken draw' step.source
      step.target
    refine .some ⟨settle_alike hrun step.invocation, ?_⟩
    have hnow : p'.region.now = p.region.now := by
      rw [hregion]
      rfl
    simp only [List.map_append, h.executed, hnow]
    rfl

theorem runSteps_alike (draws draws' : Nat → Nat) (limit : Nat) {p p' : Progress}
    (h : p.Alike p') : (e.runSteps draws limit p).Alike (e.runSteps draws' limit p') := by
  induction limit generalizing p p' with
  | zero => exact h
  | succ limit ih =>
    have hnext := e.runNext_alike h (draws p.executed.length) (draws' p'.executed.length)
    unfold runSteps
    generalize e.runNext (draws p.executed.length) p = next at hnext ⊢
    generalize e.runNext (draws' p'.executed.length) p' = next' at hnext ⊢
    cases hnext with
    | none => exact h
    | some halike => exact ih halike

/-- The drawn numbers decide nothing but speech. Running what is due with any numbers or with any
others runs the same steps and ends with the same objects, groups, clock, counter and schedule, and
with logs that are equal but for texts and emotes; and what a step says is among what its command
offers. A number is given for every step; a stream of which only the steps that choose take a number
is one way to give them. -/
theorem draws_decide_only_speech (draws draws' : Nat → Nat) (r : Region) :
    let p := e.processDue draws r
    let p' := e.processDue draws' r
    (p.executed.length = p'.executed.length ∧
      p.executed.map Execution.place = p'.executed.map Execution.place) ∧
    p.region.unlogged = p'.region.unlogged ∧ p.region.deeds = p'.region.deeds ∧
    ∀ (ctx : StepContext) (r : Region) (c : Command) (source target : Option Guid),
      r.Logs c.MaySay (Step.run ctx r c source target).region := by
  intro p p'
  have halike : p.Alike p' := e.runSteps_alike draws draws' _ ⟨.refl r, rfl⟩
  refine ⟨⟨?_, halike.executed⟩, halike.region.unlogged, halike.region.deeds, Step.run_says⟩
  have hlength := congrArg List.length halike.executed
  rwa [List.length_map, List.length_map] at hlength

end Engine

end RegionScript
