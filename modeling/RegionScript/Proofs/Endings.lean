import RegionScript.Proofs.StepFrame

/-!
Commands that end their script.

One command asks whether a creature is near, another whether a condition is met. The additional flag
turns the answer round and nothing else: of two steps that differ in the flag alone, just one ends
the script, and the other does nothing at all. Only a command that looks for no creature ends its
script either way.
-/

namespace RegionScript

/-- The same command with the additional flag set or cleared. -/
def Command.withAdditional (c : Command) (additional : Bool) : Command :=
  { c with flags := { c.flags with additional } }

/-- The flag has no part in finding the objects of a step. -/
theorem Command.participants_withAdditional (c : Command) (additional : Bool) (r : Region)
    (source target : Option Guid) :
    (c.withAdditional additional).participants r source target =
      c.participants r source target :=
  rfl

namespace StepResult

/-- The script goes no further. -/
def Ends (x : StepResult) : Prop := x.outcome = .ok .terminate

/-- The script goes on, and the region is as it was. -/
def Passes (r : Region) (x : StepResult) : Prop := x.outcome = .ok .applied ∧ x.region = r

/-- The step does one or the other. -/
def Decides (r : Region) (ends : Bool) (x : StepResult) : Prop :=
  if ends then x.Ends else x.Passes r

end StepResult

namespace Step

/-- Whether what a command asks speaks for ending its script; none if it asks nothing. -/
def verdict? (catalog : Catalog) (r : Region) (p : Participants) : Payload → Option Bool
  | .terminateScript entry distance =>
    if entry = 0 then none else some !creatureIsNear r p entry distance
  | .terminateCondition condition _ =>
    some (Condition.isMet catalog r (conditionSubject p) condition)
  | _ => none

variable {ctx : StepContext} {r : Region} {c : Command} {p : Participants}
  {source target : Option Guid}

theorem terminateScript_decides (entry distance : UInt32) :
    (terminateScript ctx r c p entry distance).Decides r (endsByCreature r c p entry distance) := by
  unfold terminateScript
  cases endsByCreature r c p entry distance with
  | false => exact ⟨rfl, rfl⟩
  | true =>
    rw [if_pos rfl]
    split
    · rfl
    · split
      · rfl
      · rfl

theorem terminateCondition_decides (condition quest : UInt32) :
    (terminateCondition ctx r c p condition quest).Decides r
      (Condition.isMet ctx.catalog r (conditionSubject p) condition = !c.flags.additional) := by
  unfold terminateCondition
  dsimp only
  split
  · next hends =>
    rw [decide_eq_true hends]
    rfl
  · next hpasses =>
    rw [decide_eq_false hpasses]
    exact ⟨rfl, rfl⟩

/-- A command ends its script just if its verdict differs from its flag. -/
theorem apply_decides {verdict : Bool} (h : verdict? ctx.catalog r p c.payload = some verdict) :
    (apply ctx r c p).Decides r (verdict ^^ c.flags.additional) := by
  unfold apply
  unfold verdict? at h
  split at h
  · next entry distance hpayload =>
    rw [hpayload]
    split at h
    · cases h
    · next hentry =>
      obtain rfl := Option.some.inj h
      have hends : endsByCreature r c p entry distance =
          (!creatureIsNear r p entry distance ^^ c.flags.additional) := by
        unfold endsByCreature
        rw [decide_eq_false hentry]
        cases creatureIsNear r p entry distance <;> cases c.flags.additional <;> rfl
      rw [← hends]
      exact terminateScript_decides entry distance
  · next condition quest hpayload =>
    rw [hpayload]
    obtain rfl := Option.some.inj h
    have hends : decide (Condition.isMet ctx.catalog r (conditionSubject p) condition =
          !c.flags.additional) =
        (Condition.isMet ctx.catalog r (conditionSubject p) condition ^^ c.flags.additional) := by
      cases Condition.isMet ctx.catalog r (conditionSubject p) condition <;>
        cases c.flags.additional <;> rfl
    rw [← hends]
    exact terminateCondition_decides condition quest
  · cases h

/-- Either flag leads to the same verdict, and decides what it is worth. -/
theorem run_decides (ctx : StepContext) {verdict : Bool}
    (hp : c.participants r source target = .ok p)
    (h : verdict? ctx.catalog r p c.payload = some verdict) (additional : Bool) :
    (run ctx r (c.withAdditional additional) source target).Decides r (verdict ^^ additional) := by
  rw [run_eq_of_found (c.participants_withAdditional additional r source target ▸ hp)]
  exact apply_decides (c := c.withAdditional additional) h

/-- Whatever the flag, a command that looks for no creature ends its script. -/
theorem run_ends (ctx : StepContext) {distance : UInt32}
    (hp : c.participants r source target = .ok p)
    (hpayload : c.payload = .terminateScript 0 distance) (additional : Bool) :
    (run ctx r (c.withAdditional additional) source target).Ends := by
  rw [run_eq_of_found (c.participants_withAdditional additional r source target ▸ hp)]
  have happly : apply ctx r (c.withAdditional additional) p =
      terminateScript ctx r (c.withAdditional additional) p 0 distance := by
    unfold apply
    rw [show (c.withAdditional additional).payload = _ from hpayload]
  rw [happly]
  exact terminateScript_decides 0 distance

/-- A command that asks for a condition, or for a creature of some entry, either fails with the same
error whatever its additional flag, or ends its script with the flag set or with the flag cleared
and with the other changes nothing. A command that looks for no creature ends its script in both
cases. Nothing is left to the draw. -/
theorem additional_inverts_ending (ctx : StepContext) (draw : Nat) (r : Region) (c : Command)
    (source target : Option Guid) :
    let plain := run ctx r (c.withAdditional false) source target
    let inverted := run { ctx with draw } r (c.withAdditional true) source target
    ((∃ condition quest, c.payload = .terminateCondition condition quest) ∨
        (∃ entry distance, c.payload = .terminateScript entry distance ∧ entry ≠ 0) →
      (∃ e, plain.outcome = .error e ∧ inverted.outcome = .error e) ∨
        plain.Ends ∧ inverted.Passes r ∨ plain.Passes r ∧ inverted.Ends) ∧
    ∀ distance, c.payload = .terminateScript 0 distance →
      ∀ p, c.participants r source target = .ok p → plain.Ends ∧ inverted.Ends := by
  intro plain inverted
  refine ⟨fun hasks => ?_, fun distance hpayload p hp => ?_⟩
  · cases hp : c.participants r source target with
    | error e =>
      have hlost : ∀ ctx additional,
          (run ctx r (c.withAdditional additional) source target).outcome = .error e := by
        intro ctx additional
        rw [run_eq_of_lost (c.participants_withAdditional additional r source target ▸ hp)]
        rfl
      exact .inl ⟨e, hlost ctx false, hlost { ctx with draw } true⟩
    | ok p =>
      obtain ⟨verdict, hverdict⟩ :
          ∃ verdict, verdict? ctx.catalog r p c.payload = some verdict := by
        rcases hasks with ⟨condition, quest, hpayload⟩ | ⟨entry, distance, hpayload, hentry⟩
        · exact ⟨_, by rw [hpayload, verdict?]⟩
        · exact ⟨_, by rw [hpayload, verdict?, if_neg hentry]⟩
      have hplain : plain.Decides r (verdict ^^ false) := run_decides ctx hp hverdict false
      have hinverted : inverted.Decides r (verdict ^^ true) :=
        run_decides { ctx with draw } hp hverdict true
      cases verdict with
      | false => exact .inr (.inr ⟨hplain, hinverted⟩)
      | true => exact .inr (.inl ⟨hplain, hinverted⟩)
  · exact ⟨run_ends ctx hp hpayload false, run_ends { ctx with draw } hp hpayload true⟩

/-- A guard who looks for a captain and finds none ends the script, unless the command is
additional; and it ends it anyway when it looks for nobody. -/
theorem additional_inverts_ending_guard :
    let ctx : StepContext := { catalog := {}, table := "dbscripts_on_event", draw := 0 }
    let guard : Guid := .creature 12 1
    let seeking : Command := .plain 5 0 (.terminateScript 13 20)
    let leaving : Command := .plain 5 0 (.terminateScript 0 0)
    ((run ctx guarded (seeking.withAdditional false) (some guard) none).Ends ∧
        (run ctx guarded (seeking.withAdditional true) (some guard) none).Passes guarded) ∧
      (run ctx guarded (leaving.withAdditional false) (some guard) none).Ends ∧
        (run ctx guarded (leaving.withAdditional true) (some guard) none).Ends := by
  intro ctx guard seeking leaving
  obtain ⟨hseeking, -⟩ := additional_inverts_ending ctx 0 guarded seeking (some guard) none
  obtain ⟨-, hleaving⟩ := additional_inverts_ending ctx 0 guarded leaving (some guard) none
  have hends : (run ctx guarded (seeking.withAdditional false) (some guard) none).outcome =
      .ok .terminate := rfl
  refine ⟨?_, hleaving 0 rfl _ rfl⟩
  rcases hseeking (.inr ⟨13, 20, rfl, by decide⟩) with ⟨e, hplain, -⟩ | hinverted | ⟨⟨hplain, -⟩, -⟩
  · rw [hends] at hplain
    cases hplain
  · exact hinverted
  · rw [hends] at hplain
    cases hplain

end Step

end RegionScript
