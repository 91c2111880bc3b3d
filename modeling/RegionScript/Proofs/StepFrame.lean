import RegionScript.Proofs.Frame
import RegionScript.Proofs.Scripts
import RegionScript.Step.Run

/-!
A step that fails does nothing.

`Within` says of a step's result that it is the region it was given when the step failed, that it
ends the script only where it may, and that it stays within the frame of the region. The ways of
failing keep to it because they hand back the region they were given; so a command keeps to it as
soon as what it does at last does.
-/

namespace RegionScript

/-- The commands that may end their script. -/
def Command.MayEnd (c : Command) : Prop := c.kind = .terminateScript ∨ c.kind = .terminateCondition

/-- A failed step changed nothing, a step ends its script only where it may, and none leaves the
frame of its region. -/
structure StepResult.Within (r : Region) (ends : Prop) (mobile : Guid → Prop) (x : StepResult) :
    Prop where
  failed : ∀ e, x.outcome = .error e → x.region = r
  ended : x.outcome = .ok .terminate → ends
  frame : r.Frame mobile x.region

namespace Step

open Region (Frame)

variable {r r' : Region} {ends : Prop} {mobile : Guid → Prop}

/-! ### Ways to a result -/

theorem within_fail (e : StepError) : (fail r e).Within r ends mobile where
  failed _ _ := rfl
  ended h := by cases h
  frame := .refl mobile r

theorem within_applied (h : r.Frame mobile r') : (applied r').Within r ends mobile where
  failed _ he := by cases he
  ended he := by cases he
  frame := h

theorem within_require {α : Type} {value : Option α} {e : StepError} {next : α → StepResult}
    (h : ∀ a, value = some a → (next a).Within r ends mobile) :
    (require r value e next).Within r ends mobile := by
  cases value with
  | none => exact within_fail e
  | some a => exact h a rfl

theorem within_attempt {α : Type} {value : Except StepError α} {next : α → StepResult}
    (h : ∀ a, value = .ok a → (next a).Within r ends mobile) :
    (attempt r value next).Within r ends mobile := by
  cases value with
  | error e => exact within_fail e
  | ok a => exact h a rfl

theorem within_demand {condition : Bool} {e : StepError} {next : StepResult}
    (h : condition = true → next.Within r ends mobile) :
    (demand r condition e next).Within r ends mobile := by
  cases condition with
  | false => exact within_fail e
  | true => exact h rfl

/-- The log of a result does not matter. -/
theorem within_log {x : StepResult} (h : x.Within r ends mobile) (log : List LogLine) :
    StepResult.Within r ends mobile { x with log } :=
  ⟨h.failed, h.ended, h.frame⟩

/-- Ending the script. -/
theorem within_ended (hends : ends) (h : r.Frame mobile r') (log : List LogLine) :
    StepResult.Within r ends mobile ⟨r', .ok .terminate, log⟩ where
  failed _ he := by cases he
  ended _ := hends
  frame := h

/-! ### Changing one object -/

/-- Many commands only change the creature that they are about. -/
theorem within_modifyCreature {holder : Option Guid} {e : StepError}
    {f : Guid → Creature → Creature} :
    (require r holder e fun g => applied (r.modifyCreature g (f g))).Within r ends mobile := by
  refine within_require fun g _ => ?_
  exact within_applied (.modifyCreature r g (f g))

/-- Others write the fields of an object that has to be here. -/
theorem within_modifyFields {holder : Option Guid} {e e' : StepError}
    {f : Guid → Fields → Fields} :
    (require r holder e fun g =>
      require r (r.fields? g) e' fun _ =>
        applied (r.modifyFields g (f g))).Within r ends mobile := by
  refine within_require fun g _ => within_require fun _ _ => ?_
  exact within_applied (.modifyFields r g (f g))

/-- Two give a creature a display that has to be found first. -/
theorem within_display {holder : Option Guid} {e : StepError}
    {display : Except StepError (Option UInt32)} {f : Option UInt32 → Creature → Creature} :
    (require r holder e fun g =>
      attempt r display fun d => applied (r.modifyCreature g (f d))).Within r ends mobile := by
  refine within_require fun g _ => within_attempt fun d _ => ?_
  exact within_applied (.modifyCreature r g (f d))

/-! ### Texts, emotes and sounds -/

variable (ctx : StepContext) (c : Command) (p : Participants)

theorem talk_within : (talk ctx r c p).Within r ends mobile := by
  refine within_require fun speaker _ => ?_
  refine within_require fun text _ => within_demand fun _ => ?_
  exact within_applied ((Frame.refl mobile r).record _)

theorem emote_within (e : UInt32) : (emote ctx r c p e).Within r ends mobile := by
  refine within_require fun actor _ => ?_
  exact within_applied ((Frame.refl mobile r).record _)

theorem playSound_within (sound flags : UInt32) :
    (playSound r p sound flags).Within r ends mobile := by
  refine within_require fun emitter _ => within_demand fun _ => ?_
  exact within_applied ((Frame.refl mobile r).record _)

/-! ### Fields -/

theorem writeField_within (field : UInt32) (change : Fields → Fields) :
    (writeField r p field change).Within r ends mobile := by
  refine within_require fun holder _ => ?_
  refine within_require fun fields _ => within_demand fun _ => ?_
  exact within_applied (.modifyFields r holder change)

/-! ### Movement -/

theorem moveTo_within (speed : UInt32) : (moveTo r c p speed).Within r ends mobile := by
  refine within_require fun actor _ => within_require fun unit _ => ?_
  dsimp only
  split
  · exact within_applied ((Frame.modifyUnit r actor _).record _)
  · split
    · exact within_applied ((Frame.modifyUnit r actor _).record _)
    · exact within_applied ((Frame.modifyUnit r actor _).record _)

theorem teleportTo_within (map : UInt32) : (teleportTo r c p map).Within r ends mobile := by
  refine within_require fun player _ => ?_
  exact within_applied (.getD fun r' h => .teleport? h)

theorem movement_within (change : MotionChange) (distance : UInt32) :
    (movement r c p change distance).Within r ends mobile := by
  refine within_require fun g _ => within_require fun creature _ => ?_
  exact within_applied (.modifyCreature r g _)

theorem sendTaxiPath_within (path : UInt32) : (sendTaxiPath r p path).Within r ends mobile := by
  refine within_require fun player _ => ?_
  split
  · refine within_applied (Frame.record ?_ _)
    exact .modifyPlayer fun _ _ => rfl
  · exact within_applied (.refl mobile r)

/-! ### Quests and items -/

theorem questExplored_within (quest distance : UInt32) :
    (questExplored r p quest distance).Within r ends mobile := by
  refine within_require fun player _ => ?_
  refine within_demand fun _ => within_demand fun _ => ?_
  split
  · exact within_applied (.getD fun r' h => .failQuest? h)
  · exact within_applied (.getD fun r' h => .exploreQuest? h)

theorem killCredit_within (entry : UInt32) (group : Bool) :
    (killCredit r p entry group).Within r ends mobile := by
  refine within_require fun player _ => within_require fun entry _ => ?_
  exact within_applied (.creditKill r player entry _ group)

theorem createItem_within (item amount : UInt32) :
    (createItem r p item amount).Within r ends mobile := by
  refine within_require fun player _ => ?_
  split
  · refine within_applied (Frame.record ?_ _)
    exact .modifyPlayer fun _ _ => rfl
  · exact within_applied (.refl mobile r)

/-! ### Game objects -/

theorem respawnGameObject_within (spawn delay : UInt32) :
    (respawnGameObject ctx r c p spawn delay).Within r ends mobile := by
  refine within_attempt fun g _ => within_require fun o _ => within_demand fun _ => ?_
  split
  · exact within_applied (.refl mobile r)
  · exact within_applied (.getD fun r' h => .respawn? h)

theorem useDoor_within (state : UseState) (spawn delay : UInt32) :
    (useDoor ctx r c p state spawn delay).Within r ends mobile := by
  refine within_attempt fun g _ => within_require fun door _ => within_demand fun _ => ?_
  split
  · exact within_applied (.refl mobile r)
  · refine within_applied ?_
    cases button? r p with
    | none => exact .useDoor r g _
    | some b => exact (Frame.useDoor r g _).trans (.useDoor _ b _)

theorem activateObject_within : (activateObject r p).Within r ends mobile := by
  refine within_require fun user _ => within_require fun o _ => ?_
  exact within_applied (.getD fun r' h => .useGameObject? h)

/-! ### Creatures and fights -/

/-- The creature that is summoned appears. -/
theorem tempSummonCreature_within (entry delay : UInt32)
    (hmobile : ∀ t, ctx.catalog.creatureTemplates.get? entry = some t →
      mobile (.creature t.entry r.nextSummon)) :
    (tempSummonCreature ctx r c p entry delay).Within r ends mobile := by
  refine within_require fun summoner _ => within_require fun t ht => ?_
  exact within_applied (.summon (hmobile t ht))

/-- The creature that a command removes. -/
def victim? (p : Participants) : Option Guid :=
  (if onlySourceIsCreature p then p.source else p.target).filter Guid.isCreature

/-- The victim disappears, unless only later. -/
theorem despawnSelf_within (delay : UInt32)
    (hmobile : delay = 0 → ∀ g, victim? p = some g → mobile g) :
    (despawnSelf ctx r c p delay).Within r ends mobile := by
  refine within_log (within_require fun g hg => ?_) _
  exact within_applied (.getD fun r' h => .despawn? (fun hdelay => hmobile hdelay g hg) h)

theorem attackStart_within : (attackStart ctx r p).Within r ends mobile := by
  refine within_require fun attacker _ => within_require fun victim _ => ?_
  refine within_require fun a _ => within_require fun faction _ => within_demand fun _ => ?_
  exact within_applied ((Frame.modifyCreature r attacker _).record _)

theorem removeAura_within (spell : UInt32) : (removeAura r p spell).Within r ends mobile := by
  refine within_require fun actor _ => ?_
  split
  · split
    · exact within_applied ((Frame.modifyUnit r actor _).record _)
    · exact within_applied (.refl mobile r)
  · exact within_applied (.refl mobile r)

theorem castSpell_within (spell : UInt32) : (castSpell r c p spell).Within r ends mobile := by
  refine within_require fun victim _ => ?_
  split
  · exact within_applied (.castSpell r victim victim spell true _)
  · refine within_require fun caster _ => ?_
    exact within_applied (.castSpell r caster victim spell _ none)

/-! ### Endings -/

/-- An ending by a creature's presence may also pause the source. -/
theorem terminateScript_within (entry distance : UInt32) (hends : ends) :
    (terminateScript ctx r c p entry distance).Within r ends mobile := by
  unfold terminateScript
  split
  · split
    · exact within_ended hends (.refl mobile r) _
    · split
      · exact within_ended hends (.modifyCreature r _ _) _
      · exact within_ended hends (.refl mobile r) _
  · exact within_applied (.refl mobile r)

theorem failGroupQuest_frame (player : Option Guid) (quest : UInt32) :
    r.Frame mobile (failGroupQuest r player quest) := by
  unfold failGroupQuest
  split
  · exact .refl mobile r
  · split
    · exact .refl mobile r
    · refine Frame.foldl (fun r g => ?_) _ r
      split
      · exact .getD fun r' h => .failQuest? h
      · exact .refl mobile r

/-- An ending by a condition may also fail quests. -/
theorem terminateCondition_within (condition quest : UInt32) (hends : ends) :
    (terminateCondition ctx r c p condition quest).Within r ends mobile := by
  unfold terminateCondition
  dsimp only
  split
  · exact within_ended hends (failGroupQuest_frame _ quest) _
  · exact within_log (within_applied (.refl mobile r)) _

/-! ### Any step -/

/-- The creature that a command may bring into the region or take out of it at once. -/
def Moves (r : Region) (g : Guid) : Prop :=
  match c.payload with
  | .tempSummonCreature entry _ =>
    ∃ t, ctx.catalog.creatureTemplates.get? entry = some t ∧ g = .creature t.entry r.nextSummon
  | .despawnSelf delay => delay = 0 ∧ victim? p = some g
  | _ => False

/-- Every command, on whatever participants, keeps to what is asked of a step. -/
theorem apply_within (r : Region) : (apply ctx r c p).Within r c.MayEnd (Moves ctx c p r) := by
  unfold apply
  cases hpayload : c.payload with
  | talk => exact talk_within ctx c p
  | emote e => exact emote_within ctx c p e
  | fieldSet field value => exact writeField_within p field _
  | moveTo speed => exact moveTo_within c p speed
  | flagSet field flag => exact writeField_within p field _
  | flagRemove field flag => exact writeField_within p field _
  | teleportTo map => exact teleportTo_within c p map
  | questExplored quest distance => exact questExplored_within p quest distance
  | killCredit entry group => exact killCredit_within p entry group
  | respawnGameObject spawn delay => exact respawnGameObject_within ctx c p spawn delay
  | tempSummonCreature entry delay =>
    refine tempSummonCreature_within ctx c p entry delay fun t ht => ?_
    rw [Moves, hpayload]
    exact ⟨t, ht, rfl⟩
  | openDoor spawn delay => exact useDoor_within ctx c p .active spawn delay
  | closeDoor spawn delay => exact useDoor_within ctx c p .ready spawn delay
  | activateObject => exact activateObject_within p
  | removeAura spell => exact removeAura_within p spell
  | castSpell spell => exact castSpell_within c p spell
  | playSound sound flags => exact playSound_within p sound flags
  | createItem item amount => exact createItem_within p item amount
  | despawnSelf delay =>
    refine despawnSelf_within ctx c p delay fun hdelay g hg => ?_
    rw [Moves, hpayload]
    exact ⟨hdelay, hg⟩
  | playMovie movie => exact within_fail _
  | movement change distance => exact movement_within c p change distance
  | setActiveObject active => exact within_modifyCreature
  | setFaction faction flags => exact within_modifyCreature
  | morphToEntryOrModel value => exact within_display
  | mountToEntryOrModel value => exact within_display
  | setRun run => exact within_modifyCreature
  | attackStart => exact attackStart_within ctx p
  | goLockState state => exact within_modifyFields
  | standState state => exact within_modifyCreature
  | modifyNpcFlags flags change => exact within_modifyFields
  | sendTaxiPath path => exact sendTaxiPath_within p path
  | terminateScript entry distance =>
    refine terminateScript_within ctx c p entry distance (.inl ?_)
    rw [Command.kind, hpayload]
    rfl
  | pauseWaypoints pause => exact within_modifyCreature
  | xpUser disable => exact within_modifyFields
  | terminateCondition condition quest =>
    refine terminateCondition_within ctx c p condition quest (.inr ?_)
    rw [Command.kind, hpayload]
    rfl

/-- The same of a step with its participants still to be found. -/
theorem run_within (ctx : StepContext) (r : Region) (c : Command) (source target : Option Guid) :
    (run ctx r c source target).Within r c.MayEnd
      fun g => ∃ p, c.participants r source target = .ok p ∧ Moves ctx c p r g := by
  refine within_log (within_attempt fun p hp => ?_) _
  have h := apply_within ctx c p r
  exact ⟨h.failed, h.ended, h.frame.mono fun g hg => ⟨p, hp, hg⟩⟩

/-- A step that fails leaves the region just as it was, whatever the command, the catalog, the
source and target and the number drawn; and only the two terminating commands end a script. -/
theorem failed_does_nothing (ctx : StepContext) (r : Region) (c : Command)
    (source target : Option Guid) :
    (∀ e, (run ctx r c source target).outcome = .error e →
      (run ctx r c source target).region = r) ∧
    ((run ctx r c source target).outcome = .ok .terminate →
      c.kind = .terminateScript ∨ c.kind = .terminateCondition) := by
  have hwithin := run_within ctx r c source target
  exact ⟨hwithin.failed, hwithin.ended⟩

/-- A region with one creature in it. -/
def guarded : Region :=
  { id := 0 : Region }.addCreature (.spawn (.creature 12 1) .origin 7 30)

/-- The creature is friendly to itself and so does not attack; and it can end the script. -/
theorem failed_does_nothing_guarded :
    let ctx : StepContext := { catalog := {}, table := "dbscripts_on_event", draw := 0 }
    let g : Guid := .creature 12 1
    let attack := run ctx guarded (.plain 5 0 .attackStart) (some g) (some g)
    let ending := run ctx guarded (.plain 5 0 (.terminateScript 0 0)) (some g) none
    (attack.outcome = .error (.friendlyTarget g g) ∧ attack.region = guarded) ∧
      ending.outcome = .ok .terminate ∧
      ((Command.plain 5 0 (.terminateScript 0 0)).kind = .terminateScript ∨
        (Command.plain 5 0 (.terminateScript 0 0)).kind = .terminateCondition) := by
  intro ctx g attack ending
  have hattack : attack.outcome = .error (.friendlyTarget g g) := rfl
  have hending : ending.outcome = .ok .terminate := rfl
  exact ⟨⟨hattack, (failed_does_nothing ctx guarded _ (some g) (some g)).1 _ hattack⟩, hending,
    (failed_does_nothing ctx guarded _ (some g) none).2 hending⟩

end Step

end RegionScript
