import RegionScript.Proofs.Alike
import RegionScript.Proofs.StepFrame

/-!
Steps in regions that are alike.

Only a talk and an emote look at the number that is drawn, and the most that it decides is what is
said, and whether a text is there to be said at all. Neither ends a script or does anything else. So
one step, run in two regions that are alike and with two numbers, leaves them alike, and ends its
script in both or in neither.
-/

namespace RegionScript

/-- Two results whose regions are alike, and which both end the script or both do not. How they
failed, if they did, may differ. -/
structure StepResult.Alike (x x' : StepResult) : Prop where
  region : x.region.Alike x'.region
  ends : x.outcome = .ok .terminate ↔ x'.outcome = .ok .terminate

namespace Step

open Region (Alike)

variable {r r' s s' : Region}

/-! ### Ways to a result -/

theorem alike_fail (h : r.Alike r') (e : StepError) : (fail r e).Alike (fail r' e) := ⟨h, Iff.rfl⟩

theorem alike_applied (h : r.Alike r') : (applied r).Alike (applied r') := ⟨h, Iff.rfl⟩

theorem alike_ended (h : r.Alike r') (log log' : List LogLine) :
    StepResult.Alike ⟨r, .ok .terminate, log⟩ ⟨r', .ok .terminate, log'⟩ :=
  ⟨h, Iff.rfl⟩

theorem alike_require {α : Type} {value : Option α} {e : StepError} {next next' : α → StepResult}
    (h : r.Alike r') (hnext : ∀ a, (next a).Alike (next' a)) :
    (require r value e next).Alike (require r' value e next') := by
  cases value with
  | none => exact alike_fail h e
  | some a => exact hnext a

theorem alike_attempt {α : Type} {value : Except StepError α} {next next' : α → StepResult}
    (h : r.Alike r') (hnext : ∀ a, (next a).Alike (next' a)) :
    (attempt r value next).Alike (attempt r' value next') := by
  cases value with
  | error e => exact alike_fail h e
  | ok a => exact hnext a

theorem alike_demand {condition : Bool} {e : StepError} {next next' : StepResult}
    (h : r.Alike r') (hnext : next.Alike next') :
    (demand r condition e next).Alike (demand r' condition e next') := by
  cases condition with
  | false => exact alike_fail h e
  | true => exact hnext

theorem alike_ite {condition : Prop} [Decidable condition] {x x' y y' : StepResult}
    (hx : x.Alike x') (hy : y.Alike y') :
    (if condition then x else y).Alike (if condition then x' else y') := by
  by_cases hc : condition
  · rwa [if_pos hc, if_pos hc]
  · rwa [if_neg hc, if_neg hc]

/-- What is logged about a step is no part of the world. -/
theorem alike_log {x x' : StepResult} (h : x.Alike x') (log log' : List LogLine) :
    StepResult.Alike { x with log } { x' with log := log' } :=
  ⟨h.region, h.ends⟩

/-! ### Speech -/

/-- A result that says something in a region, or nothing, and does not end the script. -/
structure Hushed (r : Region) (x : StepResult) : Prop where
  region : r.Alike x.region
  goesOn : x.outcome ≠ .ok .terminate

theorem hushed_fail (r : Region) (e : StepError) : Hushed r (fail r e) where
  region := .refl r
  goesOn := by rintro ⟨⟩

theorem hushed_speak (r : Region) {e : WorldEvent} (he : e.isSpeech = true) :
    Hushed r (applied (r.record e)) where
  region := .speak r he
  goesOn := by rintro ⟨⟩

theorem hushed_require {α : Type} {value : Option α} {e : StepError} {next : α → StepResult}
    (h : ∀ a, Hushed r (next a)) : Hushed r (require r value e next) := by
  cases value with
  | none => exact hushed_fail r e
  | some a => exact h a

theorem hushed_demand {condition : Bool} {e : StepError} {next : StepResult}
    (h : Hushed r next) : Hushed r (demand r condition e next) := by
  cases condition with
  | false => exact hushed_fail r e
  | true => exact h

/-- Two results that say something need not be of the same step. -/
theorem Hushed.alike {x x' : StepResult} (hx : Hushed r x) (hx' : Hushed r' x')
    (h : r.Alike r') : x.Alike x' where
  region := (hx.region.symm.trans h).trans hx'.region
  ends := iff_of_false hx.goesOn hx'.goesOn

variable (ctx : StepContext) (c : Command) (p : Participants)

theorem talk_hushed : Hushed r (talk ctx r c p) := by
  refine hushed_require fun speaker => ?_
  refine hushed_require fun text => hushed_demand ?_
  exact hushed_speak r rfl

theorem emote_hushed (first : UInt32) : Hushed r (emote ctx r c p first) := by
  refine hushed_require fun actor => ?_
  exact hushed_speak r rfl

/-! ### Changing one object -/

theorem alike_modifyCreature (h : r.Alike r') {holder : Option Guid} {e : StepError}
    {f : Guid → Creature → Creature} :
    (require r holder e fun g => applied (r.modifyCreature g (f g))).Alike
      (require r' holder e fun g => applied (r'.modifyCreature g (f g))) := by
  refine alike_require h fun g => ?_
  exact alike_applied (h.modifyCreature g (f g))

theorem alike_modifyFields (h : r.Alike r') {holder : Option Guid} {e e' : StepError}
    {f : Guid → Fields → Fields} :
    (require r holder e fun g =>
      require r (r.fields? g) e' fun _ => applied (r.modifyFields g (f g))).Alike
      (require r' holder e fun g =>
        require r' (r'.fields? g) e' fun _ => applied (r'.modifyFields g (f g))) := by
  obtain ⟨es, rfl⟩ := h.exists_log
  refine alike_require h fun g => alike_require h fun _ => ?_
  exact alike_applied (h.modifyFields g (f g))

theorem alike_display (h : r.Alike r') {holder : Option Guid} {e : StepError}
    {display : Except StepError (Option UInt32)} {f : Option UInt32 → Creature → Creature} :
    (require r holder e fun g =>
      attempt r display fun d => applied (r.modifyCreature g (f d))).Alike
      (require r' holder e fun g =>
        attempt r' display fun d => applied (r'.modifyCreature g (f d))) := by
  refine alike_require h fun g => alike_attempt h fun d => ?_
  exact alike_applied (h.modifyCreature g (f d))

theorem writeField_alike (h : r.Alike r') (field : UInt32) (change : Fields → Fields) :
    (writeField r p field change).Alike (writeField r' p field change) := by
  obtain ⟨es, rfl⟩ := h.exists_log
  refine alike_require h fun holder => ?_
  refine alike_require h fun fields => alike_demand h ?_
  exact alike_applied (h.modifyFields holder change)

/-! ### Sounds and movement -/

theorem playSound_alike (h : r.Alike r') (sound flags : UInt32) :
    (playSound r p sound flags).Alike (playSound r' p sound flags) := by
  obtain ⟨es, rfl⟩ := h.exists_log
  refine alike_require h fun emitter => alike_demand h ?_
  exact alike_applied (h.record _)

theorem moveTo_alike (h : r.Alike r') (speed : UInt32) :
    (moveTo r c p speed).Alike (moveTo r' c p speed) := by
  obtain ⟨es, rfl⟩ := h.exists_log
  refine alike_require h fun actor => alike_require h fun unit => ?_
  refine alike_ite ?_ (alike_ite ?_ ?_)
  · exact alike_applied ((h.modifyUnit actor _).record _)
  · exact alike_applied ((h.modifyUnit actor _).record _)
  · exact alike_applied ((h.modifyUnit actor _).record _)

theorem teleportTo_alike (h : r.Alike r') (map : UInt32) :
    (teleportTo r c p map).Alike (teleportTo r' c p map) := by
  refine alike_require h fun player => ?_
  exact alike_applied (h.teleport? player map c.position)

theorem movement_alike (h : r.Alike r') (change : MotionChange) (distance : UInt32) :
    (movement r c p change distance).Alike (movement r' c p change distance) := by
  obtain ⟨es, rfl⟩ := h.exists_log
  refine alike_require h fun g => alike_require h fun creature => ?_
  exact alike_applied (h.modifyCreature g _)

theorem sendTaxiPath_alike (h : r.Alike r') (path : UInt32) :
    (sendTaxiPath r p path).Alike (sendTaxiPath r' p path) := by
  obtain ⟨es, rfl⟩ := h.exists_log
  refine alike_require h fun player => alike_ite ?_ (alike_applied h)
  exact alike_applied ((h.modifyPlayer player _).record _)

/-! ### Quests and items -/

theorem questExplored_alike (h : r.Alike r') (quest distance : UInt32) :
    (questExplored r p quest distance).Alike (questExplored r' p quest distance) := by
  obtain ⟨es, rfl⟩ := h.exists_log
  refine alike_require h fun player => ?_
  refine alike_demand h (alike_demand h (alike_ite ?_ ?_))
  · exact alike_applied (h.failQuest? player quest)
  · exact alike_applied (h.exploreQuest? player quest)

theorem killCredit_alike (h : r.Alike r') (entry : UInt32) (group : Bool) :
    (killCredit r p entry group).Alike (killCredit r' p entry group) := by
  refine alike_require h fun player => alike_require h fun entry => ?_
  exact alike_applied (h.creditKill player entry _ group)

theorem createItem_alike (h : r.Alike r') (item amount : UInt32) :
    (createItem r p item amount).Alike (createItem r' p item amount) := by
  obtain ⟨es, rfl⟩ := h.exists_log
  refine alike_require h fun player => alike_ite ?_ (alike_applied h)
  exact alike_applied ((h.modifyPlayer player _).record _)

/-! ### Game objects -/

theorem respawnGameObject_alike (h : r.Alike r') (n : Nat) (spawn delay : UInt32) :
    (respawnGameObject ctx r c p spawn delay).Alike
      (respawnGameObject { ctx with draw := n } r' c p spawn delay) := by
  obtain ⟨es, rfl⟩ := h.exists_log
  refine alike_attempt h fun g => alike_require h fun o => alike_demand h ?_
  refine alike_ite (alike_applied h) ?_
  exact alike_applied (h.respawn? g _)

theorem useDoor_alike (h : r.Alike r') (n : Nat) (state : UseState) (spawn delay : UInt32) :
    (useDoor ctx r c p state spawn delay).Alike
      (useDoor { ctx with draw := n } r' c p state spawn delay) := by
  obtain ⟨es, rfl⟩ := h.exists_log
  refine alike_attempt h fun g => alike_require h fun door => alike_demand h ?_
  refine alike_ite (alike_applied h) (alike_applied ?_)
  have hbutton : button? (r.withLog es) p = button? r p := rfl
  rw [hbutton]
  have hdoor := h.useDoor g (max delay minDoorReset)
  cases button? r p with
  | none => exact hdoor
  | some b => exact hdoor.useDoor b _

theorem activateObject_alike (h : r.Alike r') :
    (activateObject r p).Alike (activateObject r' p) := by
  refine alike_require h fun user => alike_require h fun o => ?_
  exact alike_applied (h.useGameObject? o user)

/-! ### Creatures and fights -/

theorem tempSummonCreature_alike (h : r.Alike r') (n : Nat) (entry delay : UInt32) :
    (tempSummonCreature ctx r c p entry delay).Alike
      (tempSummonCreature { ctx with draw := n } r' c p entry delay) := by
  refine alike_require h fun summoner => alike_require h fun t => ?_
  exact alike_applied (h.summon t c.position _ _ summoner)

theorem despawnSelf_alike (h : r.Alike r') (n : Nat) (delay : UInt32) :
    (despawnSelf ctx r c p delay).Alike (despawnSelf { ctx with draw := n } r' c p delay) := by
  refine alike_log (alike_require h fun victim => ?_) _ _
  exact alike_applied (h.despawn? victim delay)

theorem attackStart_alike (h : r.Alike r') (n : Nat) :
    (attackStart ctx r p).Alike (attackStart { ctx with draw := n } r' p) := by
  obtain ⟨es, rfl⟩ := h.exists_log
  refine alike_require h fun attacker => alike_require h fun victim => ?_
  refine alike_require h fun a => alike_require h fun faction => alike_demand h ?_
  exact alike_applied ((h.modifyCreature attacker _).record _)

theorem removeAura_alike (h : r.Alike r') (spell : UInt32) :
    (removeAura r p spell).Alike (removeAura r' p spell) := by
  obtain ⟨es, rfl⟩ := h.exists_log
  refine alike_require h fun actor => ?_
  have hunit : (r.withLog es).unit? actor = r.unit? actor := rfl
  rw [hunit]
  cases r.unit? actor with
  | none => exact alike_applied h
  | some unit =>
    refine alike_ite ?_ (alike_applied h)
    exact alike_applied ((h.modifyUnit actor _).record _)

theorem castSpell_alike (h : r.Alike r') (spell : UInt32) :
    (castSpell r c p spell).Alike (castSpell r' c p spell) := by
  refine alike_require h fun victim => ?_
  cases p.sourceGameObject? with
  | some o => exact alike_applied (h.castSpell victim victim spell true (some o))
  | none =>
    refine alike_require h fun caster => ?_
    exact alike_applied (h.castSpell caster victim spell _ none)

/-! ### Endings -/

theorem terminateScript_alike (h : r.Alike r') (n : Nat) (entry distance : UInt32) :
    (terminateScript ctx r c p entry distance).Alike
      (terminateScript { ctx with draw := n } r' c p entry distance) := by
  obtain ⟨es, rfl⟩ := h.exists_log
  refine alike_ite (alike_ite (alike_ended h _ _) ?_) (alike_applied h)
  have hpaused : paused? (r.withLog es) p = paused? r p := rfl
  rw [hpaused]
  cases paused? r p with
  | none => exact alike_ended h _ _
  | some g => exact alike_ended (h.modifyCreature g _) _ _

theorem failIncomplete_alike (h : r.Alike r') (quest : UInt32) (members : List Guid) :
    (failIncomplete r quest members).Alike (failIncomplete r' quest members) := by
  refine Alike.foldl (fun g h => ?_) members h
  obtain ⟨es, rfl⟩ := h.exists_log
  exact Alike.ite (h.failQuest? g quest) h

theorem failGroupQuest_alike (h : r.Alike r') (player : Option Guid) (quest : UInt32) :
    (failGroupQuest r player quest).Alike (failGroupQuest r' player quest) := by
  obtain ⟨es, rfl⟩ := h.exists_log
  cases player with
  | none => exact h
  | some player => exact Alike.ite h (failIncomplete_alike h quest _)

/-- A condition is met in both regions or in neither. -/
theorem terminateCondition_alike (h : r.Alike r') (n : Nat) (condition quest : UInt32) :
    (terminateCondition ctx r c p condition quest).Alike
      (terminateCondition { ctx with draw := n } r' c p condition quest) := by
  have hmet : Condition.isMet ctx.catalog r' (conditionSubject p) condition =
      Condition.isMet ctx.catalog r (conditionSubject p) condition :=
    Condition.holds_alike h ctx.catalog (conditionSubject p) _ condition
  unfold terminateCondition
  simp only [hmet]
  exact alike_ite (alike_ended (failGroupQuest_alike h _ quest) _ _)
    (alike_log (alike_applied h) _ _)

/-! ### Any step -/

/-- Every command, on the same participants, whatever numbers are drawn. -/
theorem apply_alike (h : r.Alike r') (n : Nat) :
    (apply ctx r c p).Alike (apply { ctx with draw := n } r' c p) := by
  unfold apply
  cases c.payload with
  | talk => exact (talk_hushed ctx c p).alike (talk_hushed _ c p) h
  | emote e => exact (emote_hushed ctx c p e).alike (emote_hushed _ c p e) h
  | fieldSet field value => exact writeField_alike p h field _
  | moveTo speed => exact moveTo_alike c p h speed
  | flagSet field flag => exact writeField_alike p h field _
  | flagRemove field flag => exact writeField_alike p h field _
  | teleportTo map => exact teleportTo_alike c p h map
  | questExplored quest distance => exact questExplored_alike p h quest distance
  | killCredit entry group => exact killCredit_alike p h entry group
  | respawnGameObject spawn delay => exact respawnGameObject_alike ctx c p h n spawn delay
  | tempSummonCreature entry delay => exact tempSummonCreature_alike ctx c p h n entry delay
  | openDoor spawn delay => exact useDoor_alike ctx c p h n .active spawn delay
  | closeDoor spawn delay => exact useDoor_alike ctx c p h n .ready spawn delay
  | activateObject => exact activateObject_alike p h
  | removeAura spell => exact removeAura_alike p h spell
  | castSpell spell => exact castSpell_alike c p h spell
  | playSound sound flags => exact playSound_alike p h sound flags
  | createItem item amount => exact createItem_alike p h item amount
  | despawnSelf delay => exact despawnSelf_alike ctx c p h n delay
  | playMovie movie => exact alike_fail h _
  | movement change distance => exact movement_alike c p h change distance
  | setActiveObject active => exact alike_modifyCreature h
  | setFaction faction flags => exact alike_modifyCreature h
  | morphToEntryOrModel value => exact alike_display h
  | mountToEntryOrModel value => exact alike_display h
  | setRun run => exact alike_modifyCreature h
  | attackStart => exact attackStart_alike ctx p h n
  | goLockState state => exact alike_modifyFields h
  | standState state => exact alike_modifyCreature h
  | modifyNpcFlags flags change => exact alike_modifyFields h
  | sendTaxiPath path => exact sendTaxiPath_alike p h path
  | terminateScript entry distance => exact terminateScript_alike ctx c p h n entry distance
  | pauseWaypoints pause => exact alike_modifyCreature h
  | xpUser disable => exact alike_modifyFields h
  | terminateCondition condition quest => exact terminateCondition_alike ctx c p h n condition quest

/-- In regions that are alike, a step finds the same participants. -/
theorem run_alike (h : r.Alike r') (n : Nat) (source target : Option Guid) :
    (run ctx r c source target).Alike (run { ctx with draw := n } r' c source target) := by
  refine alike_log ?_ _ _
  obtain ⟨es, rfl⟩ := h.exists_log
  exact alike_attempt h fun p => apply_alike ctx c p h n

end Step

end RegionScript
