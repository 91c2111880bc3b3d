import RegionScript.Proofs.Lookups
import RegionScript.Proofs.Recorded
import RegionScript.Proofs.StepFrame

/-!
Why a step fails, and what a step that does not fail records.

`Grounds` gives, for every error that says something about the command or its participants, all the
reasons that a command has to fail with it. `Records` gives for every event the commands that record
it, and with which of their data. Each command conforms to both, and so every step does.
-/

namespace RegionScript

/-- The errors of a result have their reasons, and a region that was reached without an error meets
its postcondition. -/
structure StepResult.Meets (x : StepResult) (reason : StepError → Prop) (post : Region → Prop) :
    Prop where
  failed : ∀ e, x.outcome = .error e → reason e
  done : ∀ o, x.outcome = .ok o → post x.region

namespace Step

variable {r r' : Region} {reason : StepError → Prop} {post : Region → Prop}

/-! ### Ways to a result -/

theorem meets_fail {e : StepError} (h : reason e) : (fail r e).Meets reason post where
  failed _ he := Except.error.inj he ▸ h
  done _ ho := by cases ho

theorem meets_applied (h : post r') : (applied r').Meets reason post where
  failed _ he := by cases he
  done _ _ := h

theorem meets_require {α : Type} {value : Option α} {e : StepError} {next : α → StepResult}
    (hnone : value = none → reason e) (h : ∀ a, value = some a → (next a).Meets reason post) :
    (require r value e next).Meets reason post := by
  cases value with
  | none => exact meets_fail (hnone rfl)
  | some a => exact h a rfl

theorem meets_attempt {α : Type} {value : Except StepError α} {next : α → StepResult}
    (herror : ∀ e, value = .error e → reason e)
    (h : ∀ a, value = .ok a → (next a).Meets reason post) :
    (attempt r value next).Meets reason post := by
  cases value with
  | error e => exact meets_fail (herror e rfl)
  | ok a => exact h a rfl

theorem meets_demand {condition : Bool} {e : StepError} {next : StepResult}
    (hfalse : condition = false → reason e) (h : condition = true → next.Meets reason post) :
    (demand r condition e next).Meets reason post := by
  cases condition with
  | false => exact meets_fail (hfalse rfl)
  | true => exact h rfl

/-- The log of a result does not matter, nor whether it ends the script. -/
theorem meets_ok (h : post r') (o : Outcome) (log : List LogLine) :
    StepResult.Meets ⟨r', .ok o, log⟩ reason post where
  failed _ he := by cases he
  done _ _ := h

theorem meets_log {x : StepResult} (h : x.Meets reason post) (log : List LogLine) :
    StepResult.Meets { x with log } reason post :=
  ⟨h.failed, h.done⟩

/-! ### Reasons -/

/-- The guids that a command needs to be of a kind, by the error that says that one is not. A guid
that was not resolved, or is of another kind, is none. -/
def needs (d : Payload) (p : Participants) : StepError → List (Option Guid)
  | .notCreature =>
    match d with
    | .despawnSelf _ => [victim? p]
    | _ => [p.sourceCreature?]
  | .notUnit =>
    match d with
    | .attackStart => [p.targetUnit?]
    | .castSpell _ => [p.targetUnit?, p.sourceGameObject?.or p.sourceUnit?]
    | _ => [p.sourceUnit?]
  | .notGameObject =>
    match d with
    | .activateObject => [p.targetGameObject?]
    | _ => [p.sourceGameObject?]
  | .notPlayer => [p.player?]
  | _ => []

/-- Why a command may fail with an error. An error about a kind has two reasons: a guid that the
command needs is none, or it names nothing in the region. -/
def Grounds (ctx : StepContext) (r : Region) (c : Command) (p : Participants) (d : Payload)
    (e : StepError) : Prop :=
  match e with
  | .unsupported _ => ∃ movie, d = .playMovie movie
  | .summonFailed entry =>
    (∃ delay, d = .tempSummonCreature entry delay) ∧
      ctx.catalog.creatureTemplates.get? entry = none
  | .unknownTemplate entry =>
    (d = .morphToEntryOrModel entry ∨ d = .mountToEntryOrModel entry) ∧ entry ≠ 0 ∧
      c.flags.additional = false ∧ ctx.catalog.creatureTemplates.get? entry = none
  | e =>
    needs d p e = [] ∨ none ∈ needs d p e ∨ ∃ g, some g ∈ needs d p e ∧ r.object? g = none

variable {ctx : StepContext} {c : Command} {p : Participants} {d : Payload} {e : StepError}

theorem grounds_none (h : none ∈ needs d p e) : Grounds ctx r c p d e := by
  cases e <;> first | exact .inr (.inl h) | exact absurd h List.not_mem_nil

theorem grounds_gone {g : Guid} (h : some g ∈ needs d p e) (hgone : r.object? g = none) :
    Grounds ctx r c p d e := by
  cases e <;> first | exact .inr (.inr ⟨g, h, hgone⟩) | exact absurd h List.not_mem_nil

/-! ### Records -/

/-- Which command records an event, and with which data; what is summoned stands in the region
after the step. -/
def Records (ctx : StepContext) (c : Command) (d : Payload) (after : Region) : WorldEvent → Prop
  | .text _ _ text =>
    d = .talk ∧ text = (ctx.pick c.populatedTexts).getD c.firstText ∧
      ctx.catalog.texts.contains text = true
  | .emote _ emote =>
    ∃ first, d = .emote first ∧
      emote = (ctx.pick (first :: c.emoteAlternatives)).getD first
  | .facingSet .. | .movedTo .. | .nearTeleport .. => ∃ speed, d = .moveTo speed
  | .teleported _ map destination => d = .teleportTo map ∧ destination = c.position
  | .questExplored _ quest => ∃ distance, d = .questExplored quest distance
  | .questFailed _ quest =>
    (∃ distance, d = .questExplored quest distance) ∨
      ∃ condition, d = .terminateCondition condition quest ∧ quest ≠ 0
  | .killCredit .. => ∃ entry group, d = .killCredit entry group
  | .respawned .. => ∃ spawn delay, d = .respawnGameObject spawn delay
  | .despawned _ => ∃ delay, d = .despawnSelf delay
  | .summoned g _ _ =>
    (∃ entry delay, d = .tempSummonCreature entry delay) ∧
      ∃ x, after.creature? g = some x ∧ x.unit.position = c.position
  | .doorOrButtonUsed .. =>
    (∃ spawn delay, d = .openDoor spawn delay ∨ d = .closeDoor spawn delay) ∨ d = .activateObject
  | .gameObjectUsed .. => d = .activateObject
  | .auraRemoved _ spell => d = .removeAura spell
  | .spellCast _ _ spell _ _ => d = .castSpell spell
  | .sound _ sound _ => ∃ flags, d = .playSound sound flags
  | .itemCreated _ item amount => d = .createItem item amount
  | .attackStarted .. => d = .attackStart
  | .taxiStarted _ path => d = .sendTaxiPath path

/-- A result that fails on the grounds of its command, or else records what its command records. -/
def Conforms (ctx : StepContext) (r : Region) (c : Command) (p : Participants) (d : Payload)
    (x : StepResult) : Prop :=
  x.Meets (Grounds ctx r c p d) fun r' => r.Logs (Records ctx c d r') r'

open Region (Logs)

/-- A step that records nothing. -/
theorem conforms_quiet (h : r'.events = r.events) : Conforms ctx r c p d (applied r') :=
  meets_applied (.quiet h)

/-- Going on with a guid that the command needs. -/
theorem conforms_need {holder : Option Guid} {next : Guid → StepResult}
    (hneed : holder ∈ needs d p e)
    (h : ∀ g, holder = some g → Conforms ctx r c p d (next g)) :
    Conforms ctx r c p d (require r holder e next) :=
  meets_require (fun hnone => grounds_none (hnone ▸ hneed)) h

/-- Going on with what a guid that the command needs is found to name. -/
theorem conforms_lookup {α : Type} {value : Option α} {g : Guid} {next : α → StepResult}
    (hneed : some g ∈ needs d p e) (hgone : value = none → r.object? g = none)
    (h : ∀ a, value = some a → Conforms ctx r c p d (next a)) :
    Conforms ctx r c p d (require r value e next) :=
  meets_require (fun hnone => grounds_gone hneed (hgone hnone)) h

/-! ### Changing one object -/

/-- Many commands only change the creature that they need. -/
theorem modifyCreature_conforms {holder : Option Guid} {f : Guid → Creature → Creature}
    (hneed : holder ∈ needs d p e) :
    Conforms ctx r c p d (require r holder e fun g => applied (r.modifyCreature g (f g))) :=
  conforms_need hneed fun _ _ => conforms_quiet rfl

/-- Others write the fields of the object that they need. -/
theorem modifyFields_conforms {holder : Option Guid} {f : Guid → Fields → Fields}
    (hneed : holder ∈ needs d p e) :
    Conforms ctx r c p d (require r holder e fun g =>
      require r (r.fields? g) e fun _ => applied (r.modifyFields g (f g))) := by
  refine conforms_need hneed fun g hg => ?_
  refine conforms_lookup (hg ▸ hneed) Region.object?_eq_none_of_fields? fun _ _ => ?_
  exact conforms_quiet (Region.events_modifyFields r g (f g))

/-- Three change a field of whatever started the script, and blame no kind. -/
theorem writeField_conforms (hneed : needs d p .noSource = [])
    (hfield : ∀ field count g, needs d p (.invalidField field count g) = []) (field : UInt32)
    (change : Fields → Fields) : Conforms ctx r c p d (writeField r p field change) := by
  refine meets_require (fun _ => .inl hneed) fun holder _ => ?_
  refine meets_require (fun _ => .inl hneed) fun fields _ => ?_
  refine meets_demand (fun _ => .inl (hfield ..)) fun _ => ?_
  exact conforms_quiet (Region.events_modifyFields r holder change)

/-- Only a creature entry without a template gives no display. -/
theorem displayFor_error {value : UInt32} (h : displayFor ctx.catalog c value = .error e) :
    e = .unknownTemplate value ∧ value ≠ 0 ∧ c.flags.additional = false ∧
      ctx.catalog.creatureTemplates.get? value = none := by
  unfold displayFor at h
  split at h
  · cases h
  · next hvalue =>
    split at h
    · cases h
    · next hflag =>
      split at h
      · cases h
      · next hnone => exact ⟨(Except.error.inj h).symm, hvalue, Bool.eq_false_iff.mpr hflag, hnone⟩

/-- Two give a creature a display that has to be found first. -/
theorem display_conforms {value : UInt32} {f : Option UInt32 → Creature → Creature}
    (hneed : p.sourceCreature? ∈ needs d p .notCreature)
    (hd : d = .morphToEntryOrModel value ∨ d = .mountToEntryOrModel value) :
    Conforms ctx r c p d (require r p.sourceCreature? .notCreature fun g =>
      attempt r (displayFor ctx.catalog c value) fun display =>
        applied (r.modifyCreature g (f display))) := by
  refine conforms_need hneed fun g _ => meets_attempt (fun e he => ?_) fun display _ => ?_
  · obtain ⟨rfl, hunknown⟩ := displayFor_error he
    exact ⟨hd, hunknown⟩
  · exact conforms_quiet rfl

/-! ### Texts, emotes and sounds -/

theorem talk_conforms : Conforms ctx r c p .talk (talk ctx r c p) := by
  refine meets_require (fun _ => .inl rfl) fun speaker _ => ?_
  refine meets_require (fun _ => .inl rfl) fun text htext => ?_
  refine meets_demand (fun _ => .inl rfl) fun _ => ?_
  refine meets_applied ((Logs.refl _ r).record ⟨rfl, rfl, ?_⟩)
  exact (OrderedMap.contains_iff ..).mpr ⟨text, htext⟩

theorem emote_conforms (first : UInt32) :
    Conforms ctx r c p (.emote first) (emote ctx r c p first) := by
  refine conforms_need (List.mem_singleton.mpr rfl) fun actor _ => ?_
  exact meets_applied ((Logs.refl _ r).record ⟨first, rfl, rfl⟩)

theorem playSound_conforms (sound flags : UInt32) :
    Conforms ctx r c p (.playSound sound flags) (playSound r p sound flags) := by
  refine meets_require (fun _ => .inl rfl) fun emitter _ => ?_
  refine meets_demand (fun hfalse => grounds_none ?_) fun _ => ?_
  · have hplayer : p.player? = none := by simp_all
    exact List.mem_singleton.mpr hplayer.symm
  · exact meets_applied ((Logs.refl _ r).record ⟨flags, rfl⟩)

/-! ### Movement -/

theorem moveTo_conforms (speed : UInt32) :
    Conforms ctx r c p (.moveTo speed) (moveTo r c p speed) := by
  refine conforms_need (List.mem_singleton.mpr rfl) fun actor hactor => ?_
  have hunit := (Option.filter_eq_some_iff.mp hactor).2
  refine conforms_lookup (List.mem_singleton.mpr hactor.symm)
    (Region.object?_eq_none_of_unit? hunit) fun unit _ => ?_
  dsimp only
  split
  · exact meets_applied ((Logs.quiet (Region.events_modifyUnit r actor _)).record ⟨speed, rfl⟩)
  · split
    · exact meets_applied ((Logs.quiet (Region.events_modifyUnit r actor _)).record ⟨speed, rfl⟩)
    · exact meets_applied ((Logs.quiet (Region.events_modifyUnit r actor _)).record ⟨speed, rfl⟩)

theorem teleportTo_conforms (map : UInt32) :
    Conforms ctx r c p (.teleportTo map) (teleportTo r c p map) := by
  refine conforms_need (List.mem_singleton.mpr rfl) fun player _ => ?_
  exact meets_applied (.getD fun r' h => .teleport? ⟨rfl, rfl⟩ h)

theorem movement_conforms (change : MotionChange) (distance : UInt32) :
    Conforms ctx r c p (.movement change distance) (movement r c p change distance) := by
  refine conforms_need (List.mem_singleton.mpr rfl) fun g hg => ?_
  have hcreature := (Option.filter_eq_some_iff.mp hg).2
  refine conforms_lookup (List.mem_singleton.mpr hg.symm)
    (Region.object?_eq_none_of_creature? hcreature) fun creature _ => ?_
  exact conforms_quiet rfl

theorem sendTaxiPath_conforms (path : UInt32) :
    Conforms ctx r c p (.sendTaxiPath path) (sendTaxiPath r p path) := by
  refine conforms_need (List.mem_singleton.mpr rfl) fun player _ => ?_
  split
  · exact meets_applied (Logs.record (Logs.quiet rfl) rfl)
  · exact conforms_quiet rfl

/-! ### Quests and items -/

/-- The player of a step is one. -/
theorem isPlayer_of_player? {g : Guid} (h : p.player? = some g) : g.isPlayer = true := by
  rcases Option.or_eq_some_iff.mp h with htarget | ⟨-, hsource⟩
  · exact (Option.filter_eq_some_iff.mp htarget).2
  · exact (Option.filter_eq_some_iff.mp hsource).2

theorem questExplored_conforms (quest distance : UInt32) :
    Conforms ctx r c p (.questExplored quest distance) (questExplored r p quest distance) := by
  refine conforms_need (List.mem_singleton.mpr rfl) fun player hplayer => ?_
  refine meets_demand (fun _ => .inl rfl) fun _ => meets_demand (fun hgone => ?_) fun _ => ?_
  · have hkind := isPlayer_of_player? hplayer
    exact grounds_gone (List.mem_singleton.mpr hplayer.symm)
      (Region.object?_eq_none_of_contains hkind hgone)
  · split
    · exact meets_applied (.getD fun r' h => .failQuest? (.inl ⟨distance, rfl⟩) h)
    · exact meets_applied (.getD fun r' h => .exploreQuest? ⟨distance, rfl⟩ h)

theorem killCredit_conforms (entry : UInt32) (group : Bool) :
    Conforms ctx r c p (.killCredit entry group) (killCredit r p entry group) := by
  refine conforms_need (List.mem_singleton.mpr rfl) fun player _ => ?_
  refine meets_require (fun _ => .inl rfl) fun credited _ => ?_
  exact meets_applied (.creditKill fun g => ⟨entry, group, rfl⟩)

theorem createItem_conforms (item amount : UInt32) :
    Conforms ctx r c p (.createItem item amount) (createItem r p item amount) := by
  refine conforms_need (List.mem_singleton.mpr rfl) fun player _ => ?_
  split
  · exact meets_applied (Logs.record (Logs.quiet rfl) rfl)
  · exact conforms_quiet rfl

/-! ### Game objects -/

/-- A game object that a command is about is missing, or the source is none. -/
theorem commandObject_error {spawn : UInt32} (h : commandObject ctx r c p spawn = .error e) :
    e = .gameObjectMissing spawn c.buddyEntry ∨
      e = .notGameObject ∧ p.sourceGameObject? = none := by
  unfold commandObject at h
  dsimp only at h
  split at h
  · cases hsource : p.sourceGameObject? with
    | none =>
      rw [hsource] at h
      exact .inr ⟨(Except.error.inj h).symm, rfl⟩
    | some g =>
      rw [hsource] at h
      cases h
  · split at h
    · exact .inl (Except.error.inj h).symm
    · next s _ =>
      cases ho : r.gameObject? (.gameObject s.entry spawn) with
      | none =>
        rw [ho] at h
        exact .inl (Except.error.inj h).symm
      | some o =>
        rw [ho] at h
        cases h

/-- Going on with the game object that a command is about. -/
theorem conforms_commandObject {spawn : UInt32} {next : Guid → GameObject → StepResult}
    (hneed : p.sourceGameObject? ∈ needs d p .notGameObject)
    (hmissing : needs d p (.gameObjectMissing spawn c.buddyEntry) = [])
    (h : ∀ g o, Conforms ctx r c p d (next g o)) :
    Conforms ctx r c p d (attempt r (commandObject ctx r c p spawn) fun g =>
      require r (r.gameObject? g) (.gameObjectMissing spawn c.buddyEntry) (next g)) := by
  refine meets_attempt (fun e he => ?_) fun g _ => meets_require (fun _ => .inl hmissing) ?_
  · rcases commandObject_error he with rfl | ⟨rfl, hnone⟩
    · exact .inl hmissing
    · exact grounds_none (hnone ▸ hneed)
  · exact fun o _ => h g o

theorem respawnGameObject_conforms (spawn delay : UInt32) :
    Conforms ctx r c p (.respawnGameObject spawn delay)
      (respawnGameObject ctx r c p spawn delay) := by
  refine conforms_commandObject (List.mem_singleton.mpr rfl) rfl fun g o => ?_
  refine meets_demand (fun _ => .inl rfl) fun _ => ?_
  split
  · exact conforms_quiet rfl
  · exact meets_applied (.getD fun r' h => .respawn? (fun _ => ⟨spawn, delay, rfl⟩) h)

/-- Opening and closing differ in the state that the door is brought to. -/
theorem useDoor_conforms {spawn delay : UInt32} (state : UseState)
    (hd : d = .openDoor spawn delay ∨ d = .closeDoor spawn delay) :
    Conforms ctx r c p d (useDoor ctx r c p state spawn delay) := by
  have hneed : p.sourceGameObject? ∈ needs d p .notGameObject := by
    rcases hd with rfl | rfl <;> exact List.mem_singleton.mpr rfl
  have hquiet : needs d p (.gameObjectMissing spawn c.buddyEntry) = [] := rfl
  refine conforms_commandObject hneed hquiet fun g door => ?_
  refine meets_demand (fun _ => .inl rfl) fun _ => ?_
  split
  · exact conforms_quiet rfl
  · refine meets_applied ?_
    cases button? r p with
    | none => exact Logs.useDoor fun _ => .inl ⟨spawn, delay, hd⟩
    | some b =>
      exact (Logs.useDoor fun _ => .inl ⟨spawn, delay, hd⟩).trans
        (Logs.useDoor fun _ => .inl ⟨spawn, delay, hd⟩)

theorem activateObject_conforms : Conforms ctx r c p .activateObject (activateObject r p) := by
  refine conforms_need (List.mem_singleton.mpr rfl) fun user _ => ?_
  refine conforms_need (List.mem_singleton.mpr rfl) fun o _ => ?_
  exact meets_applied (.getD fun r' h => .useGameObject? (fun _ => .inr rfl) rfl h)

/-! ### Creatures and fights -/

theorem tempSummonCreature_conforms (entry delay : UInt32) :
    Conforms ctx r c p (.tempSummonCreature entry delay)
      (tempSummonCreature ctx r c p entry delay) := by
  refine meets_require (fun _ => .inl rfl) fun summoner _ => ?_
  refine meets_require (fun hnone => ⟨⟨delay, rfl⟩, hnone⟩) fun t _ => ?_
  refine meets_applied (Logs.record (Logs.quiet rfl) ⟨⟨entry, delay, rfl⟩, ?_⟩)
  exact Region.creature?_summon r t c.position _ _ summoner

theorem despawnSelf_conforms (delay : UInt32) :
    Conforms ctx r c p (.despawnSelf delay) (despawnSelf ctx r c p delay) := by
  have hneed : victim? p ∈ needs (.despawnSelf delay) p .notCreature := List.mem_singleton.mpr rfl
  refine meets_log (conforms_need hneed fun g _ => ?_) _
  exact meets_applied (.getD fun r' h => .despawn? ⟨delay, rfl⟩ h)

/-- A unit that is here shows a faction. -/
theorem object?_eq_none_of_factionOf? {g : Guid} (h : g.isUnit = true)
    (hnone : factionOf? r g = none) : r.object? g = none := by
  cases ho : r.object? g with
  | none => rfl
  | some o =>
    simp only [factionOf?, ho] at hnone
    unfold Region.object? at ho
    cases hkind : g.kind <;> rw [hkind] at ho <;>
      obtain ⟨x, -, rfl⟩ := Option.map_eq_some_iff.mp ho <;>
      simp_all [Guid.isUnit, ObjectKind.isUnit]

theorem attackStart_conforms : Conforms ctx r c p .attackStart (attackStart ctx r p) := by
  refine conforms_need (List.mem_singleton.mpr rfl) fun attacker hattacker => ?_
  refine conforms_need (List.mem_singleton.mpr rfl) fun victim hvictim => ?_
  have hcreature := (Option.filter_eq_some_iff.mp hattacker).2
  have hunit := (Option.filter_eq_some_iff.mp hvictim).2
  refine conforms_lookup (List.mem_singleton.mpr hattacker.symm)
    (Region.object?_eq_none_of_creature? hcreature) fun a _ => ?_
  refine conforms_lookup (List.mem_singleton.mpr hvictim.symm)
    (object?_eq_none_of_factionOf? hunit) fun faction _ => ?_
  refine meets_demand (fun _ => .inl rfl) fun _ => ?_
  exact meets_applied (Logs.record (Logs.quiet rfl) rfl)

theorem removeAura_conforms (spell : UInt32) :
    Conforms ctx r c p (.removeAura spell) (removeAura r p spell) := by
  refine conforms_need (List.mem_singleton.mpr rfl) fun actor _ => ?_
  split
  · split
    · exact meets_applied ((Logs.quiet (Region.events_modifyUnit r actor _)).record rfl)
    · exact conforms_quiet rfl
  · exact conforms_quiet rfl

theorem castSpell_conforms (spell : UInt32) :
    Conforms ctx r c p (.castSpell spell) (castSpell r c p spell) := by
  refine conforms_need (List.mem_cons_self ..) fun victim _ => ?_
  split
  · exact meets_applied (.castSpell rfl)
  · next hobject =>
    refine meets_require (fun hnone => grounds_none ?_) fun caster _ => ?_
    · have hsource : p.sourceGameObject?.or p.sourceUnit? = none := by rw [hobject, hnone]; rfl
      exact List.mem_cons_of_mem _ (List.mem_singleton.mpr hsource.symm)
    · exact meets_applied (.castSpell rfl)

/-! ### Endings -/

theorem terminateScript_conforms (entry distance : UInt32) :
    Conforms ctx r c p (.terminateScript entry distance)
      (terminateScript ctx r c p entry distance) := by
  unfold terminateScript
  split
  · split
    · exact meets_ok (.refl _ r) _ _
    · split
      · exact meets_ok (.quiet rfl) _ _
      · exact meets_ok (.refl _ r) _ _
  · exact conforms_quiet rfl

theorem terminateCondition_conforms (condition quest : UInt32) :
    Conforms ctx r c p (.terminateCondition condition quest)
      (terminateCondition ctx r c p condition quest) := by
  unfold terminateCondition
  dsimp only
  split
  · refine meets_ok ?_ _ _
    unfold failGroupQuest
    split
    · exact .refl _ r
    · split
      · exact .refl _ r
      · next hquest =>
        refine Logs.foldl (fun r g => ?_) _ r
        split
        · exact .getD fun r' h => .failQuest? (.inr ⟨condition, rfl, hquest⟩) h
        · exact .refl _ r
  · exact meets_ok (.refl _ r) _ _

/-! ### Any step -/

/-- Every command conforms, on whatever participants. -/
theorem apply_conforms (ctx : StepContext) (r : Region) (c : Command) (p : Participants) :
    Conforms ctx r c p c.payload (apply ctx r c p) := by
  unfold apply
  cases c.payload with
  | talk => exact talk_conforms
  | emote first => exact emote_conforms first
  | fieldSet field value => exact writeField_conforms rfl (fun _ _ _ => rfl) field _
  | moveTo speed => exact moveTo_conforms speed
  | flagSet field flag => exact writeField_conforms rfl (fun _ _ _ => rfl) field _
  | flagRemove field flag => exact writeField_conforms rfl (fun _ _ _ => rfl) field _
  | teleportTo map => exact teleportTo_conforms map
  | questExplored quest distance => exact questExplored_conforms quest distance
  | killCredit entry group => exact killCredit_conforms entry group
  | respawnGameObject spawn delay => exact respawnGameObject_conforms spawn delay
  | tempSummonCreature entry delay => exact tempSummonCreature_conforms entry delay
  | openDoor spawn delay => exact useDoor_conforms .active (.inl rfl)
  | closeDoor spawn delay => exact useDoor_conforms .ready (.inr rfl)
  | activateObject => exact activateObject_conforms
  | removeAura spell => exact removeAura_conforms spell
  | castSpell spell => exact castSpell_conforms spell
  | playSound sound flags => exact playSound_conforms sound flags
  | createItem item amount => exact createItem_conforms item amount
  | despawnSelf delay => exact despawnSelf_conforms delay
  | playMovie movie => exact meets_fail ⟨movie, rfl⟩
  | movement change distance => exact movement_conforms change distance
  | setActiveObject active => exact modifyCreature_conforms (List.mem_singleton.mpr rfl)
  | setFaction faction flags => exact modifyCreature_conforms (List.mem_singleton.mpr rfl)
  | morphToEntryOrModel value => exact display_conforms (List.mem_singleton.mpr rfl) (.inl rfl)
  | mountToEntryOrModel value => exact display_conforms (List.mem_singleton.mpr rfl) (.inr rfl)
  | setRun run => exact modifyCreature_conforms (List.mem_singleton.mpr rfl)
  | attackStart => exact attackStart_conforms
  | goLockState state => exact modifyFields_conforms (List.mem_singleton.mpr rfl)
  | standState state => exact modifyCreature_conforms (List.mem_singleton.mpr rfl)
  | modifyNpcFlags flags change => exact modifyFields_conforms (List.mem_singleton.mpr rfl)
  | sendTaxiPath path => exact sendTaxiPath_conforms path
  | terminateScript entry distance => exact terminateScript_conforms entry distance
  | pauseWaypoints pause => exact modifyCreature_conforms (List.mem_singleton.mpr rfl)
  | xpUser disable => exact modifyFields_conforms (List.mem_singleton.mpr rfl)
  | terminateCondition condition quest => exact terminateCondition_conforms condition quest

/-- What holds of the region before a step, and of whatever its command makes of it on its
participants, holds of the region after. -/
theorem region_of_apply {ctx : StepContext} {r : Region} {c : Command}
    {source target : Option Guid} {post : Region → Prop} (hr : post r)
    (h : ∀ p, c.participants r source target = .ok p →
      (apply ctx r c p).Meets (fun _ => True) post) :
    post (run ctx r c source target).region := by
  have hmeets : (run ctx r c source target).Meets (fun _ => True) post :=
    meets_log (meets_attempt (fun _ _ => trivial) h) _
  cases houtcome : (run ctx r c source target).outcome with
  | ok o => exact hmeets.done o houtcome
  | error e =>
    rw [(run_within ctx r c source target).failed e houtcome]
    exact hr

/-- A step fails because its participants were not found, or on the grounds of its command; and it
records what its command records. -/
theorem run_meets (ctx : StepContext) (r : Region) (c : Command) (source target : Option Guid) :
    (run ctx r c source target).Meets
      (fun e => c.participants r source target = .error e ∨
        ∃ p, c.participants r source target = .ok p ∧ Grounds ctx r c p c.payload e)
      fun r' => r.Logs (Records ctx c c.payload r') r' := by
  refine meets_log (meets_attempt (fun e he => .inl he) fun p hp => ?_) _
  have h := apply_conforms ctx r c p
  exact ⟨fun e he => .inr ⟨p, hp, h.failed e he⟩, h.done⟩

/-- What a step records, whether it fails or not. -/
theorem run_logs (ctx : StepContext) (r : Region) (c : Command) (source target : Option Guid) :
    r.Logs (Records ctx c c.payload (run ctx r c source target).region)
      (run ctx r c source target).region := by
  cases houtcome : (run ctx r c source target).outcome with
  | ok o => exact (run_meets ctx r c source target).done o houtcome
  | error e => exact .quiet (congrArg Region.events ((run_within ..).failed e houtcome))

end Step

end RegionScript
