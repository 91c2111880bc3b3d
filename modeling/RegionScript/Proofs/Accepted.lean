import Mathlib.Data.List.TakeWhile
import RegionScript.Load.Check
import RegionScript.Proofs.Participants

/-!
Rows that a loader accepts are safe to run.

A row is checked against the catalog once, and run many times against the same catalog. What it
names was looked up in the check: so a step of it neither lacks a template nor is of a kind that is
not supported, and all that it records is about game data that exists.
-/

namespace RegionScript

/-- The choice is among the alternatives, if there are any. -/
theorem StepContext.pick_getD_mem (ctx : StepContext) {α : Type} {choices : List α}
    (h : choices ≠ []) (default : α) : (ctx.pick choices).getD default ∈ choices := by
  have hlt : ctx.draw % choices.length < choices.length :=
    Nat.mod_lt _ (List.length_pos_iff.mpr h)
  unfold pick
  rw [List.getElem?_eq_getElem hlt]
  exact List.getElem_mem hlt

namespace Loader

/-- What an event refers to is in the game data of a loader, and what was summoned stands on the
map. -/
def Backs (l : Loader) (after : Region) : WorldEvent → Prop
  | .text _ _ text =>
    text ≠ 0 ∧ l.options.admits text = true ∧ l.catalog.texts.contains text = true
  | .emote _ emote => l.catalog.emotes.contains emote = true
  | .sound _ sound _ => l.catalog.sounds.contains sound = true
  | .spellCast _ _ spell _ _ | .auraRemoved _ spell => l.catalog.spells.contains spell = true
  | .itemCreated _ item amount => l.catalog.itemTemplates.contains item = true ∧ 0 < amount
  | .taxiStarted _ path => l.catalog.taxiPaths.contains path = true
  | .teleported _ map destination =>
    l.catalog.maps.contains map = true ∧ destination.isOnMap = true
  | .questExplored _ quest | .questFailed _ quest => l.catalog.quests.contains quest = true
  | .summoned g _ _ => ∃ x, after.creature? g = some x ∧ x.unit.position.isOnMap = true
  | _ => True

variable {l : Loader} {row : Row} {c : Command}

/-! ### What is checked -/

/-- Nothing is at fault with the data of an accepted row. -/
theorem payloadFault_of_check (h : l.check row = .ok c) : l.payloadFault c = none := by
  have hfault := (check_eq_ok_iff.mp h).2
  unfold fault at hfault
  exact (Option.or_eq_none_iff.mp (Option.or_eq_none_iff.mp hfault).2).2

/-- Where no text is at fault, there is a first one, and all that are set are in range. -/
theorem texts_admitted (h : l.textFault c = none) :
    c.firstText ≠ 0 ∧ ∀ text ∈ c.populatedTexts, text ≠ 0 ∧ l.options.admits text = true := by
  obtain ⟨hfirst, hrange⟩ := Option.or_eq_none_iff.mp h
  refine ⟨by simpa using hfirst, fun text htext => ?_⟩
  obtain ⟨hmem, hset⟩ := List.mem_filter.mp htext
  have hne : text ≠ 0 := by simpa using hset
  obtain ⟨slot, hslot⟩ := List.mem_iff_getElem?.mp hmem
  have hslot' : (text, slot) ∈ c.texts.toList.zipIdx := List.mk_mem_zipIdx_iff_getElem?.mpr hslot
  have hadmits := List.findSome?_eq_none_iff.mp hrange _ hslot'
  exact ⟨hne, by simpa [hne] using hadmits⟩

/-- Where no emote is at fault, the emote and all its alternatives are known. -/
theorem emotes_known {first : UInt32} (h : l.emoteFault c first = none) :
    ∀ emote ∈ first :: c.emoteAlternatives, l.catalog.emotes.contains emote = true := by
  obtain ⟨hfirst, hslots⟩ := Option.or_eq_none_iff.mp h
  intro emote hemote
  rcases List.mem_cons.mp hemote with rfl | hemote
  · simpa using hfirst
  · obtain ⟨slot, hslot, rfl⟩ := List.mem_map.mp hemote
    have hset : slot ∈ c.populatedTexts := by
      refine List.mem_filter.mpr ⟨List.takeWhile_subset _ hslot, ?_⟩
      simpa using List.mem_takeWhile_imp hslot
    have hknown := List.findSome?_eq_none_iff.mp hslots _ hset
    simp_all [knowsEmote]

/-- The first text is one of those that are set. -/
theorem firstText_mem (h : c.firstText ≠ 0) : c.firstText ∈ c.populatedTexts := by
  refine List.mem_filter.mpr ⟨?_, by simpa using h⟩
  exact Vector.mem_toList_iff.mpr (Vector.getElem_mem _)

/-- Where a display is not at fault, a creature entry has its template. -/
theorem display_known {value : UInt32} (h : l.displayFault c value = none)
    (hflag : c.flags.additional = false) (hvalue : value ≠ 0) :
    l.catalog.creatureTemplates.contains value = true := by
  simp_all [displayFault, creatureFault]

/-! ### What a step does -/

/-- Whatever a command records that is not at fault is about existing data. -/
theorem backs_of_records (h : l.payloadFault c = none) {ctx : StepContext}
    (hcatalog : ctx.catalog = l.catalog) {after : Region} {e : WorldEvent}
    (he : Step.Records ctx c c.payload after e) : l.Backs after e := by
  unfold payloadFault at h
  cases e with
  | text speaker target text =>
    obtain ⟨hd, rfl, hin⟩ := he
    rw [hd] at h
    obtain ⟨hfirst, hall⟩ := texts_admitted h
    have hne : c.populatedTexts ≠ [] := List.ne_nil_of_mem (firstText_mem hfirst)
    obtain ⟨hset, hadmits⟩ := hall _ (ctx.pick_getD_mem hne c.firstText)
    exact ⟨hset, hadmits, hcatalog ▸ hin⟩
  | emote actor emote =>
    obtain ⟨first, hd, rfl⟩ := he
    rw [hd] at h
    exact emotes_known h _ (ctx.pick_getD_mem (List.cons_ne_nil _ _) first)
  | sound emitter sound scope =>
    obtain ⟨flags, hd⟩ := he
    simpa [hd, Backs] using h
  | spellCast caster target spell triggered first =>
    simpa [show c.payload = .castSpell spell from he, Backs] using h
  | auraRemoved g spell =>
    simpa [show c.payload = .removeAura spell from he, Backs] using h
  | itemCreated player item amount =>
    simpa [show c.payload = .createItem item amount from he, Backs, UInt32.pos_iff_ne_zero] using h
  | taxiStarted player path =>
    have hd : c.payload = .sendTaxiPath path := he
    simp_all [Backs]
  | teleported player map destination =>
    obtain ⟨hd, rfl⟩ := he
    simpa [hd, Backs, positionFault] using h
  | questExplored player quest =>
    obtain ⟨distance, hd⟩ := he
    simp_all [Backs]
  | questFailed player quest =>
    rcases he with ⟨distance, hd⟩ | ⟨condition, hd, hquest⟩
    · simp_all [Backs]
    · simp_all [Backs]
  | summoned g entry summoner =>
    obtain ⟨⟨entry, delay, hd⟩, x, hx, hposition⟩ := he
    refine ⟨x, hx, ?_⟩
    simp_all [positionFault]
  | _ => trivial

/-- A step of a command that is not at fault lacks no template, and is supported. -/
theorem run_ne_error (h : l.payloadFault c = none) {ctx : StepContext}
    (hcatalog : ctx.catalog = l.catalog) (r : Region) (source target : Option Guid) (n : UInt32) :
    (Step.run ctx r c source target).outcome ≠ .error (.unsupported n) ∧
      (Step.run ctx r c source target).outcome ≠ .error (.summonFailed n) ∧
      (Step.run ctx r c source target).outcome ≠ .error (.unknownTemplate n) := by
  -- errors that are not about finding anybody come from the command by itself
  have hgrounds : ∀ e : StepError, e.isAboutFinding = false →
      (Step.run ctx r c source target).outcome = .error e →
      ∃ p, Step.Grounds ctx r c p c.payload e := by
    intro e he hrun
    rcases (Step.run_meets ctx r c source target).failed e hrun with hfind | ⟨p, -, hp⟩
    · rw [Command.participants_error hfind] at he
      cases he
    · exact ⟨p, hp⟩
  unfold payloadFault at h
  refine ⟨fun hrun => ?unsupported, fun hrun => ?summon, fun hrun => ?template⟩
  case unsupported =>
    obtain ⟨p, movie, hd⟩ := hgrounds _ rfl hrun
    simp [hd] at h
  case summon =>
    obtain ⟨p, ⟨delay, hd⟩, hmissing⟩ := hgrounds _ rfl hrun
    simp_all [OrderedMap.contains]
  case template =>
    obtain ⟨p, hd, hn, hflag, hmissing⟩ := hgrounds _ rfl hrun
    have hdisplay : l.displayFault c n = none := by
      rcases hd with hd | hd <;> simpa [hd] using h
    have hknown := display_known hdisplay hflag hn
    simp_all [OrderedMap.contains]

/-- A stand state that is not at fault is a number below nine, which a byte can hold. -/
theorem standState_of_payloadFault (h : l.payloadFault c = none) {state : UInt32}
    (hd : c.payload = .standState state) :
    state < standStateCount ∧ state.toUInt8.toUInt32 = state := by
  have hlt : state < standStateCount := by simpa [payloadFault, hd] using h
  have hbyte : state.toNat < 9 := UInt32.lt_iff_toNat_lt.mp hlt
  refine ⟨hlt, UInt32.toNat_inj.mp ?_⟩
  rw [UInt8.toNat_toUInt32, UInt32.toNat_toUInt8]
  omega

/-- What a stand state command writes. -/
theorem run_standState {ctx : StepContext} {r : Region} {source target : Option Guid}
    {state : UInt32} (hd : c.payload = .standState state) {p : Participants}
    (hp : c.participants r source target = .ok p) {g : Guid} (hg : p.sourceCreature? = some g)
    {before : Creature} (hbefore : r.creature? g = some before) :
    (Step.run ctx r c source target).region.creature? g =
      some { before with unit := { before.unit with standState := state.toUInt8 } } := by
  have hrun : (Step.run ctx r c source target).region = r.modifyCreature g fun x =>
      { x with unit := { x.unit with standState := state.toUInt8 } } := by
    simp [Step.run, Step.attempt, hp, Step.apply, hd, Step.standState, Step.require, hg,
      Step.applied]
  rw [hrun]
  have hmodified := OrderedMap.get?_modify r.creatures g g fun x : Creature =>
    { x with unit := { x.unit with standState := state.toUInt8 } }
  rw [if_pos rfl, show r.creatures.get? g = some before from hbefore] at hmodified
  exact hmodified

end Loader

/-- A row that was accepted is safe to run against the catalog that it was checked against, in any
region, for any source and target and whatever is drawn. No step of it fails for want of a template
or because its command is not supported; all that a step records is about existing data; and a stand
state arrives as it was written in the row. -/
theorem accepted_rows_are_safe {l : Loader} {row : Row} {c : Command} (h : l.check row = .ok c)
    (table : String) (draw : Nat) (r : Region) (source target : Option Guid) :
    let x := Step.run { catalog := l.catalog, table, draw } r c source target
    (∀ n, x.outcome ≠ .error (.unsupported n) ∧ x.outcome ≠ .error (.summonFailed n) ∧
      x.outcome ≠ .error (.unknownTemplate n)) ∧
    (∃ new, x.region.events = r.events ++ new ∧ ∀ e ∈ new, l.Backs x.region e) ∧
    ∀ state, c.payload = .standState state → state < standStateCount ∧
      ∀ p g before, c.participants r source target = .ok p → p.sourceCreature? = some g →
        r.creature? g = some before →
        ∃ after, x.region.creature? g = some after ∧ after.unit.standState.toUInt32 = state := by
  intro x
  have hfault := Loader.payloadFault_of_check h
  refine ⟨Loader.run_ne_error hfault rfl r source target, ?events, fun state hd => ?stand⟩
  case events =>
    obtain ⟨new, hnew, hrecords⟩ := Step.run_logs _ r c source target
    exact ⟨new, hnew, fun e he => Loader.backs_of_records hfault rfl (hrecords e he)⟩
  case stand =>
    obtain ⟨hlt, hbyte⟩ := Loader.standState_of_payloadFault hfault hd
    refine ⟨hlt, fun p g before hp hg hbefore => ?_⟩
    exact ⟨_, Loader.run_standState hd hp hg hbefore, hbyte⟩

/-- A guard who has two things to say says the second one, which is a text of the catalog. -/
theorem accepted_rows_are_safe_guard :
    let texts : OrderedMap Int32 ScriptText :=
      .ofList [(2000000001, ⟨2000000001, "Halt!", .say⟩), (2000000002, ⟨2000000002, "Who?", .yell⟩)]
    let l : Loader := { catalog := { texts } }
    let row := (Row.new 1 0 0).withTexts #v[2000000001, 0, 2000000002, 0]
    let c : Command := { Command.plain 1 0 .talk with texts := row.texts }
    let g : Guid := .creature 12 7
    let r := { id := 0 : Region }.addCreature (.spawn g .origin 7 30)
    let x := Step.run { catalog := l.catalog, table := "", draw := 1 } r c (some g) none
    l.check row = .ok c ∧ x.region.events = [.text g none 2000000002] ∧
      l.Backs x.region (.text g none 2000000002) := by
  intro texts l row c g r x
  have hcheck : l.check row = .ok c := by decide +kernel
  have hevents : x.region.events = [.text g none 2000000002] := by decide +kernel
  obtain ⟨-, ⟨new, hnew, hbacks⟩, -⟩ := accepted_rows_are_safe hcheck "" 1 r (some g) none
  have hmem : .text g none 2000000002 ∈ new := by
    have happended : x.region.events = new := hnew
    rw [← happended, hevents]
    exact List.mem_singleton.mpr rfl
  exact ⟨hcheck, hevents, hbacks _ hmem⟩

end RegionScript
