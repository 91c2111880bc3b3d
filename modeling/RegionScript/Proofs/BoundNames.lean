import RegionScript.Proofs.Imports
import RegionScript.Proofs.Routing

/-!
Bindings stand for the names that they were made with.

A build gathers the names of all bindings before it numbers any of them, so that none is unknown. As
names are kept in ascending order, each once, the number of a name finds that name again, and zero
is the number of the empty name and of no other. An area trigger is put to foreign code if and only
if its number is not zero, and so just when it is known and the last row that binds it has a name.
-/

namespace RegionScript

/-! ### Numbers of names -/

namespace ScriptNames

/-- The number of a binding: zero where nothing is bound, or the empty name, and otherwise that of
the name. -/
def StandsFor (n : ScriptNames) (id : UInt32) : Option String → Prop
  | none => id = 0
  | some name => n.name? id = some name ∧ (id = 0 ↔ name = "")

/-- A binding counts for nothing just when its number is zero. -/
theorem StandsFor.eq_zero_iff {n : ScriptNames} {id : UInt32} {bound? : Option String}
    (h : n.StandsFor id bound?) : id = 0 ↔ ¬ ∃ name, bound? = some name ∧ name ≠ "" := by
  cases bound? with
  | none => exact iff_of_true h fun ⟨_, hname, _⟩ => by cases hname
  | some name =>
    refine h.2.trans ⟨?_, fun hnone => ?_⟩
    · rintro rfl ⟨_, hname, hne⟩
      exact hne (Option.some.inj hname).symm
    · by_contra hne
      exact hnone ⟨name, rfl, hne⟩

theorem standsFor_idOf {l : List String} (hfew : (ofList l).size ≤ 2 ^ 32) {bound? : Option String}
    (h : ∀ name, bound? = some name → name ∈ l) :
    (ofList l).StandsFor ((bound?.map (ofList l).idOf).getD 0) bound? := by
  cases bound? with
  | none => rfl
  | some name =>
    have hname : name ∈ (ofList l).names :=
      (mem_names_ofList_iff l name).mpr (List.mem_cons_of_mem _ (h name rfl))
    have hfound := name?_idOf hfew hname
    refine ⟨hfound, fun hzero => ?_, ?_⟩
    · change (ofList l).idOf name = 0 at hzero
      rw [hzero, name?, UInt32.toNat_zero, getElem?_ofList_zero] at hfound
      exact (Option.some.inj hfound).symm
    · rintro rfl
      exact idOf_empty l

end ScriptNames

/-! ### The last binding -/

namespace Loader

/-- The name that the last binding of an id has. -/
def lastName? (bindings : List NamedScript) (id : UInt32) : Option String :=
  (bindings.reverse.find? (·.id = id)).map (·.scriptName)

theorem lookup_map_id (bindings : List NamedScript) (id : UInt32) :
    (bindings.map fun b => (b.id, b.scriptName)).lookup id =
      (bindings.find? (·.id = id)).map (·.scriptName) := by
  induction bindings with
  | nil => rfl
  | cons b rest ih =>
    rw [List.map_cons, List.lookup_cons, List.find?_cons, ih]
    by_cases hid : b.id = id
    · simp [hid]
    · have hne : (id == b.id) = false := beq_eq_false_iff_ne.mpr (Ne.symm hid)
      simp [hid, hne]

theorem get?_boundNames (bindings : List NamedScript) (id : UInt32) :
    (boundNames bindings).get? id = lastName? bindings id := by
  rw [boundNames, OrderedMap.get?_ofList, ← List.map_reverse, lookup_map_id]
  rfl

theorem mem_of_lastName? {bindings : List NamedScript} {id : UInt32} {name : String}
    (h : lastName? bindings id = some name) : name ∈ bindings.map (·.scriptName) := by
  obtain ⟨b, hb, rfl⟩ := Option.map_eq_some_iff.mp h
  exact List.mem_map.mpr ⟨b, List.mem_reverse.mp (List.mem_of_find?_eq_some hb), rfl⟩

/-- The name that a known area trigger is bound to. -/
def triggerName? (catalog : Catalog) (bindings : List NamedScript) (trigger : UInt32) :
    Option String :=
  if catalog.areaTriggers.contains trigger then lastName? bindings trigger else none

end Loader

/-! ### Asking foreign code -/

variable {σ : Type}

namespace Hooks

/-- Somebody is there to be asked: a host that hears of the call, or a module that declares the
hook. -/
def Hear (h : Hooks σ) (call : HookCall) : Prop :=
  (h.host.isSome = true ∧ call.forHost?.isSome = true) ∨ (h.moduleFor? call.hook).isSome = true

/-- What is noted of the host, if there is one that hears of the call. -/
def hostNoted (h : Hooks σ) (call : HookCall) (taken : Bool) : Record :=
  match h.host, call.forHost? with
  | some _, some told => [(.host told, taken)]
  | _, _ => []

theorem askHost_noting (h : Hooks σ) (call : HookCall) (w : World σ) :
    h.noting.askHost call (w.withRecord []) = ((h.askHost call w).1,
      (h.askHost call w).2.withRecord (h.hostNoted call (h.askHost call w).1)) := by
  unfold askHost hostNoted noting
  cases h.host with
  | none => rfl
  | some host => cases call.forHost? <;> rfl

theorem hostNoted_ne_nil_iff {h : Hooks σ} {call : HookCall} {taken : Bool} :
    h.hostNoted call taken ≠ [] ↔ h.host.isSome = true ∧ call.forHost?.isSome = true := by
  unfold hostNoted
  cases h.host <;> cases call.forHost? <;> simp

theorem noted_ne_nil_iff {h : Hooks σ} {call : HookCall} {taken : Bool} :
    h.noted call taken ≠ [] ↔ (h.moduleFor? call.hook).isSome = true := by
  unfold noted
  split <;> simp_all

/-- Only a host that hears of a call takes it. -/
theorem isSome_of_askHost {h : Hooks σ} {call : HookCall} {w : World σ}
    (htaken : (h.askHost call w).1 = true) :
    h.host.isSome = true ∧ call.forHost?.isSome = true := by
  unfold askHost at htaken
  split at htaken
  · next hhost htold => rw [hhost, htold]; exact ⟨rfl, rfl⟩
  · cases htaken

/-- Where foreign code notes what it is asked, it has noted something of a call if and only if it
hears of the call. -/
theorem record_call_noting (h : Hooks σ) (call : HookCall) (w : World σ) :
    (h.noting.call call (w.withRecord [])).2.record ≠ [] ↔ h.Hear call := by
  unfold Hooks.call
  rw [askHost_noting]
  cases hanswer : h.askHost call w with
  | mk taken after =>
    cases taken with
    | true =>
      have hhost := isSome_of_askHost (congrArg Prod.fst hanswer)
      exact iff_of_true (hostNoted_ne_nil_iff.mpr hhost) (.inl hhost)
    | false =>
      -- what the module notes comes behind what the host has noted
      dsimp only
      rw [askModule_noting]
      show h.hostNoted call false ++ h.noted call _ ≠ [] ↔ _
      rw [ne_eq, List.append_eq_nil_iff, not_and_or]
      exact or_congr hostNoted_ne_nil_iff noted_ne_nil_iff

end Hooks

/-- A trigger is put to the hooks just when its number is not zero. -/
theorem Engine.areaTrigger_consults (e : Engine σ) {trigger : UInt32} {bound : Prop}
    (hzero : e.registry.areaTriggerScript trigger = 0 ↔ ¬ bound) (player : Guid) (w : World σ) :
    let call : HookCall := .areaTrigger player trigger
    (bound → e.areaTrigger player trigger w = e.hooks.call call w) ∧
      (¬ bound → e.areaTrigger player trigger w = (false, w)) ∧
      ((e.noting.areaTrigger player trigger (w.withRecord [])).2.record ≠ [] ↔
        bound ∧ e.hooks.Hear call) := by
  intro call
  have hask : e.areaTrigger player trigger w =
      if e.registry.areaTriggerScript trigger = 0 then (false, w) else e.hooks.call call w := rfl
  have hnoted : e.noting.areaTrigger player trigger (w.withRecord []) =
      if e.registry.areaTriggerScript trigger = 0 then (false, w.withRecord [])
      else e.hooks.noting.call call (w.withRecord []) := rfl
  rw [hask, hnoted]
  by_cases hbound : bound
  · have hne : e.registry.areaTriggerScript trigger ≠ 0 := fun h => hzero.mp h hbound
    rw [if_neg hne, if_neg hne, e.hooks.record_call_noting]
    exact ⟨fun _ => rfl, fun h => absurd hbound h, (and_iff_right hbound).symm⟩
  · rw [if_pos (hzero.mpr hbound), if_pos (hzero.mpr hbound)]
    exact ⟨fun h => absurd h hbound, fun _ => rfl,
      iff_of_false (fun h => h rfl) fun h => hbound h.1⟩

/-! ### The registry -/

open Loader

namespace Registry

variable {catalog : Catalog} {triggers events : List NamedScript}

theorem Binds.areaTriggerScript_eq {r : Registry} {events : OrderedMap UInt32 String}
    (h : r.Binds ((boundNames triggers).filter fun id _ => catalog.areaTriggers.contains id) events)
    (trigger : UInt32) : r.areaTriggerScript trigger =
      ((triggerName? catalog triggers trigger).map r.names.idOf).getD 0 := by
  rw [areaTriggerScript, h.areaTriggers, OrderedMap.get?_map, OrderedMap.get?_filter,
    get?_boundNames, triggerName?]
  cases catalog.areaTriggers.contains trigger <;> cases lastName? triggers trigger <;> rfl

theorem Binds.eventScript_eq {r : Registry} {triggers : OrderedMap UInt32 String}
    (h : r.Binds triggers (boundNames events)) (event : UInt32) :
    r.eventScript event = ((lastName? events event).map r.names.idOf).getD 0 := by
  rw [eventScript, h.events, OrderedMap.get?_map, get?_boundNames]

end Registry

/-- Bindings resolve to their names. In a registry that is built, the number of a known area trigger
stands for the name in the last row that binds it, and so does that of an event, known or not. All
others have the number zero. So a trigger is put to the hooks just when it is known and bound to a
name that is not empty, and then whoever hears of such calls is asked; of any other nobody is. -/
theorem bindings_resolve {source : RowSource} {catalog : Catalog} {options : RegistryOptions}
    {registry : Registry} {report : RegistryReport}
    (hbuild : (Registry.build source catalog options).result = .ok (registry, report))
    (hfew : registry.names.size ≤ 2 ^ 32) :
    ∃ triggers events, source.areaTriggers = .ok triggers ∧ source.eventIds = .ok events ∧
      (∀ trigger, registry.names.StandsFor (registry.areaTriggerScript trigger)
        (triggerName? catalog triggers trigger)) ∧
      (∀ event, registry.names.StandsFor (registry.eventScript event) (lastName? events event)) ∧
      ∀ (σ : Type) (e : Engine σ), e.registry = registry → ∀ player trigger (w : World σ),
        let call : HookCall := .areaTrigger player trigger
        let bound := ∃ name, triggerName? catalog triggers trigger = some name ∧ name ≠ ""
        (bound → e.areaTrigger player trigger w = e.hooks.call call w) ∧
          (¬ bound → e.areaTrigger player trigger w = (false, w)) ∧
          ((e.noting.areaTrigger player trigger (w.withRecord [])).2.record ≠ [] ↔
            bound ∧ e.hooks.Hear call) := by
  obtain ⟨loaded, triggers, events, names, -, htriggers, hevents, -, hassembled⟩ :=
    Registry.build_eq_ok_iff.mp hbuild
  have hregistry : registry =
      (Registry.assemble catalog options loaded triggers events names).1 :=
    congrArg Prod.fst hassembled
  have hbinds : registry.Binds
      ((boundNames triggers).filter fun id _ => catalog.areaTriggers.contains id)
      (boundNames events) := hregistry ▸ Registry.assemble_binds ..
  have hnames : registry.names = Registry.allNames catalog names triggers events :=
    congrArg Registry.names hregistry
  have hsize : (Registry.allNames catalog names triggers events).size ≤ 2 ^ 32 := hnames ▸ hfew
  -- every name that is bound was numbered
  have htrigger : ∀ trigger, registry.names.StandsFor (registry.areaTriggerScript trigger)
      (triggerName? catalog triggers trigger) := by
    intro trigger
    rw [hbinds.areaTriggerScript_eq, hnames]
    refine ScriptNames.standsFor_idOf hsize fun name hname => ?_
    rw [triggerName?, Option.ite_none_right_eq_some] at hname
    exact List.mem_append_left _ (List.mem_append_right _ (mem_of_lastName? hname.2))
  have hevent : ∀ event, registry.names.StandsFor (registry.eventScript event)
      (lastName? events event) := by
    intro event
    rw [hbinds.eventScript_eq, hnames]
    refine ScriptNames.standsFor_idOf hsize fun name hname => ?_
    exact List.mem_append_right _ (mem_of_lastName? hname)
  refine ⟨triggers, events, htriggers, hevents, htrigger, hevent, ?_⟩
  rintro σ e rfl player trigger w
  exact e.areaTrigger_consults (htrigger trigger).eq_zero_iff player w

/-- Two area triggers of a town. -/
def townTriggers : Catalog where
  areaTriggers := .ofList [(700, ⟨700, 0, .origin, .zero⟩), (701, ⟨701, 0, .origin, .zero⟩)]

/-- A trigger that is bound twice, one bound to the empty name and one that is not known. -/
def townBindings : MemorySource where
  areaTriggers := [⟨700, "at_well"⟩, ⟨701, ""⟩, ⟨702, "at_void"⟩, ⟨700, "at_gate"⟩]
  eventIds := [⟨9, "ev_bell"⟩]

/-- The gate is what the first trigger is bound to, and it alone is put to the host. -/
theorem bindings_resolve_town :
    ∃ registry report,
      (Registry.build townBindings.source townTriggers {}).result = .ok (registry, report) ∧
        registry.names.size ≤ 2 ^ 32 ∧
        registry.names.name? (registry.areaTriggerScript 700) = some "at_gate" ∧
        registry.areaTriggerScript 701 = 0 ∧ registry.areaTriggerScript 702 = 0 ∧
        registry.names.name? (registry.eventScript 9) = some "ev_bell" ∧
        let host : Handler Unit := ⟨fun _ w => (true, w), fun _ _ w => (0, w.memory)⟩
        let e : Engine Unit :=
          { registry, catalog := townTriggers, hooks := { host := some host } }
        let w : World Unit := ⟨{ id := 0 }, ()⟩
        (e.noting.areaTrigger (.player 1) 700 (w.withRecord [])).2.record ≠ [] ∧
          e.areaTrigger (.player 1) 701 w = (false, w) ∧
          (e.noting.areaTrigger (.player 1) 702 (w.withRecord [])).2.record = [] := by
  have hnames : (Registry.build townBindings.source townTriggers {}).result.toOption.map
      (·.1.names) = some (.ofList ["at_well", "", "at_void", "at_gate", "ev_bell"]) := rfl
  cases hbuild : (Registry.build townBindings.source townTriggers {}).result with
  | error e =>
    rw [hbuild] at hnames
    cases hnames
  | ok built =>
    obtain ⟨registry, report⟩ := built
    rw [hbuild] at hnames
    have hfew : registry.names.size ≤ 2 ^ 32 := by
      rw [show registry.names = _ from Option.some.inj hnames]
      exact (ScriptNames.size_ofList_le _).trans (by decide)
    obtain ⟨triggers, events, htriggers, hevents, htrigger, hevent, hasked⟩ :=
      bindings_resolve hbuild hfew
    obtain rfl := Except.ok.inj htriggers
    obtain rfl := Except.ok.inj hevents
    refine ⟨registry, report, rfl, hfew, (htrigger 700).1, (htrigger 701).2.mpr rfl, htrigger 702,
      (hevent 9).1, ?_⟩
    intro host e w
    refine ⟨?_, ?_, ?_⟩
    · exact (hasked Unit e rfl (.player 1) 700 w).2.2.mpr
        ⟨⟨"at_gate", rfl, by decide⟩, .inl ⟨rfl, rfl⟩⟩
    · refine (hasked Unit e rfl (.player 1) 701 w).2.1 ?_
      rintro ⟨name, hname, hne⟩
      exact hne (Option.some.inj hname).symm
    · by_contra hrecord
      obtain ⟨⟨name, hname, -⟩, -⟩ := (hasked Unit e rfl (.player 1) 702 w).2.2.mp hrecord
      cases hname

end RegionScript
