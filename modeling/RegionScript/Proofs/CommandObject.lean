import RegionScript.Proofs.Accepted

/-!
The game object of a respawn or door command.

The loader checks the type of one template: that of the spawn that a row names, or else that of its
buddy. A step works on the spawn that is named, or else on its source. The two agree where the buddy
becomes the source; the flags that put it in the place of the target, or exchange it with the
source, part them.
-/

namespace RegionScript

/-! ### What a command names -/

namespace Step

variable {ctx : StepContext} {r : Region} {c : Command} {p : Participants}

/-- The game object that a command names: a spawn of the catalog, or else its source. -/
def NamesObject (catalog : Catalog) (p : Participants) (spawn : UInt32) (g : Guid) : Prop :=
  if spawn = 0 then p.source = some g ∧ g.isGameObject = true
  else ∃ s, catalog.gameObjectSpawns.get? spawn = some s ∧ g = .gameObject s.entry spawn

/-- A command works on the game object that it names. -/
theorem commandObject_names (hr : r.WellKeyed) {spawn : UInt32} {g : Guid}
    (h : commandObject ctx r c p spawn = .ok g) : NamesObject ctx.catalog p spawn g := by
  unfold commandObject at h
  unfold NamesObject
  dsimp only at h
  split at h
  case isTrue hzero =>
    rw [if_pos hzero]
    cases hsource : p.sourceGameObject? with
    | none =>
      rw [hsource] at h
      cases h
    | some g' =>
      rw [hsource] at h
      obtain rfl := Except.ok.inj h
      exact Option.filter_eq_some_iff.mp hsource
  case isFalse hnamed =>
    rw [if_neg hnamed]
    split at h
    · cases h
    · next s hs =>
      cases ho : r.gameObject? (.gameObject s.entry spawn) with
      | none =>
        rw [ho] at h
        cases h
      | some o =>
        rw [ho] at h
        obtain rfl := Except.ok.inj h
        exact ⟨s, hs, (hr.gameObject _ o ho).1⟩

/-- The button in the target, if there is one. -/
def targetButton? (r : Region) (p : Participants) : Option GameObject :=
  (p.target.bind r.gameObject?).filter (·.type = .button)

theorem of_targetButton? (hr : r.WellKeyed) {b : GameObject} (h : targetButton? r p = some b) :
    r.gameObject? b.guid = some b ∧ b.type = .button := by
  obtain ⟨htarget, htype⟩ := Option.filter_eq_some_iff.mp h
  obtain ⟨g, -, hg⟩ := Option.bind_eq_some_iff.mp htarget
  have hguid : b.guid = g := (hr.gameObject g b hg).1
  exact ⟨hguid ▸ hg, by simpa using htype⟩

/-- The button of a step is one. -/
theorem type_of_button? (hr : r.WellKeyed) {b : Guid} (h : button? r p = some b) :
    ∃ o, r.gameObject? b = some o ∧ o.type = .button := by
  obtain ⟨o, ho, rfl⟩ := Option.map_eq_some_iff.mp h
  exact ⟨o, of_targetButton? hr ho⟩

end Step

/-! ### Which game objects change -/

/-- Every game object is as it was, but those that were touched. -/
def Region.Touches (touched : Guid → Prop) (r r' : Region) : Prop :=
  ∀ g, r'.gameObject? g = r.gameObject? g ∨ touched g

namespace Region.Touches

variable {r r' r'' : Region} {touched : Guid → Prop} {g : Guid}

theorem refl (touched : Guid → Prop) (r : Region) : r.Touches touched r := fun _ => .inl rfl

theorem trans (h : r.Touches touched r') (h' : r'.Touches touched r'') : r.Touches touched r'' := by
  intro g
  rcases h' g with hsame' | ht
  · exact (h g).imp_left hsame'.trans
  · exact .inr ht

theorem modifyGameObject {f : GameObject → GameObject} (hg : touched g) :
    r.Touches touched (r.modifyGameObject g f) := by
  intro j
  by_cases hj : j = g
  · exact .inr (hj ▸ hg)
  · exact .inl ((OrderedMap.get?_modify r.gameObjects j g f).trans (if_neg hj))

theorem respawn? {seconds : UInt32} (hg : touched g) (h : r.respawn? g seconds = some r') :
    r.Touches touched r' := by
  obtain ⟨o, -, rfl⟩ := Option.map_eq_some_iff.mp h
  exact modifyGameObject hg

theorem useDoor {reset : UInt32} (hg : touched g) : r.Touches touched (r.useDoor g reset) := by
  unfold Region.useDoor
  cases h : r.useDoor? g reset with
  | none => exact refl touched r
  | some r' =>
    obtain ⟨o, -, rfl⟩ := Option.map_eq_some_iff.mp h
    exact modifyGameObject hg

end Region.Touches

namespace Step

variable {ctx : StepContext} {r : Region} {c : Command} {p : Participants} {touched : Guid → Prop}

/-- A respawn touches only the object of its command. -/
theorem respawnGameObject_touches {spawn delay : UInt32}
    (hg : ∀ g, commandObject ctx r c p spawn = .ok g → touched g) :
    (respawnGameObject ctx r c p spawn delay).Meets (fun _ => True) (r.Touches touched) := by
  refine meets_attempt (fun _ _ => trivial) fun g hobject => ?_
  refine meets_require (fun _ => trivial) fun o _ => meets_demand (fun _ => trivial) fun _ => ?_
  split
  · exact meets_applied (.refl touched r)
  · cases h : r.respawn? g (max delay minRespawnDelay) with
    | none => exact meets_applied (.refl touched r)
    | some r' => exact meets_applied (.respawn? (hg g hobject) h)

/-- Opening and closing touch the object of their command and the button in the target. -/
theorem useDoor_touches {state : UseState} {spawn delay : UInt32}
    (hg : ∀ g, commandObject ctx r c p spawn = .ok g → touched g)
    (hbutton : ∀ b, button? r p = some b → touched b) :
    (useDoor ctx r c p state spawn delay).Meets (fun _ => True) (r.Touches touched) := by
  refine meets_attempt (fun _ _ => trivial) fun g hobject => ?_
  refine meets_require (fun _ => trivial) fun o _ => meets_demand (fun _ => trivial) fun _ => ?_
  split
  · exact meets_applied (.refl touched r)
  · refine meets_applied ?_
    cases hb : button? r p with
    | none => exact .useDoor (hg g hobject)
    | some b => exact Region.Touches.trans (.useDoor (hg g hobject)) (.useDoor (hbutton b hb))

end Step

/-! ### Which game object was checked -/

namespace Loader

variable {l : Loader} {c : Command}

/-- Where no object is at fault, there is an entry that was checked. -/
theorem objectEntry_of_objectFault {allowed : GameObjectType → Bool}
    (h : l.objectFault c allowed = none) : ∃ entry, l.objectEntry c = .ok entry := by
  cases hentry : l.objectEntry c with
  | ok entry => exact ⟨entry, rfl⟩
  | error e => simp [objectFault, objectType, hentry] at h

end Loader

namespace StepFlags

/-- A buddy becomes the source if it is put there and stays, or if it is put in the place of the
target and exchanged. -/
theorem source_of_wire {f : StepFlags} (h : f.buddyAsTarget = f.reverseDirection) (buddy : Guid)
    (source target : Option Guid) : (f.wire (some buddy) source target).1 = some buddy := by
  cases hdirection : f.reverseDirection <;> cases hself : f.targetsSelf <;>
    simp [wire, place, orient, selfTarget, h, hdirection, hself]

end StepFlags

namespace Step

variable {l : Loader} {ctx : StepContext} {r : Region} {c : Command} {source target : Option Guid}

/-- The source is of the buddy's entry if the buddy becomes the source. -/
theorem source_of_participants (hr : r.WellKeyed) (hbuddy : c.buddyEntry ≠ 0)
    (hflags : c.flags.buddyAsTarget = c.flags.reverseDirection) {p : Participants}
    (hp : c.participants r source target = .ok p) :
    ∃ g o, p.source = some g ∧ r.object? g = some o ∧ o.entry = c.buddyEntry := by
  obtain ⟨goal, buddy, -, hfound, hwired, -⟩ := Command.participants_eq_ok hp
  cases buddy with
  | none => exact absurd hfound (Command.buddy?_ne_none hbuddy)
  | some b =>
    obtain ⟨⟨o, ho, hentry⟩, -⟩ := Command.buddy?_found hr hfound
    have hsource := (congrArg Prod.fst hwired).trans (StepFlags.source_of_wire hflags b.guid _ _)
    exact ⟨b.guid, o, hsource, ho, hentry⟩

/-- What every command touches on its participants, the step touches. -/
theorem run_touches {touched : Guid → Prop}
    (h : ∀ p, c.participants r source target = .ok p →
      (apply ctx r c p).Meets (fun _ => True) (r.Touches touched)) :
    r.Touches touched (run ctx r c source target).region :=
  region_of_apply (.refl touched r) h

section Checked

variable (hr : r.WellKeyed) (hcatalog : ctx.catalog = l.catalog)
  (hflags : c.payload.spawn? = none → c.flags.buddyAsTarget = c.flags.reverseDirection)
  {spawn : UInt32} (hspawn : c.payload.spawn? = if spawn = 0 then none else some spawn)

include hr hcatalog hflags hspawn

/-- The object that a step works on is of the entry that was checked, if a spawn is named or the
buddy becomes the source. -/
theorem commandObject_entry {entry : UInt32} (hentry : l.objectEntry c = .ok entry)
    {p : Participants} (hp : c.participants r source target = .ok p) {g : Guid}
    (hg : commandObject ctx r c p spawn = .ok g) : g.entry = entry := by
  have hnames := commandObject_names hr hg
  unfold NamesObject at hnames
  unfold Loader.objectEntry at hentry
  split at hnames
  -- no spawn is named: the object is the source, and by the flags that is the buddy of the check
  case isTrue hzero =>
    rw [if_pos hzero] at hspawn
    simp only [hspawn] at hentry
    split at hentry
    · cases hentry
    · next hbuddy =>
      obtain ⟨g', o, hsource, ho, hoentry⟩ := source_of_participants hr hbuddy (hflags hspawn) hp
      obtain rfl := Option.some.inj (hsource.symm.trans hnames.1)
      have hworld : o.isWorldObject = true := by
        rw [Region.isWorldObject_of_object? ho]
        simp_all [Guid.isGameObject, Guid.isItem]
      rw [← hr.entry_of_object? ho hworld, hoentry]
      exact Except.ok.inj hentry
  -- a spawn is named: check and step look up its entry in the same catalog
  case isFalse hnamed =>
    rw [if_neg hnamed] at hspawn
    simp only [hspawn] at hentry
    obtain ⟨s, hs, rfl⟩ := hnames
    rw [hcatalog] at hs
    simp only [hs] at hentry
    exact Except.ok.inj hentry

variable {g : Guid} {before : GameObject} {allowed : GameObjectType → Bool}
  (hchecked : l.objectFault c allowed = none)
  (hchanged : (run ctx r c source target).region.gameObject? g ≠ r.gameObject? g)

include hchecked hchanged

/-- Whatever a respawn changes is of the entry that was checked. -/
theorem entry_of_respawn {delay : UInt32}
    (happly : ∀ p, apply ctx r c p = respawnGameObject ctx r c p spawn delay) :
    l.objectEntry c = .ok g.entry := by
  obtain ⟨entry, hentry⟩ := Loader.objectEntry_of_objectFault hchecked
  have htouches : r.Touches (fun g => g.entry = entry) (run ctx r c source target).region := by
    refine run_touches fun p hp => ?_
    rw [happly]
    refine respawnGameObject_touches fun g hg => ?_
    exact commandObject_entry hr hcatalog hflags hspawn hentry hp hg
  rw [(htouches g).resolve_left hchanged, hentry]

/-- Whatever door is changed by opening or closing is of the entry that was checked; the button that
is used with it is no door. -/
theorem entry_of_useDoor (hbefore : r.gameObject? g = some before) (hdoor : before.type = .door)
    {state : UseState} {delay : UInt32}
    (happly : ∀ p, apply ctx r c p = useDoor ctx r c p state spawn delay) :
    l.objectEntry c = .ok g.entry := by
  obtain ⟨entry, hentry⟩ := Loader.objectEntry_of_objectFault hchecked
  have htouches : r.Touches (fun g => g.entry = entry ∨ ∃ o, r.gameObject? g = some o ∧
      o.type = .button) (run ctx r c source target).region := by
    refine run_touches fun p hp => ?_
    rw [happly]
    refine useDoor_touches (fun g hg => .inl ?_) fun b hb => .inr (type_of_button? hr hb)
    exact commandObject_entry hr hcatalog hflags hspawn hentry hp hg
  rcases (htouches g).resolve_left hchanged with hg | ⟨o, ho, hbutton⟩
  · rw [hg, hentry]
  · obtain rfl := Option.some.inj (hbefore.symm.trans ho)
    rw [hdoor] at hbutton
    cases hbutton

end Checked

end Step

/-! ### In a step -/

/-- What a respawn or door command is for: it spawns a game object that is gone, or toggles a
door. -/
def Command.WorksOn (c : Command) (before after : GameObject) : Prop :=
  match c.payload with
  | .respawnGameObject .. => after.spawned ≠ before.spawned
  | .openDoor .. | .closeDoor .. => before.type = .door ∧ after.state ≠ before.state
  | _ => False

/-- Nothing was done to an object that stayed as it was. -/
theorem Command.not_worksOn_self (c : Command) (o : GameObject) : ¬ c.WorksOn o o := by
  unfold WorksOn
  split <;> simp

/-- An accepted respawn or door command works on a game object of the entry whose type the loader
checked, provided that the command names a spawn, or that its flags leave the buddy as the source:
the buddy is neither put in the place of the target nor exchanged with it, or it is both. -/
theorem works_on_checked_object {l : Loader} {row : Row} {c : Command} {r : Region}
    (h : l.check row = .ok c) (hr : r.WellKeyed)
    (hflags : c.payload.spawn? = none → c.flags.buddyAsTarget = c.flags.reverseDirection)
    {ctx : StepContext} (hcatalog : ctx.catalog = l.catalog) (source target : Option Guid)
    {g : Guid} {before after : GameObject} (hbefore : r.gameObject? g = some before)
    (hafter : (Step.run ctx r c source target).region.gameObject? g = some after)
    (hwork : c.WorksOn before after) : l.objectEntry c = .ok g.entry := by
  have hchanged : (Step.run ctx r c source target).region.gameObject? g ≠ r.gameObject? g := by
    rw [hafter, hbefore]
    intro hsame
    exact c.not_worksOn_self before (Option.some.inj hsame ▸ hwork)
  have hfault := Loader.payloadFault_of_check h
  unfold Loader.payloadFault at hfault
  unfold Command.WorksOn at hwork
  cases hd : c.payload with
  | respawnGameObject spawn delay =>
    rw [hd] at hfault
    have hspawn : c.payload.spawn? = if spawn = 0 then none else some spawn := by rw [hd]; rfl
    have happly : ∀ p, Step.apply ctx r c p = Step.respawnGameObject ctx r c p spawn delay :=
      fun p => by rw [Step.apply, hd]
    exact Step.entry_of_respawn hr hcatalog hflags hspawn hfault hchanged happly
  | openDoor spawn delay =>
    rw [hd] at hfault hwork
    have hspawn : c.payload.spawn? = if spawn = 0 then none else some spawn := by rw [hd]; rfl
    have happly : ∀ p, Step.apply ctx r c p = Step.useDoor ctx r c p .active spawn delay :=
      fun p => by rw [Step.apply, hd]
    exact Step.entry_of_useDoor hr hcatalog hflags hspawn hfault hchanged hbefore hwork.1 happly
  | closeDoor spawn delay =>
    rw [hd] at hfault hwork
    have hspawn : c.payload.spawn? = if spawn = 0 then none else some spawn := by rw [hd]; rfl
    have happly : ∀ p, Step.apply ctx r c p = Step.useDoor ctx r c p .ready spawn delay :=
      fun p => by rw [Step.apply, hd]
    exact Step.entry_of_useDoor hr hcatalog hflags hspawn hfault hchanged hbefore hwork.1 happly
  | _ =>
    rw [hd] at hwork
    cases hwork

/-- An outer and an inner gate; the inner one is spawned under the guid 2. -/
def gates : Loader where
  catalog :=
    { gameObjectTemplates := .ofList
        [(60, ⟨60, "Outer gate", .door, [], ""⟩), (61, ⟨61, "Inner gate", .door, [], ""⟩)]
      gameObjectSpawns := .ofList [(2, ⟨2, 61, .origin⟩)] }

/-- A closed gate. -/
def gate (entry counter : UInt32) : GameObject :=
  { guid := .gameObject entry counter, type := .door, position := .origin }

/-- Both gates, side by side. -/
def gatehouse : Region :=
  ({ id := 0 : Region }.addGameObject (gate 60 1)).addGameObject (gate 61 2)

theorem gatehouse_wellKeyed : gatehouse.WellKeyed :=
  ((Region.wellKeyed_empty 0).addGameObject rfl).addGameObject rfl

/-- A row that opens a door, whose buddy is the inner gate by its guid. -/
def openInnerGate (flags : UInt32) : Row := ((Row.new 5 0 11).withBuddy 61 2).withFlags flags

/-- The command of such a row. -/
def opensInnerGate (flags : StepFlags) : Command :=
  { Command.plain 5 0 (.openDoor 0 0) with buddyEntry := 61, buddyRadius := 2, flags }

/-- The outer gate starts the script, and the inner one is opened. -/
theorem works_on_checked_object_inner :
    let c := opensInnerGate { buddyByGuid := true }
    let ctx : StepContext := { catalog := gates.catalog, table := "", draw := 0 }
    let x := Step.run ctx gatehouse c (some (gate 60 1).guid) none
    gates.check (openInnerGate 0x10) = .ok c ∧ gatehouse.WellKeyed ∧
      c.flags.buddyAsTarget = c.flags.reverseDirection ∧
      (∃ after, x.region.gameObject? (gate 61 2).guid = some after ∧ c.WorksOn (gate 61 2) after) ∧
      gates.objectEntry c = .ok (gate 61 2).guid.entry := by
  intro c ctx x
  have hcheck : gates.check (openInnerGate 0x10) = .ok c := by decide +kernel
  have hbefore : gatehouse.gameObject? (gate 61 2).guid = some (gate 61 2) := by decide +kernel
  have hafter : x.region.gameObject? (gate 61 2).guid =
      some { gate 61 2 with state := .active, reset := some ⟨15000, .ready⟩ } := by decide +kernel
  have hwork : c.WorksOn (gate 61 2)
      { gate 61 2 with state := .active, reset := some ⟨15000, .ready⟩ } := ⟨rfl, by decide⟩
  refine ⟨hcheck, gatehouse_wellKeyed, rfl, ⟨_, hafter, hwork⟩, ?_⟩
  exact works_on_checked_object hcheck gatehouse_wellKeyed (fun _ => rfl) rfl
    (some (gate 60 1).guid) none hbefore hafter hwork

/-- With the buddy as the target the loader checks the inner gate, and the step opens the outer
one. -/
theorem opens_unchecked_gate :
    let c := opensInnerGate { buddyAsTarget := true, buddyByGuid := true }
    let ctx : StepContext := { catalog := gates.catalog, table := "", draw := 0 }
    let x := Step.run ctx gatehouse c (some (gate 60 1).guid) none
    gates.check (openInnerGate 0x11) = .ok c ∧ gatehouse.WellKeyed ∧ c.payload.spawn? = none ∧
      gatehouse.gameObject? (gate 60 1).guid = some (gate 60 1) ∧
      (∃ after, x.region.gameObject? (gate 60 1).guid = some after ∧ c.WorksOn (gate 60 1) after) ∧
      gates.objectEntry c = .ok 61 ∧ (gate 60 1).guid.entry = 60 := by
  intro c ctx x
  have hcheck : gates.check (openInnerGate 0x11) = .ok c := by decide +kernel
  have hbefore : gatehouse.gameObject? (gate 60 1).guid = some (gate 60 1) := by decide +kernel
  have hafter : x.region.gameObject? (gate 60 1).guid =
      some { gate 60 1 with state := .active, reset := some ⟨15000, .ready⟩ } := by decide +kernel
  exact ⟨hcheck, gatehouse_wellKeyed, rfl, hbefore, ⟨_, hafter, rfl, by decide⟩, rfl, rfl⟩

end RegionScript
