import RegionScript.Proofs.Buddies
import RegionScript.Proofs.Outcomes

/-!
Who takes part in a step.

The objects of a step are in the region when it runs: the guids that a script was started with are
looked up before the step, and so are buddies. Hence a command that is given a guid of the right
kind finds the object, and an error about a kind is about the guids alone.
-/

namespace RegionScript

/-- The errors that arise while the participants of a step are found. -/
def StepError.isAboutFinding : StepError → Bool
  | .unsupportedGuid _ | .buddyDead .. | .buddyNotLoaded .. | .noSearcher _ | .buddyNotFound .. =>
    true
  | _ => false

/-- The errors that say that an object is not of the kind that the command needs. -/
def StepError.isAboutKind : StepError → Bool
  | .notCreature | .notUnit | .notGameObject | .notPlayer => true
  | _ => false

theorem StepError.isAboutFinding_of_isAboutKind {e : StepError} (h : e.isAboutKind = true) :
    e.isAboutFinding = false := by
  cases e <;> first | rfl | cases h

/-- A guid names an object of the world that is here under that guid. -/
def Region.IsLive (r : Region) (g : Guid) : Prop :=
  ∃ o, r.object? g = some o ∧ o.guid = g ∧ o.isWorldObject = true

namespace Command

variable {c : Command} {r : Region} {source target : Option Guid} {e : StepError}

/-! ### What goes wrong -/

theorem buddyByGuid_error (h : c.buddyByGuid r = .error e) : e.isAboutFinding = true := by
  unfold buddyByGuid at h
  dsimp only at h
  split at h
  · split at h
    · exact Except.error.inj h ▸ rfl
    · split at h
      · cases h
      · exact Except.error.inj h ▸ rfl
  · split at h
    · exact Except.error.inj h ▸ rfl
    · cases h

theorem buddyByEntry_error (h : c.buddyByEntry r source target = .error e) :
    e.isAboutFinding = true := by
  unfold buddyByEntry at h
  split at h
  · exact Except.error.inj h ▸ rfl
  · split at h
    · cases h
    · split at h
      · cases h
      · exact Except.error.inj h ▸ rfl

theorem buddy?_error (h : c.buddy? r source target = .error e) : e.isAboutFinding = true := by
  unfold buddy? at h
  split at h
  · cases h
  · split at h
    · exact buddyByGuid_error (map_eq_error_iff.mp h)
    · exact buddyByEntry_error (map_eq_error_iff.mp h)

/-- Finding the participants never blames the command or the kind of a guid. -/
theorem participants_error (h : c.participants r source target = .error e) :
    e.isAboutFinding = true := by
  unfold participants at h
  split at h
  · next e' hgoal =>
    obtain rfl := Except.error.inj h
    unfold goal? at hgoal
    split at hgoal
    · cases hgoal
    · split at hgoal
      · exact Except.error.inj hgoal ▸ rfl
      · cases hgoal
  · exact buddy?_error (map_eq_error_iff.mp (map_eq_error_iff.mp h))

/-! ### What is found -/

/-- The buddy that a step finds whose script was started with the given source and target. -/
def FindsBuddy (c : Command) (r : Region) (source target : Option Guid) (g : Guid) : Prop :=
  ∃ goal b, goal? r target = .ok goal ∧
    c.buddy? r (worldGuid? (starter? r source)) (worldGuid? goal) = .ok (some b) ∧ b.guid = g

/-- A guid of an object in the world is that of the object it was looked up by. -/
theorem isLive_of_worldGuid? (hr : r.WellKeyed) {start : Option Guid} {o : Option Object} {g : Guid}
    (ho : ∀ x, o = some x → start.bind r.object? = some x) (h : worldGuid? o = some g) :
    start = some g ∧ r.IsLive g := by
  obtain ⟨x, hx, rfl⟩ := Option.map_eq_some_iff.mp h
  obtain ⟨rfl, hworld⟩ := Option.filter_eq_some_iff.mp hx
  obtain ⟨g, rfl, hg⟩ := Option.bind_eq_some_iff.mp (ho x rfl)
  have hguid := hr.guid_of_object? hg
  rw [hguid]
  exact ⟨rfl, x, hg, hguid, hworld⟩

theorem starter?_isLive (hr : r.WellKeyed) {g : Guid}
    (h : worldGuid? (starter? r source) = some g) : source = some g ∧ r.IsLive g :=
  isLive_of_worldGuid? hr (fun _ hx => (Option.filter_eq_some_iff.mp hx).1) h

theorem goal?_isLive (hr : r.WellKeyed) {goal : Option Object} (hgoal : goal? r target = .ok goal)
    {g : Guid} (h : worldGuid? goal = some g) : target = some g ∧ r.IsLive g := by
  refine isLive_of_worldGuid? hr (fun x hx => ?_) h
  unfold goal? at hgoal
  split at hgoal
  · cases Except.ok.inj hgoal
    cases hx
  · split at hgoal
    · cases hgoal
    · exact (Except.ok.inj hgoal).trans hx

/-- Only the source or the target searches. -/
theorem searcher?_eq_some {g : Guid} (h : searcher? source target = some g) :
    source = some g ∨ target = some g := by
  have hor : ∀ {s}, source.or target = some s → source = some s ∨ target = some s := fun hs =>
    (Option.or_eq_some_iff.mp hs).imp_right And.right
  unfold searcher? at h
  split at h
  · cases h
  · next s hs =>
    split at h
    · rcases Option.or_eq_some_iff.mp h with htarget | ⟨-, hself⟩
      · exact .inr (Option.filter_eq_some_iff.mp htarget).1
      · exact hor (hself ▸ hs)
    · exact hor (Option.some.inj h ▸ hs)

/-- A buddy is live: either it is no item by its kind, or it is one of those that were started
with. -/
theorem buddy?_isLive (hr : r.WellKeyed) (hsource : ∀ g, source = some g → r.IsLive g)
    (htarget : ∀ g, target = some g → r.IsLive g) {b : Buddy}
    (h : c.buddy? r source target = .ok (some b)) : r.IsLive b.guid := by
  obtain ⟨⟨o, ho, -⟩, hseeks | hstands⟩ := buddy?_found hr h
  · refine ⟨o, ho, hr.guid_of_object? ho, ?_⟩
    have hitem : b.guid.isItem = false := by
      cases hkind : b.guid.kind <;>
        simp_all [seeks, Guid.isItem, Guid.isCreature, ObjectKind.isCreature, Guid.isGameObject]
    rw [Region.isWorldObject_of_object? ho, hitem]
    rfl
  · rcases searcher?_eq_some hstands.searcher with hg | hg
    · exact hsource _ hg
    · exact htarget _ hg

end Command

namespace StepFlags

variable {f : StepFlags} {P : Guid → Prop} {source target buddy : Option Guid}

/-- Both guids of a pair, where they are there, satisfy a property. -/
structure Both (P : Guid → Prop) (p : Option Guid × Option Guid) : Prop where
  source : ∀ g, p.1 = some g → P g
  target : ∀ g, p.2 = some g → P g

theorem place_both (hbuddy : ∀ g, buddy = some g → P g) (h : Both P (source, target)) :
    Both P (f.place buddy source target) := by
  unfold place
  split
  · exact ⟨h.source, hbuddy⟩
  · refine ⟨fun g hg => ?_, h.target⟩
    rcases Option.or_eq_some_iff.mp hg with hg | ⟨-, hg⟩
    · exact hbuddy g hg
    · exact h.source g hg

theorem orient_both {p : Option Guid × Option Guid} (h : Both P p) : Both P (f.orient p) := by
  unfold orient
  split
  · exact ⟨h.target, h.source⟩
  · exact h

theorem selfTarget_both {p : Option Guid × Option Guid} (h : Both P p) :
    Both P (f.selfTarget p) := by
  unfold selfTarget
  split
  · exact ⟨h.source, h.source⟩
  · exact h

/-- Wiring brings in no guid but those that it is given. -/
theorem wire_both (hbuddy : ∀ g, buddy = some g → P g) (h : Both P (source, target)) :
    Both P (f.wire buddy source target) :=
  selfTarget_both (orient_both (place_both hbuddy h))

end StepFlags

namespace Command

variable {c : Command} {r : Region} {source target : Option Guid} {p : Participants}

/-- How the objects of a step come about. -/
theorem participants_eq_ok (h : c.participants r source target = .ok p) :
    ∃ goal buddy, goal? r target = .ok goal ∧
      c.buddy? r (worldGuid? (starter? r source)) (worldGuid? goal) = .ok buddy ∧
      (p.source, p.target) = c.flags.wire (buddy.map Buddy.guid)
        (worldGuid? (starter? r source)) (worldGuid? goal) ∧
      p.sourceOrItem =
        p.source.or (((starter? r source).filter (!·.isWorldObject)).map Object.guid) := by
  unfold participants at h
  split at h
  · cases h
  · next goal hgoal =>
    obtain ⟨wired, hwired, rfl⟩ := map_eq_ok_iff.mp h
    obtain ⟨buddy, hbuddy, rfl⟩ := map_eq_ok_iff.mp hwired
    exact ⟨goal, buddy, hgoal, hbuddy, rfl, rfl⟩

/-- What may be the source or the target of a step: a live object that the script was started with,
or the buddy. -/
def MayAct (c : Command) (r : Region) (source target : Option Guid) (g : Guid) : Prop :=
  r.IsLive g ∧ (source = some g ∨ target = some g ∨ c.FindsBuddy r source target g)

/-- The source and the target of a step are such objects. -/
theorem participants_live (hr : r.WellKeyed) (h : c.participants r source target = .ok p) {g : Guid}
    (hg : p.source = some g ∨ p.target = some g) : c.MayAct r source target g := by
  obtain ⟨goal, buddy, hgoal, hbuddy, hwired, -⟩ := participants_eq_ok h
  have hsource : ∀ g, worldGuid? (starter? r source) = some g → source = some g ∧ r.IsLive g :=
    fun _ => starter?_isLive hr
  have htarget : ∀ g, worldGuid? goal = some g → target = some g ∧ r.IsLive g :=
    fun _ => goal?_isLive hr hgoal
  have hfound : ∀ g, buddy.map Buddy.guid = some g → c.MayAct r source target g := by
    intro g hg
    obtain ⟨b, rfl, rfl⟩ := Option.map_eq_some_iff.mp hg
    refine ⟨buddy?_isLive hr ?_ ?_ hbuddy, .inr (.inr ⟨goal, b, hgoal, hbuddy, rfl⟩)⟩
    · exact fun g hg => (hsource g hg).2
    · exact fun g hg => (htarget g hg).2
  have hgiven : StepFlags.Both (c.MayAct r source target)
      (worldGuid? (starter? r source), worldGuid? goal) :=
    ⟨fun g hg => ⟨(hsource g hg).2, .inl (hsource g hg).1⟩,
      fun g hg => ⟨(htarget g hg).2, .inr (.inl (htarget g hg).1)⟩⟩
  have hboth := StepFlags.wire_both (f := c.flags) hfound hgiven
  rw [← hwired] at hboth
  exact hg.elim (hboth.source g) (hboth.target g)

/-- An item takes part only for want of a source, and while its owner is here. -/
theorem participants_item (hr : r.WellKeyed) (h : c.participants r source target = .ok p) {g : Guid}
    (hg : p.sourceOrItem = some g) :
    p.source = some g ∨ p.source = none ∧ source = some g ∧
      ∃ i, r.object? g = some (.item i) ∧ r.players.contains i.owner = true := by
  obtain ⟨goal, buddy, -, -, -, hitem⟩ := participants_eq_ok h
  rw [hitem] at hg
  refine (Option.or_eq_some_iff.mp hg).imp_right fun ⟨hnone, hitem⟩ => ⟨hnone, ?_⟩
  obtain ⟨x, hx, rfl⟩ := Option.map_eq_some_iff.mp hitem
  obtain ⟨hstarter, hkind⟩ := Option.filter_eq_some_iff.mp hx
  obtain ⟨hobject, howner⟩ := Option.filter_eq_some_iff.mp hstarter
  obtain ⟨g', rfl, hfound⟩ := Option.bind_eq_some_iff.mp hobject
  have hguid := hr.guid_of_object? hfound
  rw [hguid]
  cases x with
  | item i => exact ⟨rfl, i, hfound, howner⟩
  | _ => cases hkind

end Command

/-! ### Errors about kinds -/

namespace Step

variable {r : Region} {c : Command} {d : Payload} {p : Participants} {e : StepError} {g : Guid}

/-- Whatever guid a command needs is that of its source or its target. -/
theorem mem_needs (h : some g ∈ needs d p e) : p.source = some g ∨ p.target = some g := by
  have hsource : ∀ {f : Guid → Bool}, some g = p.source.filter f → p.source = some g :=
    fun h => (Option.filter_eq_some_iff.mp h.symm).1
  have htarget : ∀ {f : Guid → Bool}, some g = p.target.filter f → p.target = some g :=
    fun h => (Option.filter_eq_some_iff.mp h.symm).1
  unfold needs at h
  split at h
  · split at h
    · have hvictim := List.mem_singleton.mp h
      unfold victim? at hvictim
      split at hvictim
      · exact .inl (hsource hvictim)
      · exact .inr (htarget hvictim)
    · exact .inl (hsource (List.mem_singleton.mp h))
  · split at h
    · exact .inr (htarget (List.mem_singleton.mp h))
    · rcases List.mem_cons.mp h with h | h
      · exact .inr (htarget h)
      · rcases Option.or_eq_some_iff.mp (List.mem_singleton.mp h).symm with h | ⟨-, h⟩
        · exact .inl (hsource h.symm)
        · exact .inl (hsource h.symm)
    · exact .inl (hsource (List.mem_singleton.mp h))
  · split at h
    · exact .inr (htarget (List.mem_singleton.mp h))
    · exact .inl (hsource (List.mem_singleton.mp h))
  · rcases Option.or_eq_some_iff.mp (List.mem_singleton.mp h).symm with h | ⟨-, h⟩
    · exact .inr (htarget h.symm)
    · exact .inl (hsource h.symm)
  · cases h

/-- A command that blames a kind needs a guid of that kind. -/
theorem needs_ne_nil (he : e.isAboutKind = true) : needs d p e ≠ [] := by
  unfold needs
  split
  · split <;> exact List.cons_ne_nil _ _
  · split <;> exact List.cons_ne_nil _ _
  · split <;> exact List.cons_ne_nil _ _
  · exact List.cons_ne_nil _ _
  · cases e <;> contradiction

/-- What the region holds does not matter to an error about a kind: a guid that the command needs
was missing or of another kind. -/
theorem run_kindError (hr : r.WellKeyed) {ctx : StepContext} {source target : Option Guid}
    (he : e.isAboutKind = true) (h : (run ctx r c source target).outcome = .error e) :
    ∃ p, c.participants r source target = .ok p ∧ none ∈ needs c.payload p e := by
  rcases (run_meets ctx r c source target).failed e h with hfind | ⟨p, hp, hgrounds⟩
  · have hfinding := Command.participants_error hfind
    rw [StepError.isAboutFinding_of_isAboutKind he] at hfinding
    cases hfinding
  · have hneeds : needs c.payload p e = [] ∨ none ∈ needs c.payload p e ∨
        ∃ g, some g ∈ needs c.payload p e ∧ r.object? g = none := by
      cases e <;> first | exact hgrounds | cases he
    rcases hneeds with hnil | hnone | ⟨g, hg, hgone⟩
    · exact absurd hnil (needs_ne_nil he)
    · exact ⟨p, hp, hnone⟩
    · obtain ⟨⟨o, ho, -⟩, -⟩ := Command.participants_live hr hp (mem_needs hg)
      rw [hgone] at ho
      cases ho

end Step

/-- The objects of a step are live: its source and its target are objects of the world that are in
the region, and are those that the script was started with or the buddy that was found. What stands
in for a missing source is the item that started the script, and its owner is here. So a command
that complains about a kind was given no guid, or one of another kind. -/
theorem resolved_objects_are_live {r : Region} (hr : r.WellKeyed) (c : Command)
    (source target : Option Guid) :
    (∀ p, c.participants r source target = .ok p →
      (∀ g, p.source = some g ∨ p.target = some g →
        r.IsLive g ∧ (source = some g ∨ target = some g ∨ c.FindsBuddy r source target g)) ∧
      ∀ g, p.sourceOrItem = some g →
        p.source = some g ∨ p.source = none ∧ source = some g ∧
          ∃ i, r.object? g = some (.item i) ∧ r.players.contains i.owner = true) ∧
    ∀ ctx e, e.isAboutKind = true → (Step.run ctx r c source target).outcome = .error e →
      ∃ p, c.participants r source target = .ok p ∧ none ∈ Step.needs c.payload p e := by
  refine ⟨fun p hp => ⟨fun g hg => ?_, fun g hg => ?_⟩, fun ctx e he h => ?_⟩
  · exact Command.participants_live hr hp hg
  · exact Command.participants_item hr hp hg
  · exact Step.run_kindError hr he h

/-- A letter in the bags of the player who is here starts a script: it takes the place of the
source, but it cannot sit down. -/
theorem resolved_objects_are_live_letter :
    let letter : Item := { guid := .item 40, entry := 7, owner := .player 1 }
    let c : Command := .plain 1 0 (.standState 1)
    let ctx : StepContext := { catalog := {}, table := "", draw := 0 }
    ∃ r, (({ id := 0 : Region }.addPlayer (.new 1 "" .origin 0)).addItem? letter) = some r ∧
      r.WellKeyed ∧
      (c.participants r (some letter.guid) none = .ok ⟨none, none, some letter.guid⟩ ∧
        ∃ i, r.object? letter.guid = some (.item i) ∧ r.players.contains i.owner = true) ∧
      (Step.run ctx r c (some letter.guid) none).outcome = .error .notCreature ∧
      ∃ p, c.participants r (some letter.guid) none = .ok p ∧
        none ∈ Step.needs c.payload p .notCreature := by
  intro letter c ctx
  have hplayer : ({ id := 0 : Region }.addPlayer (.new 1 "" .origin 0)).WellKeyed :=
    (Region.wellKeyed_empty 0).addPlayer rfl
  refine ⟨_, rfl, ?_⟩
  have hr := hplayer.addItem? (i := letter) rfl rfl
  obtain ⟨hlive, hkinds⟩ := resolved_objects_are_live hr c (some letter.guid) none
  refine ⟨hr, ⟨rfl, ?_⟩, rfl, hkinds ctx .notCreature rfl rfl⟩
  rcases (hlive _ rfl).2 letter.guid rfl with hsource | ⟨-, -, hitem⟩
  · cases hsource
  · exact hitem

end RegionScript
