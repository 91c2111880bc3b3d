import RegionScript.Proofs.Nearest
import RegionScript.Proofs.Scripts
import RegionScript.Step.Participants

/-!
What a buddy is.

A buddy is a live object of the entry that its command asks for, however it was found. It is also of
the kind that the command asks for when it was named by its spawn or found by a search. A searcher
that stands in for the buddy is only compared by entry, and creatures and game objects are numbered
apart: so there the kind may be wrong.
-/

namespace RegionScript

namespace Command

variable {c : Command} {r : Region} {source target : Option Guid}

/-- Whether a guid is of the kind that a command looks for. -/
def seeks (c : Command) (g : Guid) : Bool :=
  if c.isCreatureBuddy then g.isCreature else g.isGameObject

/-- A guid names a live object of the entry that a command looks for. -/
def NamesBuddy (c : Command) (r : Region) (g : Guid) : Prop :=
  ∃ o, r.object? g = some o ∧ o.entry = c.buddyEntry

/-- A searcher stands in for the creature that its command looks for and does not find. -/
structure StandsIn (c : Command) (r : Region) (source target : Option Guid) (g : Guid) : Prop where
  searcher : searcher? source target = some g
  byEntry : c.flags.buddyByGuid = false
  creature : c.isCreatureBuddy = true
  alone : c.nearestBuddy r g = none

/-! ### Three ways to find a buddy -/

theorem namesBuddy_of_creature? (hr : r.WellKeyed) {g : Guid} {x : Creature}
    (hx : r.creature? g = some x) (hentry : g.entry = c.buddyEntry) : c.NamesBuddy r g := by
  have hobject := hr.object?_of_creature? hx
  refine ⟨_, hobject, ?_⟩
  rw [hr.entry_of_object? hobject rfl, hentry]

theorem namesBuddy_of_gameObject? (hr : r.WellKeyed) {g : Guid} {o : GameObject}
    (ho : r.gameObject? g = some o) (hentry : g.entry = c.buddyEntry) : c.NamesBuddy r g := by
  have hobject := hr.object?_of_gameObject? ho
  refine ⟨_, hobject, ?_⟩
  rw [hr.entry_of_object? hobject rfl, hentry]

/-- A buddy named by its spawn. -/
theorem buddyByGuid_found (hr : r.WellKeyed) {b : Buddy} (h : c.buddyByGuid r = .ok b) :
    c.NamesBuddy r b.guid ∧ c.seeks b.guid = true := by
  unfold buddyByGuid at h
  cases hcreature : c.isCreatureBuddy with
  | true =>
    rw [hcreature, if_pos rfl] at h
    cases hx : r.creature? (.creature c.buddyEntry c.buddyRadius) with
    | none => simp [hx] at h
    | some x =>
      simp only [hx] at h
      split at h
      · obtain rfl := Except.ok.inj h
        refine ⟨namesBuddy_of_creature? hr hx rfl, ?_⟩
        rw [seeks, hcreature]
        rfl
      · cases h
  | false =>
    rw [hcreature, if_neg Bool.false_ne_true] at h
    cases ho : r.gameObject? (.gameObject c.buddyEntry c.buddyRadius) with
    | none => simp [ho] at h
    | some o =>
      simp only [ho] at h
      obtain rfl := Except.ok.inj h
      have hguid : o.guid = .gameObject c.buddyEntry c.buddyRadius := (hr.gameObject _ o ho).1
      rw [Buddy.guid, hguid]
      refine ⟨namesBuddy_of_gameObject? hr ho rfl, ?_⟩
      rw [seeks, hcreature]
      rfl

/-- A buddy found by a search. -/
theorem nearestBuddy_found (hr : r.WellKeyed) {searcher g : Guid}
    (h : c.nearestBuddy r searcher = some g) : c.NamesBuddy r g ∧ c.seeks g = true := by
  unfold nearestBuddy at h
  cases hcreature : c.isCreatureBuddy with
  | true =>
    rw [hcreature, if_pos rfl] at h
    obtain ⟨x, hx, hentry⟩ := hr.creature?_of_nearestCreature h
    refine ⟨namesBuddy_of_creature? hr hx hentry, ?_⟩
    rw [seeks, hcreature, if_pos rfl]
    exact (hr.creature g x hx).2
  | false =>
    rw [hcreature, if_neg Bool.false_ne_true] at h
    obtain ⟨o, ho, hentry⟩ := hr.gameObject?_of_nearestGameObject h
    refine ⟨namesBuddy_of_gameObject? hr ho hentry, ?_⟩
    rw [seeks, hcreature, if_neg Bool.false_ne_true, Guid.isGameObject, (hr.gameObject g o ho).2]
    rfl

/-- A searcher that stands in for its buddy is of the entry, whatever its kind. -/
theorem isOwnBuddy_iff {searcher : Guid} :
    c.isOwnBuddy r searcher = true ↔ c.isCreatureBuddy = true ∧ c.NamesBuddy r searcher := by
  simp [isOwnBuddy, NamesBuddy, Option.map_eq_some_iff]

/-- A buddy that is looked for by its entry. -/
theorem buddyByEntry_found (hr : r.WellKeyed) (hguid : c.flags.buddyByGuid = false) {b : Buddy}
    (h : c.buddyByEntry r source target = .ok b) :
    c.NamesBuddy r b.guid ∧ (c.seeks b.guid = true ∨ c.StandsIn r source target b.guid) := by
  unfold buddyByEntry at h
  cases hsearcher : searcher? source target with
  | none => simp [hsearcher] at h
  | some s =>
    cases hnear : c.nearestBuddy r s with
    | some g =>
      obtain rfl : Buddy.other g = b := by simpa [hsearcher, hnear] using h
      obtain ⟨hnames, hseeks⟩ := nearestBuddy_found hr hnear
      exact ⟨hnames, .inl hseeks⟩
    | none =>
      cases hown : c.isOwnBuddy r s with
      | false => simp [hsearcher, hnear, hown] at h
      | true =>
        obtain rfl : Buddy.searcher s = b := by simpa [hsearcher, hnear, hown] using h
        obtain ⟨hcreature, hnames⟩ := isOwnBuddy_iff.mp hown
        exact ⟨hnames, .inr ⟨hsearcher, hguid, hcreature, hnear⟩⟩

/-- However it was found, a buddy is a live object of its entry; and it is of its kind, unless the
searcher stands in for it. -/
theorem buddy?_found (hr : r.WellKeyed) {b : Buddy} (h : c.buddy? r source target = .ok (some b)) :
    c.NamesBuddy r b.guid ∧ (c.seeks b.guid = true ∨ c.StandsIn r source target b.guid) := by
  unfold buddy? at h
  split at h
  · cases h
  · split at h
    · obtain ⟨found, hfound, hb⟩ := map_eq_ok_iff.mp h
      obtain rfl := Option.some.inj hb
      obtain ⟨hnames, hseeks⟩ := buddyByGuid_found hr hfound
      exact ⟨hnames, .inl hseeks⟩
    · next hguid =>
      obtain ⟨found, hfound, hb⟩ := map_eq_ok_iff.mp h
      obtain rfl := Option.some.inj hb
      exact buddyByEntry_found hr (Bool.eq_false_iff.mpr hguid) hfound

/-- A command with a buddy entry does not go without a buddy. -/
theorem buddy?_ne_none (hentry : c.buddyEntry ≠ 0) : c.buddy? r source target ≠ .ok none := by
  intro h
  unfold buddy? at h
  rw [if_neg hentry] at h
  split at h
  · obtain ⟨b, -, hb⟩ := map_eq_ok_iff.mp h
    cases hb
  · obtain ⟨b, -, hb⟩ := map_eq_ok_iff.mp h
    cases hb

/-! ### In a step -/

/-- The buddy that a step puts in the place of its target or its source is a live object of the
entry that the command asks for. It is also of the kind that the command asks for, unless the one
who searched stands in for a creature that was not found. -/
theorem wired_buddy_is_sought (hr : r.WellKeyed) (hentry : c.buddyEntry ≠ 0)
    {wired : Option Guid × Option Guid} (h : c.sourceAndTarget r source target = .ok wired) :
    ∃ g,
      wired = c.flags.selfTarget (c.flags.orient
        (if c.flags.buddyAsTarget then (source, some g) else (some g, target))) ∧
      (∃ o, r.object? g = some o ∧ o.entry = c.buddyEntry) ∧
      (c.seeks g = false → c.StandsIn r source target g) := by
  obtain ⟨found, hfound, rfl⟩ := map_eq_ok_iff.mp h
  cases found with
  | none => exact absurd hfound (buddy?_ne_none hentry)
  | some b =>
    obtain ⟨hnames, hkind⟩ := buddy?_found hr hfound
    refine ⟨b.guid, rfl, hnames, fun hother => hkind.resolve_left ?_⟩
    rw [hother]
    exact Bool.false_ne_true

/-- A guard that is named by its spawn becomes the target, and the source after the exchange. -/
theorem wired_buddy_is_sought_guard :
    let r := { id := 0 : Region }.addCreature (.spawn (.creature 12 7) .origin 7 30)
    let flags : StepFlags :=
      { buddyAsTarget := true, reverseDirection := true, buddyByGuid := true }
    let c : Command := { plain 1 0 (.setRun true) with buddyEntry := 12, buddyRadius := 7, flags }
    r.WellKeyed ∧ c.buddyEntry ≠ 0 ∧
      c.sourceAndTarget r none none = .ok (some (.creature 12 7), none) ∧
      ∃ g, (some (.creature 12 7), none) = c.flags.selfTarget (c.flags.orient (none, some g)) ∧
        (∃ o, r.object? g = some o ∧ o.entry = c.buddyEntry) ∧
        (c.seeks g = false → c.StandsIn r none none g) := by
  intro r flags c
  have hkeyed : r.WellKeyed := (Region.wellKeyed_empty 0).addCreature rfl
  have hentry : c.buddyEntry ≠ 0 := by decide
  have hwired : c.sourceAndTarget r none none = .ok (some (.creature 12 7), none) := rfl
  exact ⟨hkeyed, hentry, hwired, wired_buddy_is_sought hkeyed hentry hwired⟩

/-- A game object of entry 12 that stands alone. -/
def fountain : GameObject := { guid := .gameObject 12 1, type := .generic, position := .origin }

/-- Lets a creature of entry 12 run. -/
def runningBuddy : Command :=
  { plain 1 0 (.setRun true) with buddyEntry := 12, buddyRadius := 5 }

/-- A command that looks for a creature gets a game object, because the object that searches has the
same entry number. -/
theorem game_object_passes_for_creature :
    let r := { id := 0 : Region }.addGameObject fountain
    let g := fountain.guid
    r.WellKeyed ∧ runningBuddy.buddyEntry ≠ 0 ∧ runningBuddy.isCreatureBuddy = true ∧
      r.object? g = some (.gameObject fountain) ∧
      runningBuddy.sourceAndTarget r (some g) none = .ok (some g, none) ∧ g.isCreature = false := by
  intro r g
  have hkeyed : r.WellKeyed := (Region.wellKeyed_empty 0).addGameObject rfl
  exact ⟨hkeyed, by decide, rfl, rfl, rfl, rfl⟩

end Command

end RegionScript
