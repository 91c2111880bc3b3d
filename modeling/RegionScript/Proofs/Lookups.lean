import RegionScript.OrderedMap.Lemmas
import RegionScript.Proofs.Readings
import RegionScript.Region.Basic

/-!
Looking objects up in a region.

A guid is looked up in the map of its kind, and in a well-keyed region whatever is found there goes
by that guid.
-/

namespace RegionScript

namespace Region

variable {r : Region} {g : Guid}

/-! ### By the kind of the guid -/

theorem object?_of_isCreature (h : g.isCreature = true) :
    r.object? g = (r.creature? g).map .creature := by
  unfold object?
  cases hkind : g.kind <;> simp_all [Guid.isCreature, ObjectKind.isCreature, creature?]

theorem object?_of_isPlayer (h : g.isPlayer = true) : r.object? g = (r.player? g).map .player := by
  unfold object?
  simp_all [Guid.isPlayer, player?]

theorem object?_of_isGameObject (h : g.isGameObject = true) :
    r.object? g = (r.gameObject? g).map .gameObject := by
  unfold object?
  simp_all [Guid.isGameObject, gameObject?]

/-- Only the guid of an item names an item. -/
theorem isWorldObject_of_object? {o : Object} (h : r.object? g = some o) :
    o.isWorldObject = !g.isItem := by
  unfold object? at h
  cases hkind : g.kind <;> rw [hkind] at h <;>
    obtain ⟨x, -, rfl⟩ := Option.map_eq_some_iff.mp h <;>
    simp [Object.isWorldObject, Guid.isItem, hkind]

/-! ### What is not here -/

theorem object?_eq_none_of_creature? (h : g.isCreature = true) (hnone : r.creature? g = none) :
    r.object? g = none := by
  rw [object?_of_isCreature h, hnone]
  rfl

theorem object?_eq_none_of_contains (h : g.isPlayer = true) (hnone : r.players.contains g = false) :
    r.object? g = none := by
  have hgone : r.player? g = none := by
    unfold player?
    simpa [OrderedMap.contains] using hnone
  rw [object?_of_isPlayer h, hgone]
  rfl

theorem object?_eq_none_of_fields? (hnone : r.fields? g = none) : r.object? g = none :=
  Option.map_eq_none_iff.mp hnone

theorem object?_eq_none_of_unit? (h : g.isUnit = true) (hnone : r.unit? g = none) :
    r.object? g = none := by
  unfold unit? at hnone
  unfold object?
  cases hkind : g.kind <;> simp_all [Guid.isUnit, ObjectKind.isUnit]

/-! ### Well-keyed regions -/

namespace WellKeyed

variable (hr : r.WellKeyed)

include hr

/-- An object is found under its own guid. -/
theorem guid_of_object? {o : Object} (h : r.object? g = some o) : o.guid = g := by
  unfold object? at h
  split at h
  · obtain ⟨c, hc, rfl⟩ := Option.map_eq_some_iff.mp h
    exact (hr.creature g c hc).1
  · obtain ⟨c, hc, rfl⟩ := Option.map_eq_some_iff.mp h
    exact (hr.creature g c hc).1
  · obtain ⟨p, hp, rfl⟩ := Option.map_eq_some_iff.mp h
    exact (hr.player g p hp).1
  · obtain ⟨o, ho, rfl⟩ := Option.map_eq_some_iff.mp h
    exact (hr.gameObject g o ho).1
  · obtain ⟨c, hc, rfl⟩ := Option.map_eq_some_iff.mp h
    exact (hr.corpse g c hc).1
  · obtain ⟨i, hi, rfl⟩ := Option.map_eq_some_iff.mp h
    exact (hr.item g i hi).1

/-- The entry of an object that is no item is in its guid. -/
theorem entry_of_object? {o : Object} (h : r.object? g = some o) (hworld : o.isWorldObject = true) :
    o.entry = g.entry := by
  have hguid := hr.guid_of_object? h
  cases o with
  | item i => cases hworld
  | _ => exact congrArg Guid.entry hguid

theorem object?_of_creature? {c : Creature} (h : r.creature? g = some c) :
    r.object? g = some (.creature c) := by
  rw [object?_of_isCreature (hr.creature g c h).2, h]
  rfl

theorem object?_of_gameObject? {o : GameObject} (h : r.gameObject? g = some o) :
    r.object? g = some (.gameObject o) := by
  have hkind : g.isGameObject = true := by simp [Guid.isGameObject, (hr.gameObject g o h).2]
  rw [object?_of_isGameObject hkind, h]
  rfl

end WellKeyed

/-! ### Filling a region -/

/-- Nothing is misplaced in an empty region. -/
theorem wellKeyed_empty (id : UInt32) : WellKeyed { id := id } where
  creature _ _ h := by cases h
  player _ _ h := by cases h
  gameObject _ _ h := by cases h
  corpse _ _ h := by cases h
  item _ _ h := by cases h

namespace WellKeyed

variable (hr : r.WellKeyed)

include hr

/-- An object goes to the map of its kind. -/
theorem addCreature {c : Creature} (hkind : c.guid.kind.isCreature = true) :
    (r.addCreature c).WellKeyed :=
  { hr with creature := OrderedMap.forall_insert hr.creature ⟨rfl, hkind⟩ }

theorem addPlayer {p : Player} (hkind : p.guid.kind = .player) : (r.addPlayer p).WellKeyed :=
  { hr with player := OrderedMap.forall_insert hr.player ⟨rfl, hkind⟩ }

theorem addGameObject {o : GameObject} (hkind : o.guid.kind = .gameObject) :
    (r.addGameObject o).WellKeyed :=
  { hr with gameObject := OrderedMap.forall_insert hr.gameObject ⟨rfl, hkind⟩ }

/-- An item in a player's bags; the player stays under the same guid. -/
theorem addItem? {i : Item} (hkind : i.guid.kind = .item) {r' : Region}
    (h : r.addItem? i = some r') : r'.WellKeyed := by
  obtain ⟨owner, -, rfl⟩ := Option.map_eq_some_iff.mp h
  exact
    { hr with
      player := OrderedMap.forall_modify hr.player fun _ hp => hp
      item := OrderedMap.forall_insert hr.item ⟨rfl, hkind⟩ }

end WellKeyed

end Region

end RegionScript
