import RegionScript.Proofs.Sights
import RegionScript.Step.Participants

/-!
Game objects that change in their places.

A step looks for its objects by their guids and by where they stand. So it finds the same ones after
game objects have changed that are where they were under the guids that they had: when a door is
opened, say.
-/

namespace RegionScript

/-- An object after a change to game objects. -/
def Object.refit (f : GameObject → GameObject) : Object → Object
  | .gameObject o => .gameObject (f o)
  | o => o

/-- Changes every game object. -/
def Region.refit (r : Region) (f : GameObject → GameObject) : Region :=
  { r with gameObjects := r.gameObjects.map fun _ o => f o }

variable {f : GameObject → GameObject} {r : Region} {c : Command} {source target : Option Guid}

/-! ### What is looked up -/

theorem Region.gameObject?_refit (g : Guid) : (r.refit f).gameObject? g = (r.gameObject? g).map f :=
  OrderedMap.get?_map r.gameObjects _ g

theorem Region.object?_refit (g : Guid) :
    (r.refit f).object? g = (r.object? g).map (Object.refit f) := by
  unfold object? refit
  cases g.kind with
  | gameObject =>
    simp only [OrderedMap.get?_map, Option.map_map]
    rfl
  | _ =>
    simp only [Option.map_map]
    rfl

theorem filter_refit {p : Object → Bool} (hp : ∀ o, p (Object.refit f o) = p o)
    (o : Option Object) :
    (o.map (Object.refit f)).filter p = (o.filter p).map (Object.refit f) := by
  cases o with
  | none => rfl
  | some o =>
    rw [Option.map_some, Option.filter_some, Option.filter_some, hp]
    split <;> rfl

theorem Object.isWorldObject_refit (o : Object) : (o.refit f).isWorldObject = o.isWorldObject := by
  cases o <;> rfl

namespace Command

theorem starter?_refit :
    starter? (r.refit f) source = (starter? r source).map (Object.refit f) := by
  have hbind : source.bind (r.refit f).object? = (source.bind r.object?).map (Object.refit f) := by
    cases source with
    | none => rfl
    | some g => exact Region.object?_refit g
  unfold starter?
  rw [hbind]
  exact filter_refit (fun o => by cases o <;> rfl) _

theorem goal?_refit :
    goal? (r.refit f) target = (goal? r target).map (Option.map (Object.refit f)) := by
  cases target with
  | none => rfl
  | some g =>
    unfold goal?
    dsimp only
    rw [Region.object?_refit]
    split <;> rfl

end Command

/-! ### Under the same guids -/

section Guids

variable (hguid : ∀ o, (f o).guid = o.guid)

include hguid

theorem Object.guid_comp_refit : Object.guid ∘ Object.refit f = Object.guid := by
  funext o
  cases o with
  | gameObject o => exact hguid o
  | _ => rfl

theorem Object.entry_comp_refit : Object.entry ∘ Object.refit f = Object.entry := by
  funext o
  cases o with
  | gameObject o => exact congrArg Guid.entry (hguid o)
  | _ => rfl

theorem guid_filter_refit {p : Object → Bool} (hp : ∀ o, p (Object.refit f o) = p o)
    (o : Option Object) :
    ((o.map (Object.refit f)).filter p).map Object.guid = (o.filter p).map Object.guid := by
  rw [filter_refit hp, Option.map_map, Object.guid_comp_refit hguid]

theorem Region.WellKeyed.refit (hr : r.WellKeyed) : (r.refit f).WellKeyed where
  creature := hr.creature
  player := hr.player
  gameObject g o h := by
    obtain ⟨before, hbefore, rfl⟩ := Option.map_eq_some_iff.mp ((gameObject?_refit g).symm.trans h)
    rw [hguid]
    exact hr.gameObject g before hbefore
  corpse := hr.corpse
  item := hr.item

theorem Command.buddyByGuid_refit : c.buddyByGuid (r.refit f) = c.buddyByGuid r := by
  unfold buddyByGuid
  rw [Region.gameObject?_refit]
  split
  · rfl
  · cases r.gameObject? (.gameObject c.buddyEntry c.buddyRadius) with
    | none => rfl
    | some o => exact congrArg (fun g => Except.ok (Buddy.other g)) (hguid o)

end Guids

/-! ### In the same places -/

section Places

variable (hguid : ∀ o, (f o).guid = o.guid) (hposition : ∀ o, (f o).position = o.position)

include hguid hposition

theorem Region.sights_refit : (r.refit f).sights = r.sights := by
  have hsame : (r.gameObjects.map fun _ o => f o).map (fun _ o => (o.guid, o.position)) =
      r.gameObjects.map fun _ o => (o.guid, o.position) := by
    rw [OrderedMap.map_map]
    simp only [hguid, hposition]
  exact congrArg (fun m => { r.sights with gameObjects := m }) hsame

namespace Command

theorem buddyByEntry_refit :
    c.buddyByEntry (r.refit f) source target = c.buddyByEntry r source target := by
  have hsights := Region.sights_refit (r := r) hguid hposition
  have hnearest : c.nearestBuddy (r.refit f) = c.nearestBuddy r := by
    funext g
    unfold nearestBuddy
    rw [Region.nearestCreature_congr hsights, Region.nearestGameObject_congr hsights]
  have hown : c.isOwnBuddy (r.refit f) = c.isOwnBuddy r := by
    funext g
    unfold isOwnBuddy
    rw [Region.object?_refit, Option.map_map, Object.entry_comp_refit hguid]
  unfold buddyByEntry
  rw [hnearest, hown]

theorem buddy?_refit : c.buddy? (r.refit f) source target = c.buddy? r source target := by
  unfold buddy?
  rw [buddyByGuid_refit hguid, buddyByEntry_refit hguid hposition]

/-- A step has the same objects after such a change. -/
theorem participants_refit :
    c.participants (r.refit f) source target = c.participants r source target := by
  have hworld : ∀ o, worldGuid? (o.map (Object.refit f)) = worldGuid? o :=
    guid_filter_refit hguid Object.isWorldObject_refit
  have hitem : ∀ o : Option Object,
      ((o.map (Object.refit f)).filter (!·.isWorldObject)).map Object.guid =
        (o.filter (!·.isWorldObject)).map Object.guid :=
    guid_filter_refit hguid fun o => congrArg not (Object.isWorldObject_refit o)
  unfold participants
  rw [goal?_refit, starter?_refit]
  cases goal? r target with
  | error e => rfl
  | ok goal =>
    simp only [Except.map, sourceAndTarget, hworld, hitem, buddy?_refit hguid hposition]

end Command

end Places

end RegionScript
