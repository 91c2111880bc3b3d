import Mathlib.Data.List.Nodup
import RegionScript.Proofs.Entries
import RegionScript.Region.Scene
import RegionScript.Region.Search

/-!
What searches see of a region.

A search looks at no more of an object than its guid, where it stands, how wide it is and whether it
lives. Whatever leaves these as they are does not matter to a search, and neither does the order in
which objects of different guids were added.
-/

namespace RegionScript

/-- What searches see; items they do not. -/
structure Sights where
  creatures : OrderedMap Guid (Guid × UnitState)
  players : OrderedMap Guid UnitState
  gameObjects : OrderedMap Guid (Guid × Position)
  corpses : OrderedMap Guid Position

namespace Region

variable {r r' : Region}

/-- What searches see of a region. -/
def sights (r : Region) : Sights where
  creatures := r.creatures.map fun _ c => (c.guid, c.unit)
  players := r.players.map fun _ p => p.unit
  gameObjects := r.gameObjects.map fun _ o => (o.guid, o.position)
  corpses := r.corpses.map fun _ c => c.position

/-! ### Searches see no more -/

theorem searchOrigin?_eq (r : Region) (g : Guid) :
    r.searchOrigin? g =
      match g.kind with
      | .creature | .pet =>
        (r.sights.creatures.get? g).map fun c => (c.2.position, c.2.boundingRadius)
      | .player => (r.sights.players.get? g).map fun u => (u.position, u.boundingRadius)
      | .gameObject => (r.sights.gameObjects.get? g).map fun o => (o.2, .zero)
      | .corpse => (r.sights.corpses.get? g).map fun p => (p, .zero)
      | .item => none := by
  unfold searchOrigin? object? sights
  simp only [OrderedMap.get?_map]
  cases g.kind with
  | creature | pet => cases r.creatures.get? g <;> rfl
  | player => cases r.players.get? g <;> rfl
  | gameObject => cases r.gameObjects.get? g <;> rfl
  | corpse => cases r.corpses.get? g <;> rfl
  | item => cases r.items.get? g <;> rfl

theorem creatureCandidates_eq (r : Region) (searcher : Guid) (entry : UInt32) (scope : SearchScope)
    (origin : Position × Single) :
    r.creatureCandidates searcher entry scope origin =
      (r.sights.creatures.values.filter fun c => c.1 ≠ searcher && c.1.entry = entry && c.2.alive &&
        (scope = .world || !decide (c.1.kind = .pet))).map
          fun c => (gap origin.1 origin.2 c.2.position c.2.boundingRadius, c.1) := by
  unfold creatureCandidates sights
  simp only [OrderedMap.values_map, List.filter_map, List.map_map]
  rfl

theorem gameObjectCandidates_eq (r : Region) (searcher : Guid) (entry : UInt32)
    (origin : Position × Single) :
    r.gameObjectCandidates searcher entry origin =
      (r.sights.gameObjects.values.filter fun o => o.1 ≠ searcher && o.1.entry = entry).map
        fun o => (gap origin.1 origin.2 o.2 .zero, o.1) := by
  unfold gameObjectCandidates sights
  simp only [OrderedMap.values_map, List.filter_map, List.map_map]
  rfl

/-- Regions that look alike give the same creature. -/
theorem nearestCreature_congr (h : r.sights = r'.sights) :
    r.nearestCreature = r'.nearestCreature := by
  funext searcher entry radius scope
  unfold nearestCreature
  simp only [searchOrigin?_eq, creatureCandidates_eq, h]

/-- Regions that look alike give the same game object. -/
theorem nearestGameObject_congr (h : r.sights = r'.sights) :
    r.nearestGameObject = r'.nearestGameObject := by
  funext searcher entry radius
  unfold nearestGameObject
  simp only [searchOrigin?_eq, gameObjectCandidates_eq, h]

end Region

/-! ### Adding objects -/

/-- What is seen after an object was added. -/
def Sights.add (v : Sights) : Object → Sights
  | .creature c => { v with creatures := v.creatures.insert c.guid (c.guid, c.unit) }
  | .player p => { v with players := v.players.insert p.guid p.unit }
  | .gameObject o => { v with gameObjects := v.gameObjects.insert o.guid (o.guid, o.position) }
  | .corpse c => { v with corpses := v.corpses.insert c.guid c.position }
  | .item _ => v

/-- Objects of different guids may be added in either order. -/
theorem Sights.add_comm (v : Sights) {a b : Object} (h : a.guid ≠ b.guid) :
    (v.add a).add b = (v.add b).add a := by
  -- only objects of one kind are kept in the same map
  cases a with
  | creature c =>
    cases b with
    | creature c' =>
      have hcreatures := OrderedMap.insert_comm v.creatures h (c.guid, c.unit) (c'.guid, c'.unit)
      exact congrArg (fun m => { v with creatures := m }) hcreatures
    | _ => rfl
  | player p =>
    cases b with
    | player p' =>
      have hplayers := OrderedMap.insert_comm v.players h p.unit p'.unit
      exact congrArg (fun m => { v with players := m }) hplayers
    | _ => rfl
  | gameObject o =>
    cases b with
    | gameObject o' =>
      have hgameObjects :=
        OrderedMap.insert_comm v.gameObjects h (o.guid, o.position) (o'.guid, o'.position)
      exact congrArg (fun m => { v with gameObjects := m }) hgameObjects
    | _ => rfl
  | corpse c =>
    cases b with
    | corpse c' =>
      have hcorpses := OrderedMap.insert_comm v.corpses h c.position c'.position
      exact congrArg (fun m => { v with corpses := m }) hcorpses
    | _ => rfl
  | item i => rfl

namespace Scene

/-- An item goes into the bags of its owner, who looks the same with it. -/
theorem sights_place (r : Region) (o : Object) : (place r o).sights = r.sights.add o := by
  cases o with
  | creature c =>
    have hcreatures := OrderedMap.map_insert r.creatures c.guid c fun _ c => (c.guid, c.unit)
    exact congrArg (fun m => { r.sights with creatures := m }) hcreatures
  | player p =>
    have hplayers := OrderedMap.map_insert r.players p.guid p fun _ p => p.unit
    exact congrArg (fun m => { r.sights with players := m }) hplayers
  | gameObject o =>
    have hgameObjects :=
      OrderedMap.map_insert r.gameObjects o.guid o fun _ o => (o.guid, o.position)
    exact congrArg (fun m => { r.sights with gameObjects := m }) hgameObjects
  | corpse c =>
    have hcorpses := OrderedMap.map_insert r.corpses c.guid c fun _ c => c.position
    exact congrArg (fun m => { r.sights with corpses := m }) hcorpses
  | item i =>
    unfold place place? Region.addItem?
    dsimp only
    cases r.player? i.owner with
    | none => rfl
    | some owner =>
      have hplayers := OrderedMap.map_modify r.players i.owner (f := fun p => p.addItems i.entry 1)
        (p := fun p => p.unit) fun _ => rfl
      exact congrArg (fun m => { r.sights with players := m }) hplayers

theorem sights_foldl_place (objects : List Object) (r : Region) :
    (objects.foldl place r).sights = objects.foldl Sights.add r.sights := by
  induction objects generalizing r with
  | nil => rfl
  | cons o rest ih => rw [List.foldl_cons, ih, sights_place, List.foldl_cons]

/-- A region looks the same in whatever order objects of different guids were added. -/
theorem sights_of_perm {objects objects' : List Object} (h : objects.Perm objects')
    (hnodup : (objects.map Object.guid).Nodup) (r : Region) :
    (objects.foldl place r).sights = (objects'.foldl place r).sights := by
  rw [sights_foldl_place, sights_foldl_place]
  refine h.foldl_eq' (fun a ha b hb v => ?_) r.sights
  by_cases hab : a = b
  · rw [hab]
  · exact v.add_comm fun hguid => hab (List.inj_on_of_nodup_map hnodup ha hb hguid)

end Scene

end RegionScript
