import RegionScript.Region.Basic

/-!
Nearest objects around a searcher.

Distances are from edge to edge and never negative. Among the candidates in range the smallest
distance wins, and of equal distances the smallest guid.
-/

namespace RegionScript

/-- Which creatures a search sees: pets are not part of the grid. -/
inductive SearchScope where
  | grid
  | world
  deriving DecidableEq, Repr

/-- Edge-to-edge distance of two bodies. -/
def gap (a : Position) (aRadius : Single) (b : Position) (bRadius : Single) : Single :=
  (a.distance b - aRadius - bRadius).orZero

/-- The entry with the smallest distance, the first of equals. -/
def nearest : List (Single × Guid) → Option (Single × Guid)
  | [] => none
  | x :: rest =>
    match nearest rest with
    | none => some x
    | some y => if y.1.rank < x.1.rank then some y else some x

namespace Region

/-- Where a search starts from: the place and the radius of an object in the world. -/
def searchOrigin? (r : Region) (searcher : Guid) : Option (Position × Single) := do
  let o ← r.object? searcher
  some (← o.position?, o.boundingRadius)

/-- The creatures that a search for an entry may find, with their distances. -/
def creatureCandidates (r : Region) (searcher : Guid) (entry : UInt32) (scope : SearchScope)
    (origin : Position × Single) : List (Single × Guid) :=
  (r.creatures.values.filter fun c =>
      c.guid ≠ searcher && c.guid.entry = entry && c.unit.alive && (scope = .world || !c.isPet)).map
    fun c => (gap origin.1 origin.2 c.unit.position c.unit.boundingRadius, c.guid)

/-- The nearest living creature of an entry within a radius, the searcher excluded. -/
def nearestCreature (r : Region) (searcher : Guid) (entry : UInt32) (radius : Single)
    (scope : SearchScope) : Option Guid := do
  let origin ← r.searchOrigin? searcher
  let inRange := (r.creatureCandidates searcher entry scope origin).filter (·.1.le radius)
  (nearest inRange).map (·.2)

/-- The game objects of an entry, with their distances. -/
def gameObjectCandidates (r : Region) (searcher : Guid) (entry : UInt32)
    (origin : Position × Single) : List (Single × Guid) :=
  (r.gameObjects.values.filter fun o => o.guid ≠ searcher && o.guid.entry = entry).map
    fun o => (gap origin.1 origin.2 o.position .zero, o.guid)

/-- The nearest game object of an entry within a radius, spawned or not. -/
def nearestGameObject (r : Region) (searcher : Guid) (entry : UInt32) (radius : Single) :
    Option Guid := do
  let origin ← r.searchOrigin? searcher
  let inRange := (r.gameObjectCandidates searcher entry origin).filter (·.1.le radius)
  (nearest inRange).map (·.2)

end Region

/-- Whether two objects are within a distance of each other; items are near nothing. -/
def Object.isWithin (a b : Object) (distance : Single) : Bool :=
  match a.position?, b.position? with
  | some p, some q => (gap p a.boundingRadius q b.boundingRadius).le distance
  | _, _ => false

end RegionScript
