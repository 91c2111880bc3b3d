import RegionScript.Single

/-!
Points of a map with a facing, and the distances between them.
-/

namespace RegionScript

/-- A point and an orientation. -/
structure Position where
  x : Single
  y : Single
  z : Single
  o : Single
  deriving DecidableEq, Inhabited, Repr

namespace Position

/-- The origin, facing along the first axis. -/
def origin : Position := ⟨.zero, .zero, .zero, .zero⟩

/-- Half the side of a map. -/
def mapHalfSize : Single := ⟨1183143253⟩

/-- Greatest height above or below the ground plane. -/
def maxHeight : Single := ⟨1203982336⟩

/-- Straight-line distance. -/
def distance (a b : Position) : Single :=
  let dx := a.x - b.x
  let dy := a.y - b.y
  let dz := a.z - b.z
  (dx * dx + dy * dy + dz * dz).sqrt

/-- Whether the point is the origin, whatever the facing. -/
def isOrigin (p : Position) : Bool := p.x.isZero && p.y.isZero && p.z.isZero

/-- A coordinate inside the map square, half a unit away from its edge. -/
def isPlanar (c : Single) : Bool := c.isFinite && Single.le c.abs (mapHalfSize - .half)

/-- Finite and inside the playable map square. -/
def isOnMap (p : Position) : Bool :=
  isPlanar p.x && isPlanar p.y && p.z.isFinite && Single.le p.z.abs maxHeight && p.o.isFinite

end Position

end RegionScript
