/-!
Single-precision numbers as the data files, the clockless geometry and the script rows carry them.

A value is its 32-bit pattern, so that equality is decidable and a stored row comes back bit for
bit. Arithmetic rounds after every operation, to nearest with ties to even. What only needs the
sign, the exponent or the order of magnitude is read off the pattern.
-/

namespace RegionScript

/-- A binary32 number, given by its bit pattern. -/
structure Single where
  bits : UInt32
  deriving DecidableEq, Inhabited, Repr

namespace Single

/-- The number with the machine's arithmetic on it. -/
def toFloat (x : Single) : Float32 := Float32.ofBits x.bits

def ofFloat (x : Float32) : Single := ⟨x.toBits⟩

/-- The single nearest to a word. -/
def ofUInt32 (n : UInt32) : Single := ofFloat n.toFloat32

/-- The single nearest to a double; too large a double becomes infinite. -/
def ofDouble (x : Float) : Single := ofFloat x.toFloat32

def zero : Single := ⟨0⟩
def half : Single := ⟨0x3f000000⟩

/-- One hundredth, rounded to a single. -/
def hundredth : Single := ⟨0x3c23d70a⟩

instance : Add Single := ⟨fun a b => ofFloat (a.toFloat + b.toFloat)⟩
instance : Sub Single := ⟨fun a b => ofFloat (a.toFloat - b.toFloat)⟩
instance : Mul Single := ⟨fun a b => ofFloat (a.toFloat * b.toFloat)⟩

def sqrt (x : Single) : Single := ofFloat x.toFloat.sqrt

/-- The pattern without the sign. -/
def magnitude (x : Single) : UInt32 := x.bits &&& 0x7fffffff

def isNegative (x : Single) : Bool := x.bits &&& 0x80000000 ≠ 0

/-- Whether the number is zero of either sign. -/
def isZero (x : Single) : Bool := x.magnitude = 0

/-- Infinities and NaNs have the largest exponent. -/
def isFinite (x : Single) : Bool := x.magnitude < 0x7f800000

def isNaN (x : Single) : Bool := 0x7f800000 < x.magnitude

def abs (x : Single) : Single := ⟨x.magnitude⟩

/-- The order of numbers: false as soon as one side is NaN, and the two zeros are equal. -/
def le (a b : Single) : Bool := a.toFloat ≤ b.toFloat

/-- The strict order of numbers. -/
def lt (a b : Single) : Bool := a.toFloat < b.toFloat

/-- The number, or zero where it is negative or NaN. -/
def orZero (x : Single) : Single := if lt zero x then x else zero

/-- Position in the total order of all patterns: negative NaN, negative numbers, -0, +0, positive
numbers, positive NaN. -/
def rank (x : Single) : Int :=
  if x.isNegative then -(x.magnitude.toNat : Int) - 1 else x.magnitude.toNat

end Single

end RegionScript
