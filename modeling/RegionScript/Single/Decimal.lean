import RegionScript.Single

/-!
The shortest decimal text that reads back as a given single.

The numbers that round to a finite single form an interval around it, with its ends when the
mantissa is even. On the grids of one, two, three … significant digits, the first grid with a point
in that interval gives the digits, and of two such points the nearer; of two equally near, the
larger. The text is positional: no exponent, no point after a whole number.
-/

namespace RegionScript.Single

/-- A positive number as `mantissa * 2 ^ exponent`, scaled to a fraction whose denominator also
divides the two midpoints to its neighbours. -/
structure Interval where
  value : Nat
  low : Nat
  high : Nat
  denominator : Nat
  closed : Bool

/-- The numbers that round to the single with the given non-zero finite magnitude. -/
def interval (magnitude : UInt32) : Interval :=
  let field := (magnitude >>> 23).toNat
  let fraction := (magnitude &&& 0x7fffff).toNat
  let mantissa := if field = 0 then fraction else fraction + 0x800000
  -- In units of a quarter of the last place; the exponent is offset by 151 to stay natural.
  let scale := Nat.pow 2 (max field 1 - 1)
  let below := if fraction = 0 ∧ 1 < field then 1 else 2
  { value := 4 * mantissa * scale
    low := (4 * mantissa - below) * scale
    high := (4 * mantissa + 2) * scale
    denominator := Nat.pow 2 151
    closed := mantissa % 2 = 0 }

/-- Decimal exponent of the leading digit of `n / d`. -/
def leadingExponent (n d : Nat) : Int :=
  if d ≤ n then ((Nat.toDigits 10 (n / d)).length : Int) - 1
  else -(((List.range 60).find? fun j => d ≤ n * Nat.pow 10 j).getD 0 : Int)

/-- The point of the grid of multiples of `10 ^ e` that represents the interval, if one lies in it.
-/
def Interval.gridPoint (i : Interval) (e : Int) : Option Nat :=
  -- All three bounds and the grid step over one denominator.
  let up := Nat.pow 10 (-e).toNat
  let step := i.denominator * Nat.pow 10 e.toNat
  let inside (k : Nat) : Bool :=
    if i.closed then i.low * up ≤ k * step ∧ k * step ≤ i.high * up
    else i.low * up < k * step ∧ k * step < i.high * up
  let floor := i.value * up / step
  let nearer := if 2 * (i.value * up - floor * step) < step then floor else floor + 1
  let farther := if nearer = floor then floor + 1 else floor
  if inside nearer then some nearer else if inside farther then some farther else none

/-- Shortest digits and decimal exponent of the last one; nine digits always suffice. -/
def Interval.shortest (i : Interval) : Nat × Int :=
  let lead := leadingExponent i.value i.denominator
  ((List.range 9).findSome? fun (k : Nat) =>
    (i.gridPoint (lead - (k : Int))).map fun d => (d, lead - (k : Int))).getD (0, 0)

/-- Positional text of `digits * 10 ^ e`. -/
def positional (digits : Nat) (e : Int) : String :=
  if 0 ≤ e then toString (digits * Nat.pow 10 e.toNat)
  else
    let places := (-e).toNat
    let ds := Nat.toDigits 10 digits
    let padded := List.replicate (places + 1 - ds.length) '0' ++ ds
    let whole := padded.take (padded.length - places)
    let rest := ((padded.drop (padded.length - places)).reverse.dropWhile (· = '0')).reverse
    String.ofList (if rest.isEmpty then whole else whole ++ '.' :: rest)

/-- The text of a single in a message. -/
def toText (x : Single) : String :=
  if x.isNaN then "NaN"
  else
    let sign := if x.isNegative then "-" else ""
    if !x.isFinite then sign ++ "inf"
    else if x.isZero then sign ++ "0"
    else
      let (digits, e) := (interval x.magnitude).shortest
      sign ++ positional digits e

end RegionScript.Single
