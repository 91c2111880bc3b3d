/-!
Where the numbers of rows come from.

A store needs no more of its row numbers than that each is greater than those before it, also when
the store was closed and opened again in between. `Numbering` says this of any source of numbers.

`Blocks` is the source of the stores on disk. It counts up, and keeps on disk only where the block
of its last number begins; a store that is opened again goes on behind that block, with a block
between them.
-/

namespace RegionScript

/-- A source of ascending numbers. -/
class Numbering (ν : Type) where
  /-- The source of a new store. -/
  start : ν
  /-- The number that is given next. -/
  next : ν → Nat
  /-- The source after the next number is given. -/
  given : ν → ν
  /-- The source after the store is opened again. -/
  reopened : ν → ν
  next_lt_given (numbers : ν) : next numbers < next (given numbers)
  next_le_reopened (numbers : ν) : next numbers ≤ next (reopened numbers)

/-- How many numbers make a block. -/
def Blocks.size : Nat := 1000000

/-- Numbers that count up; the next one is not beyond the block that would come next but one. -/
structure Blocks where
  next : Nat
  /-- The first number of the block that the last number is from. -/
  block : Nat
  next_le : next ≤ block + 2 * Blocks.size

namespace Blocks

/-- Numbers that go on behind a block. -/
def behind (block : Nat) : Blocks := ⟨block + 2 * size, block, Nat.le_refl _⟩

instance : Numbering Blocks where
  start := ⟨0, 0, Nat.zero_le _⟩
  next b := b.next
  given b := ⟨b.next + 1, b.next / size * size, by unfold size; omega⟩
  reopened b := behind b.block
  next_lt_given b := Nat.lt_succ_self b.next
  next_le_reopened b := b.next_le

end Blocks

end RegionScript
