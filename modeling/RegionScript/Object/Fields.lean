/-!
Numbered update fields, the raw words every live object carries.

The number of fields is fixed when an object is made: writing outside it changes nothing and reading
outside it gives zero.
-/

namespace RegionScript

/-- The update fields of one object. -/
structure Fields where
  slots : Array UInt32
  deriving DecidableEq

namespace Fields

/-- Fields up to this one make up the header, which scripts never write. -/
def headerLast : UInt32 := 3

/-- Field counts of the object kinds. -/
def objectEnd : UInt32 := 6
def itemEnd : UInt32 := objectEnd + 42
def gameObjectEnd : UInt32 := objectEnd + 18
def unitEnd : UInt32 := objectEnd + 182
def playerEnd : UInt32 := unitEnd + 1094

/-- Fields the engine itself reads or writes. -/
def gameObjectFlags : UInt32 := objectEnd + 3
def npcFlags : UInt32 := objectEnd + 141
def playerFlags : UInt32 := unitEnd + 2

/-- Bits in those fields. -/
def lockedFlag : UInt32 := 0x2
def noInteractFlag : UInt32 := 0x10
def xpDisabledFlag : UInt32 := 0x02000000

/-- `count` fields, all zero. -/
def zeros (count : UInt32) : Fields := ⟨Array.replicate count.toNat 0⟩

def count (f : Fields) : Nat := f.slots.size

def get (f : Fields) (field : UInt32) : UInt32 := f.slots.getD field.toNat 0

def set (f : Fields) (field value : UInt32) : Fields :=
  ⟨f.slots.setIfInBounds field.toNat value⟩

/-- Raises the bits of `flag`. -/
def setFlag (f : Fields) (field flag : UInt32) : Fields := f.set field (f.get field ||| flag)

/-- Clears the bits of `flag`. -/
def removeFlag (f : Fields) (field flag : UInt32) : Fields := f.set field (f.get field &&& ~~~flag)

/-- Whether any bit of `flag` is raised. -/
def hasFlag (f : Fields) (field flag : UInt32) : Bool := f.get field &&& flag ≠ 0

@[simp] theorem count_set (f : Fields) (i v : UInt32) : (f.set i v).count = f.count := by
  simp [set, count]

theorem get_set (f : Fields) (i j v : UInt32) :
    (f.set i v).get j = if i = j ∧ i.toNat < f.count then v else f.get j := by
  unfold set get count
  by_cases h : i = j
  · subst h
    by_cases hi : i.toNat < f.slots.size <;> simp [Array.getD_eq_getD_getElem?, hi]
  · have hne : i.toNat ≠ j.toNat := fun e => h (UInt32.toNat_inj.mp e)
    simp [Array.getD_eq_getD_getElem?, h, Array.getElem?_setIfInBounds_ne hne]

end Fields

end RegionScript
