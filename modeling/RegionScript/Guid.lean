/-!
Identities of live objects.

A guid names the kind of object, the template entry it was made from and a counter. Guids are
ordered by kind, then entry, then counter; that order is the one in which a region walks its
objects.
-/

namespace RegionScript

/-- The kinds of live objects, in the order of their guids. -/
inductive ObjectKind where
  | creature
  | pet
  | player
  | gameObject
  | corpse
  | item
  deriving DecidableEq, Repr, Inhabited

namespace ObjectKind

/-- Place in the order of kinds. -/
def rank : ObjectKind → Nat
  | creature => 0
  | pet => 1
  | player => 2
  | gameObject => 3
  | corpse => 4
  | item => 5

theorem rank_injective : ∀ {a b : ObjectKind}, a.rank = b.rank → a = b := by
  intro a b h; cases a <;> cases b <;> first | rfl | simp [rank] at h

/-- Creatures and pets: the units that no player controls. -/
def isCreature : ObjectKind → Bool
  | creature | pet => true
  | _ => false

/-- Creatures, pets and players. -/
def isUnit : ObjectKind → Bool
  | creature | pet | player => true
  | _ => false

/-- The kinds an event can be anchored at. -/
def isCreatureOrGameObject : ObjectKind → Bool
  | creature | pet | gameObject => true
  | _ => false

end ObjectKind

/-- The identity of a live object. -/
structure Guid where
  kind : ObjectKind
  entry : UInt32
  counter : UInt32
  deriving DecidableEq, Repr, Inhabited

namespace Guid

instance : Ord Guid where
  compare := compareLex (compareOn fun g => g.kind.rank)
    (compareLex (compareOn Guid.entry) (compareOn Guid.counter))

instance : Std.TransOrd Guid :=
  inferInstanceAs (Std.TransCmp (compareLex (compareOn fun g : Guid => g.kind.rank)
    (compareLex (compareOn Guid.entry) (compareOn Guid.counter))))

theorem compare_eq (a b : Guid) :
    compare a b = ((compare a.kind.rank b.kind.rank).then
      ((compare a.entry b.entry).then (compare a.counter b.counter))) := rfl

instance : Std.LawfulEqOrd Guid where
  eq_of_compare {a b} h := by
    rw [compare_eq] at h
    simp only [Ordering.then_eq_eq, Std.LawfulEqOrd.compare_eq_iff_eq] at h
    obtain ⟨hk, he, hc⟩ := h
    have hkind := ObjectKind.rank_injective hk
    cases a; cases b
    simp_all

/-- Players and corpses and items are numbered by their counter alone. -/
def player (counter : UInt32) : Guid := ⟨.player, 0, counter⟩
def item (counter : UInt32) : Guid := ⟨.item, 0, counter⟩
def creature (entry counter : UInt32) : Guid := ⟨.creature, entry, counter⟩
def gameObject (entry counter : UInt32) : Guid := ⟨.gameObject, entry, counter⟩

def isPlayer (g : Guid) : Bool := g.kind = .player
def isCreature (g : Guid) : Bool := g.kind.isCreature
def isUnit (g : Guid) : Bool := g.kind.isUnit
def isGameObject (g : Guid) : Bool := g.kind = .gameObject
def isItem (g : Guid) : Bool := g.kind = .item
def isCreatureOrGameObject (g : Guid) : Bool := g.kind.isCreatureOrGameObject

/-- How messages name the object. -/
def describe (g : Guid) : String :=
  match g.kind with
  | .player => s!"Player (guid {g.counter})"
  | .corpse => s!"Corpse (guid {g.counter})"
  | .item => s!"Item (guid {g.counter})"
  | .creature => s!"Creature (entry {g.entry}, guid {g.counter})"
  | .pet => s!"Pet (entry {g.entry}, guid {g.counter})"
  | .gameObject => s!"GameObject (entry {g.entry}, guid {g.counter})"

end Guid

end RegionScript
