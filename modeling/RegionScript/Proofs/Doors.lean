import Mathlib.Algebra.Group.Nat.Defs
import RegionScript.Proofs.CommandObject
import RegionScript.Proofs.Refits
import RegionScript.Proofs.Turnover

/-!
Opening and closing doors.

A door command names a door and the state that it is to have. It uses the door, and the button in
the target with it, only if the door is in the other state; so a second command that asks for the
same finds nothing left to do.
-/

namespace RegionScript

/-- Brings a door to a state: an open door is active, a closed one ready. -/
def Payload.door (state : UseState) (spawn delay : UInt32) : Payload :=
  match state with
  | .active => .openDoor spawn delay
  | .ready => .closeDoor spawn delay

/-! ### Using game objects -/

/-- A game object after it was used: toggled, and to be as before when it is due. -/
def GameObject.used (o : GameObject) (due : UInt64) : GameObject :=
  { o with state := o.state.toggle, reset := some ⟨due, o.state⟩ }

theorem UseState.toggle_eq_of_ne {s s' : UseState} (h : s ≠ s') : s.toggle = s' := by
  cases s <;> cases s' <;> first | rfl | exact absurd rfl h

namespace Region

variable {r : Region} {g : Guid} {o : GameObject} {due : UInt64}

/-- What becomes of a game object when some are used. -/
def usedIn (objects : List GameObject) (due : UInt64) (o : GameObject) : GameObject :=
  if o ∈ objects then o.used due else o

theorem guid_usedIn (objects : List GameObject) (due : UInt64) (o : GameObject) :
    (usedIn objects due o).guid = o.guid := by
  unfold usedIn
  split <;> rfl

theorem position_usedIn (objects : List GameObject) (due : UInt64) (o : GameObject) :
    (usedIn objects due o).position = o.position := by
  unfold usedIn
  split <;> rfl

/-- A region in which some game objects were used, one after the other, and nothing else
happened. -/
def used (r : Region) (due : UInt64) (objects : List GameObject) : Region :=
  { r.refit (usedIn objects due) with
    events := r.events ++ objects.map fun o => .doorOrButtonUsed o.guid o.state.toggle }

theorem gameObject?_used (objects : List GameObject) (g : Guid) :
    (r.used due objects).gameObject? g = (r.gameObject? g).map (usedIn objects due) :=
  gameObject?_refit g

theorem WellKeyed.used (hr : r.WellKeyed) (due : UInt64) (objects : List GameObject) :
    (r.used due objects).WellKeyed :=
  have hrefit := hr.refit (guid_usedIn objects due)
  ⟨hrefit.creature, hrefit.player, hrefit.gameObject, hrefit.corpse, hrefit.item⟩

end Region

namespace Step

variable {ctx ctx' : StepContext} {r : Region} {c : Command} {p : Participants} {state : UseState}
  {spawn delay : UInt32} {source target : Option Guid}

/-- A command finds the door that it names: its participants are found, and among the game objects
in the region there is a door by the guid that is named. -/
structure FindsDoor (catalog : Catalog) (r : Region) (c : Command) (source target : Option Guid)
    (spawn : UInt32) (p : Participants) (g : Guid) (door : GameObject) : Prop where
  participants : c.participants r source target = .ok p
  named : NamesObject catalog p spawn g
  here : r.gameObject? g = some door
  type : door.type = .door

/-! ### One door command -/

section Found

variable {g : Guid} {door : GameObject} (hg : commandObject ctx r c p spawn = .ok g)
  (hdoor : r.gameObject? g = some door) (htype : door.type = .door)

include hg hdoor htype

end Found

/-- After some game objects were used a step has the same objects. -/
theorem participants_used (due : UInt64) (objects : List GameObject) :
    c.participants (r.used due objects) source target = c.participants r source target :=
  Command.participants_refit (r := r) (c := c) (Region.guid_usedIn objects due)
    (Region.position_usedIn objects due)

/-- In what a door command leaves behind it finds its door again, in the state that it asks for. -/
theorem FindsDoor.reached {catalog : Catalog} {g : Guid} {door : GameObject} (hr : r.WellKeyed)
    (h : FindsDoor catalog r c source target spawn p g door) {r' : Region} {due : UInt64}
    {others : List GameObject}
    (hr' : r' = if door.state = state then r else r.used due (door :: others)) :
    r'.WellKeyed ∧ ∃ after, FindsDoor catalog r' c source target spawn p g after ∧
      after.state = state := by
  split at hr'
  · next hstate => exact ⟨hr' ▸ hr, door, hr' ▸ h, hstate⟩
  · next hstate =>
    rw [hr']
    have hafter : (r.used due (door :: others)).gameObject? g = some (door.used due) := by
      rw [Region.gameObject?_used, h.here, Option.map_some, Region.usedIn,
        if_pos List.mem_cons_self]
    have hparticipants := (participants_used due (door :: others)).trans h.participants
    exact ⟨hr.used due _, door.used due, ⟨hparticipants, h.named, hafter, h.type⟩,
      UseState.toggle_eq_of_ne hstate⟩

/-! ### In a step -/

section Run

variable (hc : c.payload = .door state spawn delay)

include hc

variable (hr : r.WellKeyed)

include hr

end Run

end Step

end RegionScript
