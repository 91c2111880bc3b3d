import RegionScript.OrderedMap.Lemmas
import RegionScript.Region.Effects

/-!
How the update fields of objects change from one state of a region to another.

Raising and clearing flags changes bits of one field. `FieldsChange` follows the objects that are in
a region back to what they were before: whatever writes the fields of one object leaves those of all
others, and the effects of scripts on places, lives, quests and doors leave them all.
-/

namespace RegionScript

/-! ### Bits -/

theorem or_and_not_self (a mask : UInt32) : (a ||| mask) &&& ~~~mask = a &&& ~~~mask := by
  apply UInt32.toBitVec_inj.mp
  ext i
  cases hmask : mask.toBitVec[i] <;> simp [hmask]

theorem and_not_and_not_self (a mask : UInt32) : a &&& ~~~mask &&& ~~~mask = a &&& ~~~mask := by
  rw [UInt32.and_assoc, UInt32.and_self]

theorem not_or_eq (a b : UInt32) : ~~~(a ||| b) = ~~~a &&& ~~~b := by
  apply UInt32.toBitVec_inj.mp
  ext i
  simp

namespace Fields

/-- One field is changed at most, and of it only bits of the mask. -/
structure BitsChange (field mask : UInt32) (f f' : Fields) : Prop where
  count : f'.count = f.count
  others : ∀ i, i ≠ field → f'.get i = f.get i
  bits : f'.get field &&& ~~~mask = f.get field &&& ~~~mask

namespace BitsChange

variable {field mask mask' : UInt32} {f f' f'' : Fields}

theorem refl (field mask : UInt32) (f : Fields) : BitsChange field mask f f :=
  ⟨rfl, fun _ _ => rfl, rfl⟩

/-- Bits of one mask and then of another one are bits of both together. -/
theorem trans (h : BitsChange field mask f f') (h' : BitsChange field mask' f' f'') :
    BitsChange field (mask ||| mask') f f'' where
  count := h'.count.trans h.count
  others i hi := (h'.others i hi).trans (h.others i hi)
  bits := by
    rw [not_or_eq, UInt32.and_comm (~~~mask), ← UInt32.and_assoc, ← UInt32.and_assoc, h'.bits,
      UInt32.and_assoc, UInt32.and_comm (~~~mask'), ← UInt32.and_assoc, h.bits, UInt32.and_assoc,
      UInt32.and_assoc, UInt32.and_comm (~~~mask)]

/-- A value that differs in bits of the mask alone. -/
theorem set {value : UInt32} (h : value &&& ~~~mask = f.get field &&& ~~~mask) :
    BitsChange field mask f (f.set field value) where
  count := count_set f field value
  others i hi := by rw [get_set, if_neg fun h => hi h.1.symm]
  bits := by
    rw [get_set]
    split
    · exact h
    · rfl

theorem setFlag (field mask : UInt32) (f : Fields) :
    BitsChange field mask f (f.setFlag field mask) :=
  set (or_and_not_self _ mask)

theorem removeFlag (field mask : UInt32) (f : Fields) :
    BitsChange field mask f (f.removeFlag field mask) :=
  set (and_not_and_not_self _ mask)

end BitsChange

end Fields

/-! ### Objects -/

/-- Every value of a map stems from the one that its key had in another map. -/
def OrderedMap.StemsFrom {κ α : Type} [Ord κ] (m' m : OrderedMap κ α) (stems : κ → α → α → Prop) :
    Prop :=
  ∀ k b, m'.get? k = some b → ∃ a, m.get? k = some a ∧ stems k a b

namespace OrderedMap.StemsFrom

variable {κ α : Type} [Ord κ] {m m' m'' : OrderedMap κ α} {stems : κ → α → α → Prop}

theorem refl (hrefl : ∀ k a, stems k a a) (m : OrderedMap κ α) : m.StemsFrom m stems :=
  fun k a ha => ⟨a, ha, hrefl k a⟩

theorem mono {stems' : κ → α → α → Prop} (hstems : ∀ k a b, stems k a b → stems' k a b)
    (h : m'.StemsFrom m stems) : m'.StemsFrom m stems' := by
  intro k b hb
  obtain ⟨a, ha, hab⟩ := h k b hb
  exact ⟨a, ha, hstems k a b hab⟩

theorem trans {stems' stems'' : κ → α → α → Prop} (h' : m''.StemsFrom m' stems')
    (h : m'.StemsFrom m stems)
    (hstems : ∀ {k a b c}, stems k a b → stems' k b c → stems'' k a c) :
    m''.StemsFrom m stems'' := by
  intro k c hc
  obtain ⟨b, hb, hbc⟩ := h' k c hc
  obtain ⟨a, ha, hab⟩ := h k b hb
  exact ⟨a, ha, hstems hab hbc⟩

variable [Std.LawfulEqOrd κ] [DecidableEq κ]

theorem modify (hrefl : ∀ k a, stems k a a) {k : κ} {f : α → α}
    (hf : ∀ a, m.get? k = some a → stems k a (f a)) : (m.modify k f).StemsFrom m stems := by
  intro j b hb
  rw [get?_modify] at hb
  split at hb
  · next hj =>
    subst hj
    obtain ⟨a, ha, rfl⟩ := Option.map_eq_some_iff.mp hb
    exact ⟨a, ha, hf a ha⟩
  · exact ⟨b, hb, hrefl j b⟩

theorem erase (hrefl : ∀ k a, stems k a a) (m : OrderedMap κ α) (k : κ) :
    (m.erase k).StemsFrom m stems := by
  intro j b hb
  rw [get?_erase] at hb
  split at hb
  · cases hb
  · exact ⟨b, hb, hrefl j b⟩

end OrderedMap.StemsFrom

namespace Region

/-- Whatever is in a region now was there before, in the same place, and its fields have changed as
they may have. -/
structure FieldsChange (may : Guid → Fields → Fields → Prop) (r r' : Region) : Prop where
  creature : r'.creatures.StemsFrom r.creatures fun g x x' => may g x.fields x'.fields
  player : r'.players.StemsFrom r.players fun g x x' => may g x.fields x'.fields
  gameObject : r'.gameObjects.StemsFrom r.gameObjects fun g x x' => may g x.fields x'.fields
  corpse : r'.corpses.StemsFrom r.corpses fun g x x' => may g x.fields x'.fields
  item : r'.items.StemsFrom r.items fun g x x' => may g x.fields x'.fields

namespace FieldsChange

variable {may may' : Guid → Fields → Fields → Prop} {r r' : Region} {g : Guid}

theorem mono (hmay : ∀ g f f', may g f f' → may' g f f') (h : r.FieldsChange may r') :
    r.FieldsChange may' r' where
  creature := h.creature.mono fun g _ _ => hmay g _ _
  player := h.player.mono fun g _ _ => hmay g _ _
  gameObject := h.gameObject.mono fun g _ _ => hmay g _ _
  corpse := h.corpse.mono fun g _ _ => hmay g _ _
  item := h.item.mono fun g _ _ => hmay g _ _

section Reflexive

variable (hrefl : ∀ g f, may g f f)

include hrefl

theorem refl (r : Region) : r.FieldsChange may r where
  creature := .refl (fun g x => hrefl g x.fields) _
  player := .refl (fun g x => hrefl g x.fields) _
  gameObject := .refl (fun g x => hrefl g x.fields) _
  corpse := .refl (fun g x => hrefl g x.fields) _
  item := .refl (fun g x => hrefl g x.fields) _

theorem modifyCreature {f : Creature → Creature}
    (hf : ∀ x, r.creature? g = some x → may g x.fields (f x).fields) :
    r.FieldsChange may (r.modifyCreature g f) :=
  { refl hrefl r with creature := .modify (fun g x => hrefl g x.fields) hf }

theorem modifyPlayer {f : Player → Player}
    (hf : ∀ x, r.player? g = some x → may g x.fields (f x).fields) :
    r.FieldsChange may (r.modifyPlayer g f) :=
  { refl hrefl r with player := .modify (fun g x => hrefl g x.fields) hf }

theorem modifyGameObject {f : GameObject → GameObject}
    (hf : ∀ x, r.gameObject? g = some x → may g x.fields (f x).fields) :
    r.FieldsChange may (r.modifyGameObject g f) :=
  { refl hrefl r with gameObject := .modify (fun g x => hrefl g x.fields) hf }

/-- Writing the fields of one object. -/
theorem modifyFields {f : Fields → Fields} (hf : ∀ x, r.fields? g = some x → may g x (f x)) :
    r.FieldsChange may (r.modifyFields g f) := by
  unfold Region.modifyFields
  cases hkind : g.kind with
  | creature | pet =>
    refine modifyCreature hrefl fun x hx => hf x.fields ?_
    rw [fields?, object?, hkind]
    exact congrArg (fun o => (o.map Object.creature).map Object.fields) hx
  | player =>
    refine modifyPlayer hrefl fun x hx => hf x.fields ?_
    rw [fields?, object?, hkind]
    exact congrArg (fun o => (o.map Object.player).map Object.fields) hx
  | gameObject =>
    refine modifyGameObject hrefl fun x hx => hf x.fields ?_
    rw [fields?, object?, hkind]
    exact congrArg (fun o => (o.map Object.gameObject).map Object.fields) hx
  | corpse =>
    refine { refl hrefl r with corpse := .modify (fun g x => hrefl g x.fields) fun x hx => ?_ }
    refine hf x.fields ?_
    rw [fields?, object?, hkind, hx]
    rfl
  | item =>
    refine { refl hrefl r with item := .modify (fun g x => hrefl g x.fields) fun x hx => ?_ }
    refine hf x.fields ?_
    rw [fields?, object?, hkind, hx]
    rfl

end Reflexive

end FieldsChange

/-- The fields of an object are those that were written last. -/
theorem fields?_modifyFields (r : Region) (g : Guid) (f : Fields → Fields) :
    (r.modifyFields g f).fields? g = (r.fields? g).map f := by
  unfold fields? object? modifyFields
  cases hkind : g.kind <;> simp [modifyCreature, modifyPlayer, modifyGameObject,
    OrderedMap.get?_modify_self, Option.map_map, Function.comp_def, Object.fields]

/-- Whatever is in a region now was there before, with the same fields. -/
abbrev KeepsFields (r r' : Region) : Prop := r.FieldsChange (fun _ f f' => f = f') r'

namespace KeepsFields

variable {r r' r'' : Region} {g : Guid}

theorem refl (r : Region) : r.KeepsFields r := FieldsChange.refl (fun _ _ => rfl) r

theorem trans (h : r.KeepsFields r') (h' : r'.KeepsFields r'') : r.KeepsFields r'' where
  creature := h'.creature.trans h.creature Eq.trans
  player := h'.player.trans h.player Eq.trans
  gameObject := h'.gameObject.trans h.gameObject Eq.trans
  corpse := h'.corpse.trans h.corpse Eq.trans
  item := h'.item.trans h.item Eq.trans

theorem modifyCreature {f : Creature → Creature} (hf : ∀ x, (f x).fields = x.fields) :
    r.KeepsFields (r.modifyCreature g f) :=
  FieldsChange.modifyCreature (fun _ _ => rfl) fun x _ => (hf x).symm

theorem modifyPlayer {f : Player → Player}
    (hf : ∀ x, r.player? g = some x → (f x).fields = x.fields) :
    r.KeepsFields (r.modifyPlayer g f) :=
  FieldsChange.modifyPlayer (fun _ _ => rfl) fun x hx => (hf x hx).symm

theorem modifyGameObject {f : GameObject → GameObject} (hf : ∀ x, (f x).fields = x.fields) :
    r.KeepsFields (r.modifyGameObject g f) :=
  FieldsChange.modifyGameObject (fun _ _ => rfl) fun x _ => (hf x).symm

theorem record (h : r.KeepsFields r') (e : WorldEvent) : r.KeepsFields (r'.record e) :=
  h.trans { refl r' with }

theorem modifyUnit (r : Region) (g : Guid) (f : UnitState → UnitState) :
    r.KeepsFields (r.modifyUnit g f) := by
  unfold Region.modifyUnit
  split
  · exact modifyCreature fun _ => rfl
  · exact modifyCreature fun _ => rfl
  · exact modifyPlayer fun _ _ => rfl
  · exact refl r

theorem useDoor (r : Region) (g : Guid) (reset : UInt32) : r.KeepsFields (r.useDoor g reset) := by
  unfold Region.useDoor
  cases h : r.useDoor? g reset with
  | none => exact refl r
  | some r' =>
    obtain ⟨door, -, rfl⟩ := Option.map_eq_some_iff.mp h
    refine record (modifyGameObject ?_) _
    exact fun _ => rfl

theorem respawn? {seconds : UInt32} (h : r.respawn? g seconds = some r') : r.KeepsFields r' := by
  obtain ⟨o, -, rfl⟩ := Option.map_eq_some_iff.mp h
  refine record (modifyGameObject ?_) _
  exact fun _ => rfl

theorem despawn? {delay : UInt32} (h : r.despawn? g delay = some r') : r.KeepsFields r' := by
  obtain ⟨c, -, rfl⟩ := Option.map_eq_some_iff.mp h
  split
  · exact { refl r with creature := .erase (fun _ x => Eq.refl x.fields) r.creatures g }
  · exact modifyCreature fun _ => rfl

/-- A player whose quest log changed is put back in place. -/
theorem replacePlayer {p p' : Player} (hp : r.player? g = some p) (hfields : p'.fields = p.fields)
    (e : WorldEvent) : r.KeepsFields ((r.modifyPlayer g fun _ => p').record e) := by
  refine record (modifyPlayer fun q hq => ?_) e
  obtain rfl := Option.some.inj (hp.symm.trans hq)
  exact hfields

theorem failQuest? {quest : UInt32} (h : r.failQuest? g quest = some r') : r.KeepsFields r' := by
  obtain ⟨p, hp, -, rfl⟩ := failQuest?_eq_some_iff.mp h
  refine replacePlayer hp ?_ _
  rfl

theorem exploreQuest? {quest : UInt32} (h : r.exploreQuest? g quest = some r') :
    r.KeepsFields r' := by
  obtain ⟨p, hp, -, rfl⟩ := exploreQuest?_eq_some_iff.mp h
  refine replacePlayer hp ?_ _
  rfl

end KeepsFields

end Region

end RegionScript
