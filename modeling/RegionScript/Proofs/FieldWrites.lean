import RegionScript.Proofs.FieldChanges
import RegionScript.Proofs.StepEffects
import RegionScript.Proofs.Turnover

/-!
Which update fields a step changes.

Six commands write fields, each those of one object: `MayWrite` says of which, which field, and what
becomes of it. Three of them write the field that they are given, unless it is in the header or
outside the object; the others raise and clear certain bits of a field that is fixed. No other
effect of a step changes a field.
-/

namespace RegionScript

/-! ### What a command may write -/

namespace Payload

/-- Whose fields a command may write, which of them, given how many there are, and what becomes of
the old value. -/
def MayWrite (d : Payload) (p : Participants) (g : Guid) (count : Nat) (field old new : UInt32) :
    Prop :=
  match d with
  | .fieldSet i value =>
    p.sourceOrItem = some g ∧ field = i ∧ (3 < i ∧ i.toNat < count) ∧ new = value
  | .flagSet i flag =>
    p.sourceOrItem = some g ∧ field = i ∧ (3 < i ∧ i.toNat < count) ∧ new = old ||| flag
  | .flagRemove i flag =>
    p.sourceOrItem = some g ∧ field = i ∧ (3 < i ∧ i.toNat < count) ∧ new = old &&& ~~~flag
  | .goLockState _ =>
    let mask := Fields.lockedFlag ||| Fields.noInteractFlag
    p.source = some g ∧ field = Fields.gameObjectFlags ∧ new &&& ~~~mask = old &&& ~~~mask
  | .modifyNpcFlags mask _ =>
    p.source = some g ∧ field = Fields.npcFlags ∧ new &&& ~~~mask = old &&& ~~~mask
  | .xpUser _ =>
    let mask := Fields.xpDisabledFlag
    p.player? = some g ∧ field = Fields.playerFlags ∧ new &&& ~~~mask = old &&& ~~~mask
  | _ => False

/-- What a command makes of the fields of an object: it writes one that it may write, and no other
one. -/
structure Writes (d : Payload) (p : Participants) (g : Guid) (f f' : Fields) : Prop where
  count : f'.count = f.count
  only : ∀ i, f'.get i ≠ f.get i → d.MayWrite p g f.count i (f.get i) (f'.get i)
  written : ∃ i, d.MayWrite p g f.count i (f.get i) (f'.get i)

variable {d : Payload} {p : Participants} {g : Guid} {f f' : Fields}

/-- The header is not written by any command. -/
theorem MayWrite.not_header {count : Nat} {field old new : UInt32}
    (h : d.MayWrite p g count field old new) : ¬ field ≤ Fields.headerLast := by
  unfold MayWrite at h
  split at h
  · exact UInt32.not_le.mpr (h.2.1 ▸ h.2.2.1.1)
  · exact UInt32.not_le.mpr (h.2.1 ▸ h.2.2.1.1)
  · exact UInt32.not_le.mpr (h.2.1 ▸ h.2.2.1.1)
  · exact h.2.1 ▸ by decide
  · exact h.2.1 ▸ by decide
  · exact h.2.1 ▸ by decide
  · exact h.elim

theorem Writes.header (h : d.Writes p g f f') {i : UInt32} (hi : i ≤ Fields.headerLast) :
    f'.get i = f.get i := by
  by_contra hne
  exact (h.only i hne).not_header hi

theorem Writes.set {i value : UInt32} (hi : i.toNat < f.count)
    (h : d.MayWrite p g f.count i (f.get i) value) : d.Writes p g f (f.set i value) where
  count := Fields.count_set f i value
  only j hj := by
    rw [Fields.get_set] at hj ⊢
    split at hj
    · next hwritten =>
      rw [if_pos hwritten]
      exact hwritten.1 ▸ h
    · exact absurd rfl hj
  written := ⟨i, by rwa [Fields.get_set, if_pos ⟨rfl, hi⟩]⟩

theorem Writes.bits {field mask : UInt32} (h : Fields.BitsChange field mask f f')
    (hd : ∀ old new, new &&& ~~~mask = old &&& ~~~mask → d.MayWrite p g f.count field old new) :
    d.Writes p g f f' where
  count := h.count
  only i hi := by
    by_cases hfield : i = field
    · subst hfield
      exact hd _ _ h.bits
    · exact absurd (h.others i hfield) hi
  written := ⟨field, hd _ _ h.bits⟩

end Payload

namespace Step

open Region (KeepsFields)

variable {ctx : StepContext} {r r' : Region} {c : Command} {d : Payload} {p : Participants}

/-- What a command does that neither writes fields nor summons leaves all fields alone. -/
theorem Effect.keepsFields (hwrites : ¬ d.WritesFields) (hsummons : ¬ d.Summons)
    (h : Effect d r r') : r.KeepsFields r' := by
  cases h with
  | record e => exact .record (.refl r) e
  | creature g keeps => exact .modifyCreature fun x => (keeps x).1
  | unit g f => exact .modifyUnit r g f
  | player g keeps => exact .modifyPlayer fun x _ => (keeps x).1
  | fields g f writes => exact absurd writes hwrites
  | door g sets => exact .useDoor r g _
  | respawn stays sets changed => exact .respawn? changed
  | despawn sets changed => exact .despawn? changed
  | summon summons => exact absurd summons hsummons
  | quest changes changed => exact changed.elim .failQuest? .exploreQuest?

/-- One object is here whose fields have been written as the command writes them. -/
def Wrote (d : Payload) (p : Participants) (r r' : Region) : Prop :=
  ∃ g f change, r.fields? g = some f ∧ r' = r.modifyFields g change ∧ d.Writes p g f (change f)

theorem writeField_wrote {field : UInt32} {change : Fields → Fields}
    (h : ∀ g f, p.sourceOrItem = some g → 3 < field ∧ field.toNat < f.count →
      d.Writes p g f (change f)) :
    (writeField r p field change).Meets (fun _ => True) (Wrote d p r) := by
  refine meets_require (fun _ => trivial) fun g hg => ?_
  refine meets_require (fun _ => trivial) fun f hf => meets_demand (fun _ => trivial) fun hw => ?_
  obtain ⟨hheader, hinside⟩ := Bool.and_eq_true_iff.mp hw
  have hwritable := And.intro (of_decide_eq_true hheader) (of_decide_eq_true hinside)
  exact meets_applied ⟨g, f, change, hf, rfl, h g f hg hwritable⟩

theorem modifyFields_wrote {holder : Option Guid} {e e' : StepError} {change : Fields → Fields}
    (h : ∀ g f, holder = some g → d.Writes p g f (change f)) :
    (require r holder e fun g =>
      require r (r.fields? g) e' fun _ => applied (r.modifyFields g change)).Meets
        (fun _ => True) (Wrote d p r) := by
  refine meets_require (fun _ => trivial) fun g hg => ?_
  refine meets_require (fun _ => trivial) fun f hf => meets_applied ?_
  exact ⟨g, f, change, hf, rfl, h g f hg⟩

theorem changeLock_bits (state : UInt32) (f : Fields) :
    Fields.BitsChange Fields.gameObjectFlags Fields.lockedFlag f (changeLock state f) := by
  unfold changeLock
  split
  · exact .setFlag _ _ f
  · split
    · exact .removeFlag _ _ f
    · exact .refl _ _ f

theorem changeInteraction_bits (state : UInt32) (f : Fields) :
    Fields.BitsChange Fields.gameObjectFlags Fields.noInteractFlag f
      (changeInteraction state f) := by
  unfold changeInteraction
  split
  · exact .setFlag _ _ f
  · split
    · exact .removeFlag _ _ f
    · exact .refl _ _ f

theorem changeNpcFlags_bits (flags : UInt32) (change : NpcFlagChange) (f : Fields) :
    Fields.BitsChange Fields.npcFlags flags f (changeNpcFlags flags change f) := by
  cases change with
  | add => exact .setFlag _ _ f
  | remove => exact .removeFlag _ _ f
  | toggle =>
    unfold changeNpcFlags
    dsimp only
    split
    · exact .removeFlag _ _ f
    · exact .setFlag _ _ f

/-- The source, where a command asks for a source of some kind. -/
theorem source_of_filter {kind : Guid → Bool} {g : Guid} (h : p.source.filter kind = some g) :
    p.source = some g :=
  (Option.filter_eq_some_iff.mp h).1

/-- Each of the commands that write fields writes what it may, if it does not fail. -/
theorem apply_wrote (h : c.payload.WritesFields) :
    (apply ctx r c p).Meets (fun _ => True) (Wrote c.payload p r) := by
  unfold apply
  cases hd : c.payload with
  | fieldSet field value =>
    exact writeField_wrote fun g f hg hw => .set hw.2 ⟨hg, rfl, hw, rfl⟩
  | flagSet field flag =>
    exact writeField_wrote fun g f hg hw => .set hw.2 ⟨hg, rfl, hw, rfl⟩
  | flagRemove field flag =>
    exact writeField_wrote fun g f hg hw => .set hw.2 ⟨hg, rfl, hw, rfl⟩
  | goLockState state =>
    refine modifyFields_wrote fun g f hg => ?_
    have hbits := (changeLock_bits state f).trans (changeInteraction_bits state _)
    exact .bits hbits fun old new hnew => ⟨source_of_filter hg, rfl, hnew⟩
  | modifyNpcFlags flags change =>
    refine modifyFields_wrote fun g f hg => .bits (changeNpcFlags_bits flags change f) ?_
    exact fun old new hnew => ⟨source_of_filter hg, rfl, hnew⟩
  | xpUser disable =>
    refine modifyFields_wrote fun g f hg => .bits ?_ fun old new hbits => ⟨hg, rfl, hbits⟩
    cases disable with
    | true => exact .setFlag _ _ f
    | false => exact .removeFlag _ _ f
  | _ =>
    rw [hd] at h
    exact h.elim

/-- Of the fields of the objects that are here after a step only those have changed that its command
writes. -/
theorem run_writes (hsummons : ¬ c.payload.Summons) (source target : Option Guid) :
    r.FieldsChange (fun g f f' => f = f' ∨
        ∃ p, c.participants r source target = .ok p ∧ c.payload.Writes p g f f')
      (run ctx r c source target).region := by
  by_cases hwrites : c.payload.WritesFields
  · refine region_of_apply (.refl (fun _ _ => .inl rfl) r) fun p hp => ⟨fun _ _ => trivial, ?_⟩
    intro o ho
    obtain ⟨g, f, change, hf, hregion, hw⟩ := (apply_wrote hwrites).done o ho
    rw [hregion]
    refine .modifyFields (fun _ _ => .inl rfl) fun f' hf' => .inr ⟨p, hp, ?_⟩
    obtain rfl := Option.some.inj (hf.symm.trans hf')
    exact hw
  · have hkeeps := (run_effects ctx (r := r) c source target).keeps .refl .trans
      (Effect.keepsFields hwrites hsummons)
    exact hkeeps.mono fun _ _ _ => .inl

/-- A step that summons nothing keeps every object's count of fields and its header, and changes a
field only as its command may: setting a field or its flags only that one, of the source or of the
item that started the script, and only behind the header and inside the object, to just that value;
the lock, what a creature offers and the gain of experience only their own bits of one field of the
source, or of one player; and every other command none. A command that writes fields writes one,
unless it fails. -/
theorem fields_change_as_commanded (ctx : StepContext) (r : Region) {c : Command}
    (hsummons : ¬ c.payload.Summons) (source target : Option Guid) :
    let x := run ctx r c source target
    r.FieldsChange (fun g f f' =>
        f'.count = f.count ∧ (∀ i ≤ Fields.headerLast, f'.get i = f.get i) ∧
          ∀ i, f'.get i ≠ f.get i → ∃ p, c.participants r source target = .ok p ∧
            c.payload.MayWrite p g f.count i (f.get i) (f'.get i)) x.region ∧
      (c.payload.WritesFields → ∀ o, x.outcome = .ok o →
        ∃ p g f f' i, c.participants r source target = .ok p ∧ r.fields? g = some f ∧
          x.region.fields? g = some f' ∧
          c.payload.MayWrite p g f.count i (f.get i) (f'.get i)) := by
  intro x
  constructor
  · refine (run_writes hsummons source target).mono ?_
    rintro g f f' (rfl | ⟨p, hp, hw⟩)
    · exact ⟨rfl, fun _ _ => rfl, fun _ h => absurd rfl h⟩
    · exact ⟨hw.count, fun _ hi => hw.header hi, fun i hi => ⟨p, hp, hw.only i hi⟩⟩
  · intro hwrites o ho
    obtain ⟨p, hp, hok, hregion⟩ := of_run_eq_ok ho
    obtain ⟨g, f, change, hf, hwritten, hw⟩ := (apply_wrote hwrites).done o hok
    obtain ⟨i, hi⟩ := hw.written
    have hx : x.region = r.modifyFields g change := hregion.trans hwritten
    refine ⟨p, g, f, change f, i, hp, hf, ?_, hi⟩
    rw [hx, Region.fields?_modifyFields, hf]
    rfl

/-- A letter with a flag in its last field. -/
def sealedLetter : Item :=
  { guid := .item 40, entry := 7, owner := .player 1
    fields := (Fields.zeros Fields.itemEnd).set 47 2 }

/-- A player has the letter in the bags. -/
def letterCarrier : Region :=
  { id := 0, players := .ofList [(.player 1, .new 1 "" .origin 0)]
    items := .ofList [(sealedLetter.guid, sealedLetter)] }

/-- The letter starts a script that raises two flags of its last field: they are raised beside the
one that was, and the fields before it, and the header, stay. -/
theorem fields_change_as_commanded_letter :
    let c : Command := .plain 1 0 (.flagSet 47 5)
    let ctx : StepContext := { catalog := {}, table := "", draw := 0 }
    let x := run ctx letterCarrier c (some sealedLetter.guid) none
    ¬ c.payload.Summons ∧ x.outcome = .ok .applied ∧
      ∃ i, x.region.items.get? sealedLetter.guid = some i ∧ i.fields.count = 48 ∧
        i.fields.get 3 = 0 ∧ i.fields.get 46 = 0 ∧ i.fields.get 47 = 7 := by
  intro c ctx x
  obtain ⟨hchange, hwrites⟩ :=
    fields_change_as_commanded ctx letterCarrier (c := c) id (some sealedLetter.guid) none
  let written : Item := { sealedLetter with fields := sealedLetter.fields.setFlag 47 5 }
  have hwritten : x.region.items.get? sealedLetter.guid = some written := rfl
  obtain ⟨i, hi, hcount, hheader, honly⟩ := hchange.item sealedLetter.guid written hwritten
  obtain rfl : sealedLetter = i := Option.some.inj hi
  obtain ⟨p, g, f, f', field, hp, hf, hf', hg, rfl, -, hnew⟩ := hwrites trivial .applied rfl
  obtain rfl : (⟨none, none, some sealedLetter.guid⟩ : Participants) = p := Except.ok.inj hp
  obtain rfl : sealedLetter.guid = g := Option.some.inj hg
  obtain rfl : sealedLetter.fields = f := Option.some.inj hf
  obtain rfl : written.fields = f' := Option.some.inj hf'
  refine ⟨id, rfl, written, hwritten, hcount, hheader 3 (by decide), ?_, hnew⟩
  by_contra hne
  obtain ⟨p, -, -, hfield, -⟩ := honly 46 hne
  exact absurd hfield (by decide)

end Step

end RegionScript
