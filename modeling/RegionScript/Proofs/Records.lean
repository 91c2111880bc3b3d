import Mathlib.Algebra.Group.Nat.Defs
import RegionScript.Store.Record

/-!
What is read from the bytes of a record is what was written.

`Reads` says it of a part of a record: the part is taken off the front, whatever follows it, and
what follows is left. Parts that follow one another are read one after the other, so a record is
read like its columns. Lengths are written with 64 bits; a text or a list that is longer has no
record.
-/

namespace RegionScript

namespace Bytes

variable {α β : Type}

/-- Takes a value off the front of some bytes, that is, of them followed by any others. -/
def Reads (value : Taking α) (bytes : Bytes) (a : α) : Prop :=
  ∀ rest, value (bytes ++ rest) = some (a, rest)

namespace Reads

theorem pure (a : α) : Reads (Pure.pure a) [] a := fun _ => rfl

theorem bind {value : Taking α} {next : α → Taking β} {bytes more : Bytes} {a : α} {b : β}
    (h : Reads value bytes a) (hnext : Reads (next a) more b) :
    Reads (value >>= next) (bytes ++ more) b := fun rest => by
  have hfirst : (value >>= next) (bytes ++ more ++ rest) =
      (value (bytes ++ (more ++ rest))).bind fun p => next p.1 p.2 := by
    rw [List.append_assoc]
    rfl
  rw [hfirst, h, Option.bind_some, hnext]

/-- What is computed from a value is read where the value is. -/
theorem map {value : Taking α} {bytes : Bytes} {a : α} (h : Reads value bytes a) (f : α → β) :
    Reads (value >>= fun a => Pure.pure (f a)) bytes (f a) := by
  rw [← List.append_nil bytes]
  exact h.bind (pure (f a))

/-- A value by itself is read from its bytes. -/
theorem read? {value : Taking α} {bytes : Bytes} {a : α} (h : Reads value bytes a) :
    Bytes.read? value bytes = some a := by
  have hall := h []
  rw [List.append_nil] at hall
  rw [Bytes.read?, hall]
  rfl

end Reads

/-! ### Numbers -/

theorem reads_byte (b : UInt8) : Reads takeByte [b] b := fun _ => rfl

theorem reads_nat (width : Nat) {n : Nat} (h : n < 256 ^ width) :
    Reads (takeNat width) (ofNat width n) n := by
  induction width generalizing n with
  | zero =>
    obtain rfl : n = 0 := Nat.lt_one_iff.mp h
    exact .pure 0
  | succ width ih =>
    -- the lowest byte comes first
    have hhigh : n / 256 < 256 ^ width := Nat.div_lt_of_lt_mul (Nat.pow_succ' ▸ h)
    have hlow : (UInt8.ofNat (n % 256)).toNat = n % 256 :=
      UInt8.toNat_ofNat_of_lt' (Nat.mod_lt n (by decide))
    have hread : Reads (takeNat (width + 1)) (ofNat (width + 1) n)
        ((UInt8.ofNat (n % 256)).toNat + 256 * (n / 256)) :=
      (reads_byte (UInt8.ofNat (n % 256))).bind ((ih hhigh).map _)
    rwa [hlow, Nat.mod_add_div] at hread

theorem reads_uint32 (n : UInt32) : Reads takeUInt32 (ofUInt32 n) n := by
  have hread := (reads_nat 4 n.toNat_lt).map UInt32.ofNat
  rwa [UInt32.ofNat_toNat] at hread

theorem reads_int32 (n : Int32) : Reads takeInt32 (ofInt32 n) n :=
  (reads_uint32 n.toUInt32).map UInt32.toInt32

theorem reads_single (x : Single) : Reads takeSingle (ofSingle x) x :=
  (reads_uint32 x.bits).map Single.mk

/-! ### Texts -/

theorem reads_bytes (bytes : Bytes) : Reads (takeBytes bytes.length) bytes bytes := fun rest => by
  rw [takeBytes, if_pos (by simp), List.take_left, List.drop_left]

/-- A text whose length can be written. -/
def FitsText (s : String) : Prop := s.utf8ByteSize < 2 ^ 64

/-- A list of texts whose length can be written, and so those of the texts. -/
def FitsTexts (l : List String) : Prop := l.length < 2 ^ 64 ∧ ∀ s ∈ l, FitsText s

instance (s : String) : Decidable (FitsText s) := inferInstanceAs (Decidable (_ < _))

instance (l : List String) : Decidable (FitsTexts l) := inferInstanceAs (Decidable (_ ∧ _))

theorem fromUTF8?_toUTF8 (s : String) : String.fromUTF8? s.toUTF8 = some s := by
  rw [String.fromUTF8?, String.toUTF8_eq_toByteArray, dif_pos s.isValidUTF8]
  rfl

theorem reads_text {s : String} (h : FitsText s) : Reads takeText (ofText s) s := by
  have hlift : Reads (StateT.lift (String.fromUTF8? s.toUTF8)) [] s := by
    rw [fromUTF8?_toUTF8]
    exact .pure s
  have hbytes : Reads (takeBytes s.utf8ByteSize >>= fun bytes =>
      StateT.lift (String.fromUTF8? ⟨bytes.toArray⟩)) (s.toUTF8.data.toList ++ []) s :=
    (reads_bytes s.toUTF8.data.toList).bind hlift
  rw [List.append_nil] at hbytes
  exact (reads_nat 8 h).bind hbytes

theorem reads_many {l : List String} (h : ∀ s ∈ l, FitsText s) :
    Reads (takeMany l.length) (l.flatMap ofText) l := by
  induction l with
  | nil => exact .pure []
  | cons s rest ih =>
    have hrest := ih fun t ht => h t (List.mem_cons_of_mem s ht)
    exact (reads_text (h s (List.mem_cons_self ..))).bind (hrest.map (s :: ·))

theorem reads_texts {l : List String} (h : FitsTexts l) : Reads takeTexts (ofTexts l) l :=
  (reads_nat 8 h.1).bind (reads_many h.2)

end Bytes

open Bytes

/-! ### Records -/

theorem Position.reads (p : Position) : Reads Position.take p.toBytes p := by
  rw [Position.toBytes, List.append_assoc, List.append_assoc]
  exact (reads_single p.x).bind ((reads_single p.y).bind ((reads_single p.z).bind
    ((reads_single p.o).map _)))

theorem exists_slots (texts : Vector Int32 textSlots) :
    ∃ t1 t2 t3 t4, texts = slots t1 t2 t3 t4 := by
  obtain ⟨⟨l⟩, hlength⟩ := texts
  -- four values by their number, since `textSlots` is 4
  match l, hlength with
  | [t1, t2, t3, t4], _ => exact ⟨t1, t2, t3, t4, rfl⟩

theorem Row.reads (r : Row) : Reads Row.take r.toBytes r := by
  obtain ⟨version, id, delay, command, data, data2, buddy, radius, flags, texts, position⟩ := r
  obtain ⟨t1, t2, t3, t4, rfl⟩ := exists_slots texts
  have hbytes : (slots t1 t2 t3 t4).toList.flatMap ofInt32 =
      ofInt32 t1 ++ (ofInt32 t2 ++ (ofInt32 t3 ++ ofInt32 t4)) := by
    simp [slots]
  simp only [Row.toBytes, hbytes, List.append_assoc]
  refine (reads_byte version).bind ?_
  refine (reads_uint32 id).bind ?_
  refine (reads_uint32 delay).bind ?_
  refine (reads_uint32 command).bind ?_
  refine (reads_uint32 data).bind ?_
  refine (reads_uint32 data2).bind ?_
  refine (reads_uint32 buddy).bind ?_
  refine (reads_uint32 radius).bind ?_
  refine (reads_uint32 flags).bind ?_
  refine (reads_int32 t1).bind ?_
  refine (reads_int32 t2).bind ?_
  refine (reads_int32 t3).bind ?_
  refine (reads_int32 t4).bind ?_
  exact position.reads.map _

/-- A row comes back bit for bit. -/
theorem Row.ofBytes?_toBytes (r : Row) : Row.ofBytes? r.toBytes = some r := r.reads.read?

theorem BindingRecord.ofBytes?_toBytes {r : BindingRecord} (h : FitsText r.scriptName) :
    BindingRecord.ofBytes? r.toBytes = some r := by
  refine Reads.read? ?_
  refine (reads_byte r.version).bind ?_
  refine (reads_uint32 r.id).bind ?_
  exact (reads_text h).map _

theorem NameListRecord.ofBytes?_toBytes {r : NameListRecord} (howner : FitsText r.owner)
    (hnames : FitsTexts r.names) : NameListRecord.ofBytes? r.toBytes = some r := by
  refine Reads.read? ?_
  refine (reads_byte r.version).bind ?_
  refine (reads_text howner).bind ?_
  exact (reads_texts hnames).map _

end RegionScript
