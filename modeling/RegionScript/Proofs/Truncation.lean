import RegionScript.Proofs.Records

/-!
Each record has one form in bytes, and it says by itself where it ends.

What is taken off the front of some bytes is a value that can be written, and the bytes that are
gone are just those that it is written as. So a record is read from those bytes alone that begin
with its form: what follows is not looked at, and nothing is read from a form that is cut short, be
it inside a length, between two names or inside a character.
-/

namespace RegionScript

namespace Bytes

variable {α β : Type} {bytes rest : Bytes}

/-! ### One after the other -/

theorem pure_eq_some_iff {a b : α} :
    (pure a : Taking α) bytes = some (b, rest) ↔ a = b ∧ bytes = rest := by
  show some (a, bytes) = some (b, rest) ↔ _
  rw [Option.some.injEq, Prod.mk.injEq]

/-- What is taken by two takings is taken by the first, and by the second from what is left. -/
theorem bind_eq_some_iff {value : Taking α} {next : α → Taking β} {b : β} :
    (value >>= next) bytes = some (b, rest) ↔
      ∃ a left, value bytes = some (a, left) ∧ next a left = some (b, rest) := by
  show ((value bytes).bind fun p => next p.1 p.2) = some (b, rest) ↔ _
  rw [Option.bind_eq_some_iff, Prod.exists]

/-- What is computed from a value is taken where the value is. -/
theorem map_eq_some_iff {value : Taking α} {f : α → β} {b : β} :
    (value >>= fun a => pure (f a)) bytes = some (b, rest) ↔
      ∃ a, value bytes = some (a, rest) ∧ f a = b := by
  rw [bind_eq_some_iff]
  constructor
  · rintro ⟨a, left, hvalue, hpure⟩
    obtain ⟨hb, rfl⟩ := pure_eq_some_iff.mp hpure
    exact ⟨a, hvalue, hb⟩
  · rintro ⟨a, hvalue, hb⟩
    exact ⟨a, rest, hvalue, pure_eq_some_iff.mpr ⟨hb, rfl⟩⟩

theorem read?_eq_some_iff {value : Taking α} {a : α} :
    read? value bytes = some a ↔ ∃ rest, value bytes = some (a, rest) := by
  constructor
  · intro h
    obtain ⟨⟨_, rest⟩, hvalue, rfl⟩ := Option.map_eq_some_iff.mp h
    exact ⟨rest, hvalue⟩
  · rintro ⟨rest, hvalue⟩
    exact Option.map_eq_some_iff.mpr ⟨(a, rest), hvalue, rfl⟩

/-! ### Numbers -/

theorem takeByte_eq_some_iff {b : UInt8} :
    takeByte bytes = some (b, rest) ↔ bytes = b :: rest := by
  cases bytes with
  | nil => simp [takeByte]
  | cons first others => simp [takeByte]

theorem takeNat_eq_some_iff {width n : Nat} :
    takeNat width bytes = some (n, rest) ↔ n < 256 ^ width ∧ bytes = ofNat width n ++ rest := by
  constructor
  · intro h
    induction width generalizing bytes n with
    | zero =>
      obtain ⟨rfl, rfl⟩ := pure_eq_some_iff.mp h
      exact ⟨Nat.one_pos, rfl⟩
    | succ width ih =>
      obtain ⟨low, left, hlow, hrest⟩ := bind_eq_some_iff.mp h
      obtain ⟨high, hhigh, rfl⟩ := map_eq_some_iff.mp hrest
      obtain rfl := takeByte_eq_some_iff.mp hlow
      obtain ⟨hfits, rfl⟩ := ih hhigh
      have hbyte := low.toNat_lt
      -- the two parts of the number are its remainder and its quotient
      have hmod : (low.toNat + 256 * high) % 256 = low.toNat := by omega
      have hdiv : (low.toNat + 256 * high) / 256 = high := by omega
      refine ⟨by rw [Nat.pow_succ]; omega, ?_⟩
      rw [ofNat, hmod, hdiv, UInt8.ofNat_toNat, List.cons_append]
  · rintro ⟨hfits, rfl⟩
    exact reads_nat width hfits rest

theorem takeUInt32_eq_some_iff {n : UInt32} :
    takeUInt32 bytes = some (n, rest) ↔ bytes = ofUInt32 n ++ rest := by
  constructor
  · intro h
    obtain ⟨m, hm, rfl⟩ := map_eq_some_iff.mp h
    obtain ⟨hfits, rfl⟩ := takeNat_eq_some_iff.mp hm
    rw [ofUInt32, UInt32.toNat_ofNat_of_lt' hfits]
  · rintro rfl
    exact reads_uint32 n rest

theorem takeInt32_eq_some_iff {n : Int32} :
    takeInt32 bytes = some (n, rest) ↔ bytes = ofInt32 n ++ rest := by
  constructor
  · intro h
    obtain ⟨m, hm, rfl⟩ := map_eq_some_iff.mp h
    exact takeUInt32_eq_some_iff.mp hm
  · rintro rfl
    exact reads_int32 n rest

theorem takeSingle_eq_some_iff {x : Single} :
    takeSingle bytes = some (x, rest) ↔ bytes = ofSingle x ++ rest := by
  constructor
  · intro h
    obtain ⟨bits, hbits, rfl⟩ := map_eq_some_iff.mp h
    exact takeUInt32_eq_some_iff.mp hbits
  · rintro rfl
    exact reads_single x rest

/-! ### Texts -/

theorem takeBytes_eq_some_iff {n : Nat} {taken : Bytes} :
    takeBytes n bytes = some (taken, rest) ↔ taken.length = n ∧ bytes = taken ++ rest := by
  constructor
  · intro h
    unfold takeBytes at h
    split at h
    · next hlength =>
      obtain ⟨rfl, rfl⟩ := Prod.mk.inj (Option.some.inj h)
      exact ⟨List.length_take_of_le hlength, (List.take_append_drop n bytes).symm⟩
    · cases h
  · rintro ⟨rfl, rfl⟩
    exact reads_bytes taken rest

/-- Bytes that are well-formed are those of the text that they are read as. -/
theorem toUTF8_of_fromUTF8? {b : ByteArray} {s : String} (h : String.fromUTF8? b = some s) :
    s.toUTF8 = b := by
  unfold String.fromUTF8? at h
  split at h
  · obtain rfl := Option.some.inj h
    rfl
  · cases h

theorem lift_eq_some_iff {value : Option α} {a : α} :
    (StateT.lift value : Taking α) bytes = some (a, rest) ↔ value = some a ∧ bytes = rest := by
  cases value with
  | none => simp [StateT.lift]
  | some b => exact pure_eq_some_iff.trans (by rw [Option.some.injEq])

theorem takeText_eq_some_iff {s : String} :
    takeText bytes = some (s, rest) ↔ FitsText s ∧ bytes = ofText s ++ rest := by
  constructor
  · intro h
    obtain ⟨length, left, hlength, htaken⟩ := bind_eq_some_iff.mp h
    obtain ⟨taken, left', hbytes, hlift⟩ := bind_eq_some_iff.mp htaken
    obtain ⟨hdecoded, rfl⟩ := lift_eq_some_iff.mp hlift
    obtain ⟨hfits, rfl⟩ := takeNat_eq_some_iff.mp hlength
    obtain ⟨rfl, rfl⟩ := takeBytes_eq_some_iff.mp hbytes
    have hform : s.toUTF8.data.toList = taken := by rw [toUTF8_of_fromUTF8? hdecoded]
    have hsize : s.utf8ByteSize = taken.length := by
      rw [← hform]
      rfl
    rw [FitsText, ofText, ofLength, hsize, hform, List.append_assoc]
    exact ⟨hfits, rfl⟩
  · rintro ⟨hfits, rfl⟩
    exact reads_text hfits rest

theorem takeMany_eq_some_iff {n : Nat} {l : List String} :
    takeMany n bytes = some (l, rest) ↔
      l.length = n ∧ (∀ s ∈ l, FitsText s) ∧ bytes = l.flatMap ofText ++ rest := by
  constructor
  · intro h
    induction n generalizing bytes l with
    | zero =>
      obtain ⟨rfl, rfl⟩ := pure_eq_some_iff.mp h
      exact ⟨rfl, by simp, rfl⟩
    | succ n ih =>
      obtain ⟨s, left, hs, hrest⟩ := bind_eq_some_iff.mp h
      obtain ⟨others, hothers, rfl⟩ := map_eq_some_iff.mp hrest
      obtain ⟨hfirst, rfl⟩ := takeText_eq_some_iff.mp hs
      obtain ⟨rfl, hfits, rfl⟩ := ih hothers
      refine ⟨rfl, List.forall_mem_cons.mpr ⟨hfirst, hfits⟩, ?_⟩
      rw [List.flatMap_cons, List.append_assoc]
  · rintro ⟨rfl, hfits, rfl⟩
    exact reads_many hfits rest

theorem takeTexts_eq_some_iff {l : List String} :
    takeTexts bytes = some (l, rest) ↔ FitsTexts l ∧ bytes = ofTexts l ++ rest := by
  constructor
  · intro h
    obtain ⟨n, left, hn, hmany⟩ := bind_eq_some_iff.mp h
    obtain ⟨hlength, rfl⟩ := takeNat_eq_some_iff.mp hn
    obtain ⟨rfl, hfits, rfl⟩ := takeMany_eq_some_iff.mp hmany
    exact ⟨⟨hlength, hfits⟩, by rw [ofTexts, ofLength, List.append_assoc]⟩
  · rintro ⟨hfits, rfl⟩
    exact reads_texts hfits rest

end Bytes

open Bytes

/-! ### Records -/

variable {bytes rest : Bytes}

theorem Position.take_eq_some_iff {p : Position} :
    Position.take bytes = some (p, rest) ↔ bytes = p.toBytes ++ rest := by
  constructor
  · intro h
    simp only [Position.take, bind_eq_some_iff, pure_eq_some_iff, takeSingle_eq_some_iff] at h
    obtain ⟨x, _, rfl, y, _, rfl, z, _, rfl, o, _, rfl, rfl, rfl⟩ := h
    simp only [Position.toBytes, List.append_assoc]
  · rintro rfl
    exact p.reads rest

theorem Row.take_eq_some_iff {r : Row} :
    Row.take bytes = some (r, rest) ↔ bytes = r.toBytes ++ rest := by
  constructor
  · intro h
    simp only [Row.take, bind_eq_some_iff, pure_eq_some_iff, takeByte_eq_some_iff,
      takeUInt32_eq_some_iff, takeInt32_eq_some_iff, Position.take_eq_some_iff] at h
    obtain ⟨version, _, rfl, id, _, rfl, delay, _, rfl, command, _, rfl, data, _, rfl,
      data2, _, rfl, buddy, _, rfl, radius, _, rfl, flags, _, rfl, t1, _, rfl, t2, _, rfl,
      t3, _, rfl, t4, _, rfl, position, _, rfl, rfl, rfl⟩ := h
    simp [Row.toBytes, slots]
  · rintro rfl
    exact r.reads rest

/-- The length of the name can be written, as that of any text which a 64-bit machine can hold. -/
def BindingRecord.Fits (r : BindingRecord) : Prop := FitsText r.scriptName

/-- The lengths of the owner, of the list and of its names can be written. -/
def NameListRecord.Fits (r : NameListRecord) : Prop := FitsText r.owner ∧ FitsTexts r.names

instance (r : BindingRecord) : Decidable r.Fits := inferInstanceAs (Decidable (FitsText _))

instance (r : NameListRecord) : Decidable r.Fits := inferInstanceAs (Decidable (_ ∧ _))

section

variable {α : Type}

/-- The values that fit are read, each from just those bytes that begin with its form. -/
def ReadsForms (read? : Bytes → Option α) (Fits : α → Prop) (form : α → Bytes) : Prop :=
  ∀ bytes a, read? bytes = some a ↔ Fits a ∧ form a <+: bytes

/-- A form gives its value back whatever follows it, and gives nothing where it is cut short. -/
structure Delimits (read? : Bytes → Option α) (form : Bytes) (a : α) : Prop where
  whole (rest : Bytes) : read? (form ++ rest) = some a
  cut (front : Bytes) (begins : front <+: form) (short : front ≠ form) : read? front = none

variable {read? : Bytes → Option α} {Fits : α → Prop} {form : α → Bytes}

/-- If each value has one form, no form begins with another one, and so each delimits its value. -/
theorem ReadsForms.delimits_iff (h : ReadsForms read? Fits form) (a : α) :
    Delimits read? (form a) a ↔ Fits a := by
  constructor
  · intro hdelimits
    have hread := hdelimits.whole []
    exact ((h _ a).mp hread).1
  · intro hfits
    refine ⟨fun rest => (h _ a).mpr ⟨hfits, List.prefix_append ..⟩, fun front hfront hshort => ?_⟩
    cases hread : read? front with
    | none => rfl
    | some b =>
      obtain ⟨hb, hform⟩ := (h front b).mp hread
      -- what is read from the front is read from the whole as well, and there it is `a`
      have hwhole : read? (form a) = some b := (h _ b).mpr ⟨hb, hform.trans hfront⟩
      have ha : read? (form a) = some a := (h _ a).mpr ⟨hfits, List.prefix_rfl⟩
      obtain rfl := Option.some.inj (ha.symm.trans hwhole)
      exact absurd (hfront.eq_of_length_le hform.length_le) hshort

end

theorem Row.readsForms : ReadsForms Row.ofBytes? (fun _ => True) Row.toBytes := by
  intro bytes r
  rw [Row.ofBytes?, read?_eq_some_iff]
  simp only [Row.take_eq_some_iff, true_and]
  exact ⟨fun ⟨rest, h⟩ => ⟨rest, h.symm⟩, fun ⟨rest, h⟩ => ⟨rest, h.symm⟩⟩

theorem BindingRecord.readsForms :
    ReadsForms BindingRecord.ofBytes? BindingRecord.Fits BindingRecord.toBytes := by
  intro bytes r
  simp only [BindingRecord.ofBytes?, read?_eq_some_iff, bind_eq_some_iff, pure_eq_some_iff,
    takeByte_eq_some_iff, takeUInt32_eq_some_iff, takeText_eq_some_iff]
  constructor
  · rintro ⟨_, version, _, rfl, id, _, rfl, name, rest, ⟨hfits, rfl⟩, rfl, rfl⟩
    exact ⟨hfits, rest, by simp [BindingRecord.toBytes]⟩
  · rintro ⟨hfits, rest, rfl⟩
    exact ⟨rest, r.version, _, rfl, r.id, _, List.append_assoc .., r.scriptName, rest,
      ⟨hfits, rfl⟩, rfl, rfl⟩

theorem NameListRecord.readsForms :
    ReadsForms NameListRecord.ofBytes? NameListRecord.Fits NameListRecord.toBytes := by
  intro bytes r
  simp only [NameListRecord.ofBytes?, read?_eq_some_iff, bind_eq_some_iff, pure_eq_some_iff,
    takeByte_eq_some_iff, takeText_eq_some_iff, takeTexts_eq_some_iff]
  constructor
  · rintro ⟨_, version, _, rfl, owner, _, ⟨howner, rfl⟩, names, rest, ⟨hnames, rfl⟩, rfl, rfl⟩
    exact ⟨⟨howner, hnames⟩, rest, by simp [NameListRecord.toBytes]⟩
  · rintro ⟨⟨howner, hnames⟩, rest, rfl⟩
    exact ⟨rest, r.version, _, rfl, r.owner, _, ⟨howner, List.append_assoc ..⟩, r.names, rest,
      ⟨hnames, rfl⟩, rfl, rfl⟩

/-- Records come back bit for bit, whatever follows them, and none is read where it is cut short.
This holds of every row, and of a binding or a list of names just if its lengths can be written. -/
theorem records_delimit_themselves :
    (∀ r : Row, Delimits Row.ofBytes? r.toBytes r) ∧
    (∀ r : BindingRecord, Delimits BindingRecord.ofBytes? r.toBytes r ↔ r.Fits) ∧
    (∀ r : NameListRecord, Delimits NameListRecord.ofBytes? r.toBytes r ↔ r.Fits) := by
  refine ⟨fun r => ?_, fun r => ?_, fun r => ?_⟩
  · exact (Row.readsForms.delimits_iff r).mpr trivial
  · exact BindingRecord.readsForms.delimits_iff r
  · exact NameListRecord.readsForms.delimits_iff r

/-- A row whose height is the negative zero and whose orientation is no number. -/
def driftwood : Row :=
  { Row.new 7 0 0 with position := ⟨.zero, .zero, ⟨0x80000000⟩, ⟨0x7fc00001⟩⟩ }

/-- A binding to a script whose name has a character of two bytes. -/
def ferryman : BindingRecord := ⟨1, 700, "fährmann"⟩

/-- A list of names of which the first is empty. -/
def crew : NameListRecord := ⟨1, "npcs", ["", "fährmann"]⟩

/-- The binding cut inside the character and the list cut inside its own length are not read; whole
records are, also one before the other. -/
theorem records_delimit_themselves_ferry :
    Row.ofBytes? (driftwood.toBytes ++ crew.toBytes) = some driftwood ∧
      Row.ofBytes? (driftwood.toBytes.take 64) = none ∧
      ferryman.Fits ∧ crew.Fits ∧
      ferryman.toBytes[14]? = some 0xc3 ∧ ferryman.toBytes[15]? = some 0xa4 ∧
      BindingRecord.ofBytes? (ferryman.toBytes.take 15) = none ∧
      NameListRecord.ofBytes? (crew.toBytes ++ ferryman.toBytes) = some crew ∧
      NameListRecord.ofBytes? (crew.toBytes.take 16) = none := by
  obtain ⟨hrow, hbinding, hnames⟩ := records_delimit_themselves
  have hferryman : ferryman.Fits := by decide +kernel
  have hcrew : crew.Fits := by decide +kernel
  refine ⟨(hrow driftwood).whole _, ?_, hferryman, hcrew, by decide +kernel, by decide +kernel,
    ?_, ((hnames crew).mpr hcrew).whole _, ?_⟩
  · exact (hrow driftwood).cut _ (List.take_prefix ..) (by decide +kernel)
  · exact ((hbinding ferryman).mpr hferryman).cut _ (List.take_prefix ..) (by decide +kernel)
  · exact ((hnames crew).mpr hcrew).cut _ (List.take_prefix ..) (by decide +kernel)

end RegionScript
