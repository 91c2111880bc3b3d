import Mathlib.Algebra.Group.Nat.Defs
import RegionScript.Store.Basic

/-!
The keys of the store, and the order in which a scan meets them.

The number at the end of a key is written with a fixed width, so that keys that begin alike are
ordered like their numbers. Which table a row key counts to is decided by what the key begins with:
the numeral has no colon, so a key begins like the keys of a table only if it is one of them, or if
the name of its own table goes on from that table's name with a colon.

Keys are lists of characters here, and rows of bytes where they are stored. Both are ordered alike,
so that a scan meets them in the same order.
-/

namespace RegionScript

/-! ### Orders -/

/-- What keeps the order of two strictly keeps it. -/
theorem compare_of_strict {α β : Type} [Ord α] [Ord β] [Std.OrientedOrd α] [Std.LawfulEqOrd α]
    [Std.OrientedOrd β] {f : α → β} {a b : α}
    (hab : compare a b = .lt → compare (f a) (f b) = .lt)
    (hba : compare b a = .lt → compare (f b) (f a) = .lt) :
    compare (f a) (f b) = compare a b := by
  cases h : compare a b with
  | lt => exact hab h
  | eq =>
    obtain rfl := Std.LawfulEqCmp.eq_of_compare h
    exact Std.ReflCmp.compare_self
  | gt => exact Std.OrientedCmp.gt_iff_lt.mpr (hba (Std.OrientedCmp.gt_iff_lt.mp h))

section Lists

variable {α : Type} [Ord α]

/-- Of two lists with beginnings of one length these decide, and then what follows. -/
theorem compare_append {a b : List α} (h : a.length = b.length) (l m : List α) :
    compare (a ++ l) (b ++ m) = (compare a b).then (compare l m) := by
  induction a generalizing b with
  | nil =>
    obtain rfl := List.eq_nil_of_length_eq_zero h.symm
    rfl
  | cons x a ih =>
    obtain ⟨y, b, rfl⟩ := List.exists_cons_of_length_eq_add_one h.symm
    rw [List.cons_append, List.cons_append, List.compare_cons_cons, List.compare_cons_cons,
      ih (Nat.succ.inj h), Ordering.then_assoc]

theorem compare_append_left [Std.ReflOrd α] (start l m : List α) :
    compare (start ++ l) (start ++ m) = compare l m := by
  rw [compare_append rfl, Std.ReflOrd.compare_self]
  rfl

end Lists

/-! ### Numerals -/

namespace Text

theorem zeroPadded_of_lt_ten {n : Nat} (h : n < 10) : zeroPadded 1 n = [n.digitChar] := by
  rw [zeroPadded, Nat.toDigits_of_lt_base h]
  rfl

/-- The last digit of a number is the last one of its numeral. -/
theorem zeroPadded_succ (width n : Nat) :
    zeroPadded (width + 2) n = zeroPadded (width + 1) (n / 10) ++ [(n % 10).digitChar] := by
  by_cases h : n < 10
  · rw [zeroPadded, zeroPadded, Nat.toDigits_of_lt_base h, Nat.div_eq_of_lt h, Nat.mod_eq_of_lt h,
      Nat.toDigits_zero]
    simp [List.replicate_succ']
  · rw [zeroPadded, zeroPadded, Nat.toDigits_of_base_le (by decide) (Nat.not_lt.mp h)]
    simp

theorem length_zeroPadded {width n : Nat} (h : n < 10 ^ (width + 1)) :
    (zeroPadded (width + 1) n).length = width + 1 := by
  have hdigits := (Nat.length_toDigits_le_iff (b := 10) (by decide) width.succ_pos).mpr h
  rw [zeroPadded, List.length_append, List.length_replicate]
  exact Nat.sub_add_cancel hdigits

/-- A numeral has no colon. -/
theorem colon_notMem_zeroPadded (width n : Nat) : ':' ∉ zeroPadded width n := by
  intro h
  rcases List.mem_append.mp h with h | h
  · exact absurd (List.eq_of_mem_replicate h) (by decide)
  · exact absurd (Nat.isDigit_of_mem_toDigits (by decide) (by decide) h) (by decide)

theorem compare_digitChar {i j : Nat} (hi : i < 10) (hj : j < 10) :
    compare i.digitChar j.digitChar = compare i j := by
  have hall : ∀ i < 10, ∀ j < 10, compare (Nat.digitChar i) (Nat.digitChar j) = compare i j := by
    decide
  exact hall i hi j hj

/-- A number is compared by what is before its last digit, and then by that. -/
theorem compare_div_then_mod (n m : Nat) :
    (compare (n / 10) (m / 10)).then (compare (n % 10) (m % 10)) = compare n m := by
  rcases Nat.lt_trichotomy n m with h | rfl | h
  · rw [Nat.compare_eq_lt.mpr h, Ordering.then_eq_lt, Nat.compare_eq_lt, Nat.compare_eq_eq,
      Nat.compare_eq_lt]
    omega
  · rw [Nat.compare_eq_eq.mpr rfl, Nat.compare_eq_eq.mpr rfl, Nat.compare_eq_eq.mpr rfl]
    rfl
  · rw [Nat.compare_eq_gt.mpr h, Ordering.then_eq_gt, Nat.compare_eq_gt, Nat.compare_eq_eq,
      Nat.compare_eq_gt]
    omega

/-- Numerals of one width are ordered like their numbers. -/
theorem compare_zeroPadded {width n m : Nat} (hn : n < 10 ^ (width + 1))
    (hm : m < 10 ^ (width + 1)) :
    compare (zeroPadded (width + 1) n) (zeroPadded (width + 1) m) = compare n m := by
  -- by what is before the last digit, which is one digit narrower
  induction width generalizing n m with
  | zero =>
    rw [zeroPadded_of_lt_ten hn, zeroPadded_of_lt_ten hm, List.compare_cons_cons,
      compare_digitChar hn hm]
    exact Ordering.then_eq
  | succ width ih =>
    have hn' : n / 10 < 10 ^ (width + 1) := Nat.div_lt_of_lt_mul (Nat.pow_succ' ▸ hn)
    have hm' : m / 10 < 10 ^ (width + 1) := Nat.div_lt_of_lt_mul (Nat.pow_succ' ▸ hm)
    rw [zeroPadded_succ, zeroPadded_succ,
      compare_append ((length_zeroPadded hn').trans (length_zeroPadded hm').symm), ih hn' hm',
      List.compare_cons_cons,
      compare_digitChar (Nat.mod_lt n (by decide)) (Nat.mod_lt m (by decide))]
    exact (congrArg _ Ordering.then_eq).trans (compare_div_then_mod n m)

end Text

/-! ### Bytes -/

theorem compare_toNat8 (a b : UInt8) : compare a.toNat b.toNat = compare a b := by
  refine compare_of_strict (fun h => ?_) fun h => ?_
  · exact Nat.compare_eq_lt.mpr (UInt8.lt_iff_toNat_lt.mp (Std.compare_eq_lt.mp h))
  · exact Nat.compare_eq_lt.mpr (UInt8.lt_iff_toNat_lt.mp (Std.compare_eq_lt.mp h))

/-- The first byte decides, and after it the next one. -/
theorem compare_bytes_eq_lt {i j : Nat} (hi : i < 256) (hj : j < 256) (l m : List UInt8) :
    compare (UInt8.ofNat i :: l) (UInt8.ofNat j :: m) = .lt ↔
      i < j ∨ i = j ∧ compare l m = .lt := by
  rw [List.compare_cons_cons, ← compare_toNat8, UInt8.toNat_ofNat_of_lt' hi,
    UInt8.toNat_ofNat_of_lt' hj, Ordering.then_eq_lt, Nat.compare_eq_lt, Nat.compare_eq_eq]

/-- The bytes of the lower one of two characters come first, whatever follows. -/
theorem compare_utf8EncodeChar {c d : Char} (h : c < d) (l m : List UInt8) :
    compare (String.utf8EncodeChar c ++ l) (String.utf8EncodeChar d ++ m) = .lt := by
  have hlt : c.val.toNat < d.val.toNat := h
  have hd : d.val.toNat < 1114112 := by
    rcases d.valid with hd | hd
    · exact Nat.lt_trans hd (by decide)
    · exact hd.2
  -- one to four bytes for each of the two: of different lengths the first byte decides, and of the
  -- same length the first digit to the base 64 that differs
  unfold String.utf8EncodeChar
  generalize c.val.toNat = v at *
  generalize d.val.toNat = w at *
  have hdigits : ∀ n, n / 4096 = n / 64 / 64 ∧ n / 262144 = n / 64 / 64 / 64 := by
    intro n
    rw [Nat.div_div_eq_div_mul, Nat.div_div_eq_div_mul]
    exact ⟨rfl, rfl⟩
  simp only [hdigits]
  repeat' split
  all_goals
    simp (disch := omega) only [List.cons_append, compare_bytes_eq_lt]
    omega

/-- Characters in a row are ordered like their bytes. -/
theorem compare_flatMap_utf8EncodeChar (l m : List Char) :
    compare (l.flatMap String.utf8EncodeChar) (m.flatMap String.utf8EncodeChar) = compare l m := by
  induction l generalizing m with
  | nil =>
    cases m with
    | nil => rfl
    | cons d m =>
      obtain ⟨b, bytes, hb⟩ := List.exists_cons_of_ne_nil (String.utf8EncodeChar_ne_nil (c := d))
      rw [List.flatMap_cons, hb]
      rfl
  | cons c l ih =>
    cases m with
    | nil =>
      obtain ⟨b, bytes, hb⟩ := List.exists_cons_of_ne_nil (String.utf8EncodeChar_ne_nil (c := c))
      rw [List.flatMap_cons, hb]
      rfl
    | cons d m =>
      rw [List.flatMap_cons, List.flatMap_cons, List.compare_cons_cons]
      cases h : compare c d with
      | lt => exact compare_utf8EncodeChar (compareOfLessAndEq_eq_lt.mp h) _ _
      | eq =>
        obtain rfl := Std.LawfulEqCmp.eq_of_compare h
        rw [compare_append_left, ih]
        rfl
      | gt =>
        have hback : compare d c = .lt := Std.OrientedCmp.gt_iff_lt.mp h
        have hlt : d < c := compareOfLessAndEq_eq_lt.mp hback
        exact Std.OrientedCmp.gt_iff_lt.mpr (compare_utf8EncodeChar hlt _ _)

/-- Texts are ordered like their characters. -/
theorem compare_toList (s t : String) : compare s.toList t.toList = compare s t := by
  -- texts are compared by `<` on their characters, and keys by `compare`
  have hlists : ∀ l m : List Char, compare l m = .lt ↔ l < m := by
    intro l
    induction l with
    | nil =>
      intro m
      cases m with
      | nil => exact iff_of_false Ordering.noConfusion (List.not_lt_nil _)
      | cons d m => exact iff_of_true rfl (List.nil_lt_cons d m)
    | cons c l ih =>
      intro m
      cases m with
      | nil => exact iff_of_false Ordering.noConfusion (List.not_lt_nil _)
      | cons d m =>
        rw [List.compare_cons_cons, Ordering.then_eq_lt, List.cons_lt_cons_iff, ih,
          Std.LawfulEqCmp.compare_eq_iff_eq]
        exact or_congr_left compareOfLessAndEq_eq_lt
  have hstrict : ∀ s t : String, compare s t = .lt → compare s.toList t.toList = .lt :=
    fun s t h => (hlists _ _).mpr (String.lt_iff.mp (compareOfLessAndEq_eq_lt.mp h))
  exact compare_of_strict (hstrict s t) (hstrict t s)

/-- Texts are ordered like their bytes. -/
theorem compare_utf8 (s t : String) :
    compare s.toUTF8.data.toList t.toUTF8.data.toList = compare s t := by
  have hbytes : ∀ s : String, s.toUTF8.data.toList = s.toList.flatMap String.utf8EncodeChar := by
    intro s
    rw [String.toUTF8, ← String.utf8Encode_toList, List.utf8Encode, List.data_toByteArray]
  rw [hbytes, hbytes, compare_flatMap_utf8EncodeChar, compare_toList]

/-! ### Keys -/

namespace Store

theorem compare_rowKey (table : String) {n m : Nat} (hn : n < 2 ^ 64) (hm : m < 2 ^ 64) :
    compare (rowKey table n) (rowKey table m) = compare n m := by
  rw [rowKey, rowKey, compare_append_left]
  exact Text.compare_zeroPadded (Nat.lt_trans hn (by decide)) (Nat.lt_trans hm (by decide))

theorem compare_bindingKey (kind : String) (i j : UInt32) :
    compare (bindingKey kind i) (bindingKey kind j) = compare i j := by
  have hvalue : compare i.toNat j.toNat = compare i j := by
    refine compare_of_strict (fun h => ?_) fun h => ?_
    · exact Nat.compare_eq_lt.mpr (UInt32.lt_iff_toNat_lt.mp (Std.compare_eq_lt.mp h))
    · exact Nat.compare_eq_lt.mpr (UInt32.lt_iff_toNat_lt.mp (Std.compare_eq_lt.mp h))
  rw [bindingKey, bindingKey, compare_append_left, ← hvalue]
  exact Text.compare_zeroPadded (Nat.lt_trans i.toNat_lt (by decide))
    (Nat.lt_trans j.toNat_lt (by decide))

theorem compare_nameKey (owner other : String) :
    compare (nameKey owner) (nameKey other) = compare owner other := by
  rw [nameKey, nameKey, compare_append_left, compare_toList]

/-- What is put behind a mark that it does not have itself begins with nothing else that ends in
the mark, save what was there before. -/
theorem prefix_behind_mark {x : Char} {a b l : List Char} (h : x ∉ l) :
    a ++ [x] <+: b ++ [x] ++ l ↔ a = b ∨ a ++ [x] <+: b := by
  constructor
  · rintro ⟨rest, hrest⟩
    rw [List.append_assoc, List.append_assoc, List.singleton_append, List.singleton_append,
      List.append_eq_append_iff] at hrest
    rcases hrest with ⟨between, rfl, hbetween⟩ | ⟨between, rfl, hbetween⟩
    -- the mark behind `a` is the one behind `b`, or one within `b`
    · cases between with
      | nil => exact .inl (List.append_nil a).symm
      | cons y between =>
        obtain ⟨rfl, -⟩ := List.cons.inj hbetween
        exact .inr ⟨between, by simp⟩
    -- or it stands in `l`, which has none
    · cases between with
      | nil => exact .inl (List.append_nil b)
      | cons y between =>
        obtain ⟨-, rfl⟩ := List.cons.inj hbetween
        exact absurd (List.mem_append_right between (List.mem_cons_self ..)) h
  · rintro (rfl | hstarts)
    · exact List.prefix_append _ _
    · exact hstarts.trans (List.prefix_append_of_prefix (List.prefix_append _ _))

/-- The name goes on from another name with a colon. -/
def GoesOn (table other : String) : Prop := other.toList ++ [':'] <+: table.toList

instance (table other : String) : Decidable (GoesOn table other) :=
  inferInstanceAs (Decidable (_ <+: _))

/-- A row key counts to its own table, and to those from whose names that table's name goes on. -/
theorem tableStart_prefix_rowKey {table other : String} {n : Nat} :
    tableStart other <+: rowKey table n ↔ other = table ∨ GoesOn table other := by
  rw [rowKey, tableStart, tableStart, List.append_assoc, List.append_assoc, List.append_assoc,
    List.prefix_append_right_inj, ← List.append_assoc,
    prefix_behind_mark (Text.colon_notMem_zeroPadded 20 n), String.toList_inj]
  rfl

theorem tableStart_prefix_tableStart {table other : String} :
    tableStart other <+: tableStart table ↔ other = table ∨ GoesOn table other := by
  rw [tableStart, tableStart, List.append_assoc, List.append_assoc, List.prefix_append_right_inj,
    ← List.append_nil (table.toList ++ [':']), prefix_behind_mark List.not_mem_nil,
    String.toList_inj]
  rfl

theorem bindingStart_prefix_bindingKey {kind other : String} {id : UInt32} :
    bindingStart other <+: bindingKey kind id ↔ other = kind ∨ GoesOn kind other := by
  rw [bindingKey, bindingStart, bindingStart,
    prefix_behind_mark (Text.colon_notMem_zeroPadded 10 id.toNat), String.toList_inj]
  rfl

end Store

end RegionScript
