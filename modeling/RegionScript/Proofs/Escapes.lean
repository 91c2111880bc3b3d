import RegionScript.Log

/-!
Reading escaped text back.

A code of an escaped text is a character that stands for itself, or it begins with a backslash, and
then the next character says how it goes on. So an escaped text is read in one way only, and what is
read is what the log shows of the text: all of it, or the first part and an ellipsis. Only a text
that was cut is shown with more characters than the longest text that is not, and so two texts are
logged alike just if they are equal or both are cut to the same part.
-/

namespace RegionScript.Log

/-- What is shown of a text, before anything in it is escaped. -/
def shown (cs : List Char) : List Char :=
  if previewLength < cs.length then cs.take previewLength ++ ['…'] else cs

/-- The number that a hexadecimal digit stands for. -/
def hexValue (c : Char) : Nat := if c ≤ '9' then c.toNat - '0'.toNat else c.toNat - 'A'.toNat + 10

/-- The character that a letter behind a backslash stands for; any other stands for itself. -/
def unescapeLetter (c : Char) : Char :=
  if c = 'n' then '\n' else if c = 'r' then '\r' else if c = 't' then '\t' else c

/-- Reads an escaped text. -/
def unescape : List Char → List Char
  | [] => []
  | '\\' :: 'x' :: high :: low :: rest =>
    Char.ofNat (16 * hexValue high + hexValue low) :: unescape rest
  | '\\' :: letter :: rest => unescapeLetter letter :: unescape rest
  | c :: rest => c :: unescape rest

/-! ### One code after the other -/

/-- The codes: a character for itself, a letter behind a backslash, or two hexadecimal digits. -/
inductive CodeOf (c : Char) : List Char → Prop
  | self (plain : c ≠ '\\') (printed : isControl c = false) : CodeOf c [c]
  | letter {letter : Char} (short : letter ≠ 'x') (printed : isControl letter = false)
      (names : unescapeLetter letter = c) : CodeOf c ['\\', letter]
  | hex (control : isControl c = true) :
      CodeOf c ['\\', 'x', hexDigit (c.toNat / 16), hexDigit (c.toNat % 16)]

theorem codeOf_escapeChar (c : Char) : CodeOf c (escapeChar c) := by
  unfold escapeChar
  split
  · next hbackslash => exact .letter (by decide) rfl hbackslash.symm
  · next hbackslash =>
    split
    · next hnewline => exact .letter (by decide) rfl hnewline.symm
    · split
      · next hreturn => exact .letter (by decide) rfl hreturn.symm
      · split
        · next htab => exact .letter (by decide) rfl htab.symm
        · split
          · next hcontrol => exact .hex hcontrol
          · next hprinted => exact .self hbackslash (Bool.eq_false_iff.mpr hprinted)

/-- A hexadecimal digit is printed, and read as the number that it was written for. -/
theorem hexDigit_spec : ∀ n < 16, isControl (hexDigit n) = false ∧ hexValue (hexDigit n) = n := by
  decide

/-- The number of a control character has two hexadecimal digits. -/
theorem div_lt_of_isControl {c : Char} (h : isControl c = true) : c.toNat / 16 < 16 := by
  simp only [isControl, Bool.or_eq_true, Bool.and_eq_true, decide_eq_true_eq] at h
  omega

theorem mod_lt_sixteen (c : Char) : c.toNat % 16 < 16 := Nat.mod_lt _ (by decide)

/-- A code is read as the character that it was written for, whatever follows. -/
theorem CodeOf.unescape_append {c : Char} {code : List Char} (h : CodeOf c code)
    (rest : List Char) : unescape (code ++ rest) = c :: unescape rest := by
  cases h with
  | self plain =>
    show unescape (c :: rest) = _
    rw [unescape]
    · exact fun _ _ _ h => absurd h plain
    · exact fun _ _ h => absurd h plain
  | letter short _ names =>
    show unescape ('\\' :: _ :: rest) = _
    rw [unescape, names]
    exact fun _ _ _ hx => absurd hx short
  | hex control =>
    have hhigh := (hexDigit_spec _ (div_lt_of_isControl control)).2
    have hlow := (hexDigit_spec _ (mod_lt_sixteen c)).2
    show unescape ('\\' :: 'x' :: hexDigit _ :: hexDigit _ :: rest) = _
    rw [unescape, hhigh, hlow, Nat.div_add_mod, Char.ofNat_toNat]

theorem unescape_flatMap (cs : List Char) : unescape (cs.flatMap escapeChar) = cs := by
  induction cs with
  | nil => rfl
  | cons c rest ih => rw [List.flatMap_cons, (codeOf_escapeChar c).unescape_append, ih]

/-! ### Whole texts -/

/-- The ellipsis stands for itself, so cutting may go before escaping. -/
theorem escapeChars_eq (cs : List Char) : escapeChars cs = (shown cs).flatMap escapeChar := by
  unfold escapeChars shown
  split
  · rw [List.flatMap_append]
    rfl
  · next hshort => rw [List.append_nil, List.take_of_length_le (Nat.le_of_not_lt hshort)]

/-- What is shown of a text is read back from the log. -/
theorem unescape_escape (s : String) : unescape (escape s).toList = shown s.toList := by
  rw [escape, String.toList_ofList, escapeChars_eq, unescape_flatMap]

/-- No code has a control character in it. -/
theorem CodeOf.isControl_of_mem {c d : Char} {code : List Char} (h : CodeOf c code)
    (hd : d ∈ code) : isControl d = false := by
  cases h with
  | self _ printed =>
    rcases List.mem_singleton.mp hd with rfl
    exact printed
  | letter _ printed _ =>
    simp only [List.mem_cons, List.not_mem_nil, or_false] at hd
    rcases hd with rfl | rfl
    · rfl
    · exact printed
  | hex control =>
    simp only [List.mem_cons, List.not_mem_nil, or_false] at hd
    rcases hd with rfl | rfl | rfl | rfl
    · rfl
    · rfl
    · exact (hexDigit_spec _ (div_lt_of_isControl control)).1
    · exact (hexDigit_spec _ (mod_lt_sixteen c)).1

theorem length_shown (cs : List Char) : (shown cs).length = min cs.length (previewLength + 1) := by
  unfold shown
  split
  · next hlong =>
    rw [List.length_append, List.length_take, List.length_singleton]
    omega
  · next hshort => omega

/-- The same is shown of two texts just if they are equal, or both are cut to the same part. -/
theorem shown_eq_iff {cs ds : List Char} : shown cs = shown ds ↔
    cs = ds ∨ previewLength < cs.length ∧ previewLength < ds.length ∧
      cs.take previewLength = ds.take previewLength := by
  constructor
  · intro h
    have hlength := congrArg List.length h
    rw [length_shown, length_shown] at hlength
    unfold shown at h
    by_cases hcs : previewLength < cs.length
    · have hds : previewLength < ds.length := by omega
      rw [if_pos hcs, if_pos hds] at h
      exact .inr ⟨hcs, hds, List.append_cancel_right h⟩
    · have hds : ¬ previewLength < ds.length := by omega
      rw [if_neg hcs, if_neg hds] at h
      exact .inl h
  · rintro (rfl | ⟨hcs, hds, htake⟩)
    · rfl
    · rw [shown, shown, if_pos hcs, if_pos hds, htake]

theorem escape_eq_iff (a b : String) : escape a = escape b ↔ shown a.toList = shown b.toList := by
  constructor
  · intro h
    rw [← unescape_escape, ← unescape_escape, h]
  · intro h
    rw [escape, escape, escapeChars_eq, escapeChars_eq, h]

/-- Escaped text has no control characters, and up to the cut nothing is lost: two texts are escaped
alike just if they are equal, or both have more than 200 characters and begin with the same 200. -/
theorem escape_safe_and_lossless (a b : String) :
    (∀ c ∈ (escape a).toList, ¬ (c.toNat < 0x20 ∨ 0x7f ≤ c.toNat ∧ c.toNat ≤ 0x9f)) ∧
    (escape a = escape b ↔ a = b ∨ 200 < a.length ∧ 200 < b.length ∧
      a.toList.take 200 = b.toList.take 200) := by
  constructor
  · intro c hc
    rw [escape, String.toList_ofList, escapeChars_eq] at hc
    obtain ⟨d, -, hcode⟩ := List.mem_flatMap.mp hc
    have hprinted := (codeOf_escapeChar d).isControl_of_mem hcode
    simp only [isControl, Bool.or_eq_false_iff, Bool.and_eq_false_iff, decide_eq_false_iff_not]
      at hprinted
    omega
  · rw [escape_eq_iff, shown_eq_iff, String.toList_inj]
    rfl

example : escape "Halt!\n\x07 C:\\" = "Halt!\\n\\x07 C:\\\\" := by decide

end RegionScript.Log
