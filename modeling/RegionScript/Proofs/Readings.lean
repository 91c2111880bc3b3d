import Mathlib.Data.List.Forall2

/-!
What comes of readings that may fail.

A reading gives a value or the reason why there is none. One that is built from others gives a value
just if all of them do, and otherwise the reason of the first that does not.
-/

namespace RegionScript

variable {α β γ ε : Type}

/-- What a function makes of a value is a value just when there was one. -/
theorem map_eq_ok_iff {x : Except ε α} {f : α → β} {b : β} :
    x.map f = .ok b ↔ ∃ a, x = .ok a ∧ f a = b := by
  cases x <;> simp [Except.map]

theorem map_eq_error_iff {x : Except ε α} {f : α → β} {e : ε} :
    x.map f = .error e ↔ x = .error e := by
  cases x <;> simp [Except.map]

theorem bind_eq_ok_iff {x : Except ε α} {f : α → Except ε β} {b : β} :
    x >>= f = .ok b ↔ ∃ a, x = .ok a ∧ f a = .ok b := by
  cases x <;> simp [bind, Except.bind]

theorem bind_eq_error_iff {x : Except ε α} {f : α → Except ε β} {e : ε} :
    x >>= f = .error e ↔ x = .error e ∨ ∃ a, x = .ok a ∧ f a = .error e := by
  cases x <;> simp [bind, Except.bind]

/-! ### Lists -/

variable {f : α → Except ε β} {a : α} {rest l : List α} {out : List β} {e : ε}

theorem mapM_cons_eq_ok_iff : (a :: rest).mapM f = .ok out ↔
    ∃ b out', f a = .ok b ∧ rest.mapM f = .ok out' ∧ out = b :: out' := by
  rw [List.mapM_cons, bind_eq_ok_iff]
  simp only [bind_eq_ok_iff, pure, Except.pure, Except.ok.injEq]
  constructor
  · rintro ⟨b, hb, out', hout', rfl⟩
    exact ⟨b, out', hb, hout', rfl⟩
  · rintro ⟨b, out', hb, hout', rfl⟩
    exact ⟨b, hb, out', hout', rfl⟩

theorem mapM_cons_eq_error_iff : (a :: rest).mapM f = .error e ↔
    f a = .error e ∨ (∃ b, f a = .ok b) ∧ rest.mapM f = .error e := by
  rw [List.mapM_cons, bind_eq_error_iff]
  simp only [bind_eq_error_iff, pure, Except.pure, reduceCtorEq, and_false, exists_false, or_false]
  rw [exists_and_right]

/-- What is read of all is what is read of each. -/
theorem mapM_eq_ok_iff : l.mapM f = .ok out ↔ List.Forall₂ (fun a b => f a = .ok b) l out := by
  induction l generalizing out with
  | nil =>
    rw [List.forall₂_nil_left_iff]
    exact ⟨fun h => (Except.ok.inj h).symm, fun h => h ▸ rfl⟩
  | cons a rest ih =>
    rw [mapM_cons_eq_ok_iff, List.forall₂_cons_left_iff]
    simp only [ih]

/-- The first that cannot be read stops the reading. -/
theorem mapM_eq_error_iff : l.mapM f = .error e ↔ ∃ front a rest, l = front ++ a :: rest ∧
    (∀ x ∈ front, ∃ b, f x = .ok b) ∧ f a = .error e := by
  induction l with
  | nil =>
    constructor
    · intro h
      cases h
    · rintro ⟨front, a, rest, hl, -⟩
      cases front <;> cases hl
  | cons a rest ih =>
    rw [mapM_cons_eq_error_iff, ih]
    constructor
    · rintro (ha | ⟨hb, front, a', rest', rfl, hfront, ha'⟩)
      · exact ⟨[], a, rest, rfl, List.forall_mem_nil _, ha⟩
      · exact ⟨a :: front, a', rest', rfl, List.forall_mem_cons.mpr ⟨hb, hfront⟩, ha'⟩
    · rintro ⟨front, a', rest', hl, hfront, ha'⟩
      cases front with
      | nil =>
        obtain ⟨rfl, rfl⟩ := List.cons.inj hl
        exact .inl ha'
      | cons x front =>
        obtain ⟨rfl, rfl⟩ := List.cons.inj hl
        obtain ⟨hb, hfront⟩ := List.forall_mem_cons.mp hfront
        exact .inr ⟨hb, front, a', rest', rfl, hfront, ha'⟩

/-- What was written of each is read of each. -/
theorem mapM_map_eq_ok {g : γ → α} {k : γ → β} {l : List γ} (h : ∀ c ∈ l, f (g c) = .ok (k c)) :
    (l.map g).mapM f = .ok (l.map k) := by
  rw [mapM_eq_ok_iff, List.forall₂_map_left_iff, List.forall₂_map_right_iff]
  exact List.forall₂_same.mpr h

end RegionScript
