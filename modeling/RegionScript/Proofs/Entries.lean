import RegionScript.OrderedMap.Lemmas

/-!
Maps as lists of entries.

What a schedule has pending is counted and compared in the order of its keys, and the script store
scans its records in that order, so the operations on maps are also said on entries: setting a new
key adds one entry, at the end if the key comes behind all others, and dropping the first key leaves
the rest. Entries are chosen by their keys, or carried over to keys of the same order, as well
before one is set as after it.
-/

namespace RegionScript.OrderedMap

variable {κ α : Type} [Ord κ]

theorem ext_entries {m n : OrderedMap κ α} (h : m.entries = n.entries) : m = n := by
  cases m
  cases n
  cases h
  rfl

/-! ### Where an entry is put -/

theorem insertEntry_first {k : κ} {l : List (κ × α)} (a : α)
    (h : ∀ e ∈ l, compare k e.1 = .lt) : insertEntry k a l = (k, a) :: l := by
  cases l with
  | nil => rfl
  | cons e rest => rw [insertEntry, h e (List.mem_cons_self ..)]

theorem insertEntry_last {k : κ} {l : List (κ × α)} (a : α)
    (h : ∀ e ∈ l, compare k e.1 = .gt) : insertEntry k a l = l ++ [(k, a)] := by
  induction l with
  | nil => rfl
  | cons e rest ih =>
    rw [insertEntry, h e (List.mem_cons_self ..)]
    exact congrArg (e :: ·) (ih fun x hx => h x (List.mem_cons_of_mem e hx))

/-- Keys of the same order have their entries at the same places. -/
theorem insertEntry_map {κ' β : Type} [Ord κ'] {f : κ → κ'} {k : κ}
    {l : List (κ × α)} (g : κ → α → β) (a : α)
    (h : ∀ e ∈ l, compare (f k) (f e.1) = compare k e.1) :
    insertEntry (f k) (g k a) (l.map fun e => (f e.1, g e.1 e.2)) =
      (insertEntry k a l).map fun e => (f e.1, g e.1 e.2) := by
  induction l with
  | nil => rfl
  | cons e rest ih =>
    have hrest := ih fun x hx => h x (List.mem_cons_of_mem e hx)
    rw [List.map_cons, insertEntry, insertEntry, h e (List.mem_cons_self ..)]
    cases compare k e.1 with
    | lt => rfl
    | eq => rfl
    | gt => rw [hrest]; rfl

variable [Std.LawfulEqOrd κ]

theorem findEntry_map_key {κ' β : Type} [Ord κ'] {f : κ → κ'} {k : κ} {l : List (κ × α)}
    (g : κ → α → β) (h : ∀ e ∈ l, compare (f k) (f e.1) = compare k e.1) :
    findEntry (f k) (l.map fun e => (f e.1, g e.1 e.2)) = (findEntry k l).map (g k) := by
  induction l with
  | nil => rfl
  | cons e rest ih =>
    rw [List.map_cons, findEntry, findEntry, h e (List.mem_cons_self ..),
      ih fun x hx => h x (List.mem_cons_of_mem e hx)]
    by_cases hk : compare k e.1 = .eq
    · rw [if_pos hk, if_pos hk, Std.LawfulEqCmp.eq_of_compare hk]
      rfl
    · rw [if_neg hk, if_neg hk]

/-! ### Operations on entries -/

/-- Dropping the first key leaves the entries behind it. -/
theorem entries_erase_first {m : OrderedMap κ α} {e : κ × α} {rest : List (κ × α)}
    (h : m.entries = e :: rest) : (m.erase e.1).entries = rest := by
  have hasc := m.ascending
  rw [h] at hasc
  have hlt := (List.pairwise_cons.mp hasc).1
  show m.entries.filter (fun x => compare e.1 x.1 ≠ .eq) = rest
  rw [h, List.filter_cons_of_neg (by simp)]
  refine List.filter_eq_self.mpr fun x hx => ?_
  rw [hlt x hx]
  rfl

theorem insertEntry_perm (k : κ) (a : α) :
    ∀ {l : List (κ × α)}, findEntry k l = none → (insertEntry k a l).Perm ((k, a) :: l)
  | [], _ => .refl _
  | e :: rest, h => by
    unfold insertEntry
    have hne : k ≠ e.1 := fun he => by simp [findEntry, he] at h
    rw [findEntry_cons_of_ne hne] at h
    split
    · exact .refl _
    · next heq => exact absurd (Std.LawfulEqCmp.eq_of_compare heq) hne
    · exact ((insertEntry_perm k a h).cons e).trans (.swap (k, a) e rest)

/-- Setting a key that has no value adds one entry. -/
theorem entries_insert_perm [Std.TransOrd κ] {m : OrderedMap κ α} {k : κ} (a : α)
    (h : m.get? k = none) : (m.insert k a).entries.Perm ((k, a) :: m.entries) :=
  insertEntry_perm k a h

/-- An entry that is not chosen changes nothing for those that are. -/
theorem filter_insertEntry_of_neg {p : κ → Bool} {k : κ} (hk : p k = false) (a : α)
    (l : List (κ × α)) : (insertEntry k a l).filter (p ·.1) = l.filter (p ·.1) := by
  induction l with
  | nil => simp [insertEntry, hk]
  | cons e rest ih =>
    unfold insertEntry
    split
    · rw [List.filter_cons_of_neg (by simp [hk])]
    · next heq =>
      have he : p e.1 = false := Std.LawfulEqCmp.eq_of_compare heq ▸ hk
      rw [List.filter_cons_of_neg (by simp [hk]), List.filter_cons_of_neg (by simp [he])]
    · rw [List.filter_cons, ih, List.filter_cons]

/-- An entry that is chosen is put among those that are. -/
theorem filter_insertEntry_of_pos [Std.TransOrd κ] {p : κ → Bool} {k : κ} (hk : p k = true) (a : α)
    {l : List (κ × α)} (hl : l.Pairwise fun a b => compare a.1 b.1 = .lt) :
    (insertEntry k a l).filter (p ·.1) = insertEntry k a (l.filter (p ·.1)) := by
  have hchosen : ∀ (e : κ × α) (rest : List (κ × α)), p e.1 = true →
      (e :: rest).filter (p ·.1) = e :: rest.filter (p ·.1) :=
    fun e rest he => by rw [List.filter_cons, if_pos he]
  induction l with
  | nil => exact hchosen (k, a) [] hk
  | cons e rest ih =>
    obtain ⟨hhead, hrest⟩ := List.pairwise_cons.mp hl
    rw [insertEntry]
    split
    · next hlt =>
      rw [hchosen (k, a) _ hk, insertEntry_first]
      intro x hx
      rcases List.mem_cons.mp (List.mem_filter.mp hx).1 with rfl | hx
      · exact hlt
      · exact Std.TransCmp.lt_trans hlt (hhead x hx)
    · next heq =>
      have he : p e.1 = true := Std.LawfulEqCmp.eq_of_compare heq ▸ hk
      rw [hchosen (k, a) _ hk, hchosen e _ he, insertEntry, heq]
    · next hgt =>
      by_cases he : p e.1 = true
      · rw [hchosen e _ he, hchosen e _ he, insertEntry, hgt, ih hrest]
      · rw [List.filter_cons, if_neg he, List.filter_cons, if_neg he, ih hrest]

/-! ### Maps made from lists -/

variable [Std.TransOrd κ] {β : Type}

/-- A map is made of its own entries. -/
theorem ofList_entries (m : OrderedMap κ α) : ofList m.entries = m := by
  -- what is already set comes before all that is still to be set
  suffices h : ∀ (l : List (κ × α)) (n : OrderedMap κ α),
      ((n.entries ++ l).Pairwise fun a b => compare a.1 b.1 = .lt) →
        (l.foldl (fun n e => n.insert e.1 e.2) n).entries = n.entries ++ l from
    ext_entries (h m.entries empty m.ascending)
  intro l
  induction l with
  | nil => exact fun n _ => (List.append_nil _).symm
  | cons e rest ih =>
    intro n hall
    have hlast : (n.insert e.1 e.2).entries = n.entries ++ [e] :=
      insertEntry_last e.2 fun x hx => Std.OrientedCmp.gt_iff_lt.mpr
        ((List.pairwise_append.mp hall).2.2 x hx e (List.mem_cons_self ..))
    rw [List.append_cons] at hall ⊢
    rw [← hlast] at hall ⊢
    exact ih (n.insert e.1 e.2) hall

theorem map_insert (m : OrderedMap κ α) (k : κ) (a : α) (f : κ → α → β) :
    (m.insert k a).map f = (m.map f).insert k (f k a) :=
  have hentries : insertEntry k (f k a) (m.entries.map fun e => (e.1, f e.1 e.2)) =
      (insertEntry k a m.entries).map fun e => (e.1, f e.1 e.2) :=
    insertEntry_map (f := id) f a fun _ _ => rfl
  ext_entries hentries.symm

theorem map_ofList (l : List (κ × α)) (f : κ → α → β) :
    (ofList l).map f = ofList (l.map fun e => (e.1, f e.1 e.2)) := by
  suffices h : ∀ m : OrderedMap κ α, (l.foldl (fun m e => m.insert e.1 e.2) m).map f =
      (l.map fun e => (e.1, f e.1 e.2)).foldl (fun m e => m.insert e.1 e.2) (m.map f) from
    h empty
  induction l with
  | nil => exact fun _ => rfl
  | cons e rest ih =>
    intro m
    rw [List.foldl_cons, ih, map_insert, List.map_cons, List.foldl_cons]

theorem filter_insert (m : OrderedMap κ α) (k : κ) (a : α) (p : κ → Bool) :
    (m.insert k a).filter (fun k _ => p k) =
      if p k then (m.filter fun k _ => p k).insert k a else m.filter fun k _ => p k := by
  by_cases hk : p k = true
  · rw [if_pos hk]
    exact ext_entries (filter_insertEntry_of_pos hk a m.ascending)
  · rw [if_neg hk]
    exact ext_entries (filter_insertEntry_of_neg (Bool.eq_false_iff.mpr hk) a m.entries)

/-- Entries are chosen by their keys before they make up a map as well as after it. -/
theorem filter_ofList (l : List (κ × α)) (p : κ → Bool) :
    (ofList l).filter (fun k _ => p k) = ofList (l.filter (p ·.1)) := by
  suffices h : ∀ m : OrderedMap κ α,
      (l.foldl (fun m e => m.insert e.1 e.2) m).filter (fun k _ => p k) =
        (l.filter (p ·.1)).foldl (fun m e => m.insert e.1 e.2) (m.filter fun k _ => p k) from
    h empty
  induction l with
  | nil => exact fun _ => rfl
  | cons e rest ih =>
    intro m
    rw [List.foldl_cons, ih, filter_insert, List.filter_cons]
    split <;> rfl

end RegionScript.OrderedMap
