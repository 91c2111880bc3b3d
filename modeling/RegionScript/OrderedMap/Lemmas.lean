import RegionScript.OrderedMap

/-!
What each operation on a map does to its look-ups.

`mem_entries_iff` ties the entries to the look-ups: ascending keys leave room for one value a key.
From it follow the equations of `filter` and `erase`, and `ext_get?`: a map is its look-ups. Sets,
which are maps without values, are known by their members.
-/

namespace RegionScript.OrderedMap

variable {κ α β : Type} [Ord κ]

theorem contains_iff (m : OrderedMap κ α) (k : κ) : m.contains k ↔ ∃ a, m.get? k = some a :=
  Option.isSome_iff_exists

/-! ### Keys and values in key order -/

theorem keys_ascending [LE κ] [LT κ] [Std.LawfulOrderOrd κ] [Std.LawfulOrderLT κ]
    (m : OrderedMap κ α) : m.keys.Pairwise (· < ·) :=
  List.pairwise_map.mpr (m.ascending.imp Std.compare_eq_lt.mp)

theorem values_map (m : OrderedMap κ α) (f : α → β) :
    (m.map fun _ a => f a).values = m.values.map f := by
  unfold values map
  simp only [List.map_map]
  rfl

theorem values_filter (m : OrderedMap κ α) (p : α → Bool) :
    (m.filter fun _ a => p a).values = m.values.filter p := by
  unfold values filter
  simp only [List.filter_map]
  rfl

variable [Std.LawfulEqOrd κ]

/-! ### Changing values -/

theorem findEntry_map (f : κ → α → β) (k : κ) (l : List (κ × α)) :
    findEntry k (l.map fun e => (e.1, f e.1 e.2)) = (findEntry k l).map (f k) := by
  induction l with
  | nil => rfl
  | cons e rest ih =>
    by_cases hk : k = e.1
    · simp [findEntry, hk]
    · simpa [findEntry, hk] using ih

theorem get?_map (m : OrderedMap κ α) (f : κ → α → β) (k : κ) :
    (m.map f).get? k = (m.get? k).map (f k) :=
  findEntry_map f k m.entries

theorem get?_modify [DecidableEq κ] (m : OrderedMap κ α) (j k : κ) (f : α → α) :
    (m.modify k f).get? j = if j = k then (m.get? j).map f else m.get? j := by
  unfold modify
  rw [get?_map]
  by_cases h : j = k
  · subst h
    cases m.get? j <;> simp
  · cases m.get? j <;> simp [h, Ne.symm h]

theorem get?_modify_self [DecidableEq κ] (m : OrderedMap κ α) (k : κ) (f : α → α) :
    (m.modify k f).get? k = (m.get? k).map f := by
  rw [get?_modify, if_pos rfl]

/-- What holds of all entries holds of them after one is changed that keeps it. -/
theorem forall_modify [DecidableEq κ] {m : OrderedMap κ α} {P : κ → α → Prop}
    (h : ∀ j b, m.get? j = some b → P j b) {k : κ} {f : α → α} (hf : ∀ a, P k a → P k (f a)) :
    ∀ j b, (m.modify k f).get? j = some b → P j b := by
  intro j b hj
  rw [get?_modify] at hj
  split at hj
  · next hjk =>
    subst hjk
    obtain ⟨a, ha, rfl⟩ := Option.map_eq_some_iff.mp hj
    exact hf a (h j a ha)
  · exact h j b hj

@[simp] theorem contains_modify [DecidableEq κ] (m : OrderedMap κ α) (j k : κ) (f : α → α) :
    (m.modify k f).contains j = m.contains j := by
  unfold contains
  rw [get?_modify]
  split
  · exact Option.isSome_map
  · rfl

/-! ### Entries -/

theorem findEntry_cons_self (k : κ) (a : α) (rest : List (κ × α)) :
    findEntry k ((k, a) :: rest) = some a := by
  simp [findEntry]

theorem findEntry_cons_of_ne {j : κ} {e : κ × α} (h : j ≠ e.1) (rest : List (κ × α)) :
    findEntry j (e :: rest) = findEntry j rest := by
  simp [findEntry, h]

/-- An entry is found where it was put, and the others stay as they were. -/
theorem findEntry_insertEntry [DecidableEq κ] (j k : κ) (a : α) :
    ∀ l : List (κ × α), findEntry j (insertEntry k a l) = if j = k then some a else findEntry j l
  | [] => by
    by_cases h : j = k
    · subst h
      simp [insertEntry, findEntry]
    · simp [insertEntry, findEntry, h]
  | e :: rest => by
    unfold insertEntry
    split
    · by_cases h : j = k
      · subst h
        simp [findEntry]
      · rw [findEntry_cons_of_ne (e := (k, a)) h, if_neg h]
    · next heq =>
      have hk : k = e.1 := Std.LawfulEqCmp.eq_of_compare heq
      by_cases h : j = k
      · subst h
        simp [findEntry]
      · rw [findEntry_cons_of_ne (e := (k, a)) h, if_neg h, findEntry_cons_of_ne (hk ▸ h)]
    · next hgt =>
      have hne : k ≠ e.1 := by
        rintro rfl
        simp at hgt
      by_cases h : j = e.1
      · have hj : j ≠ k := fun hk => hne (hk ▸ h)
        simp [findEntry, h, hne.symm]
      · rw [findEntry_cons_of_ne h, findEntry_cons_of_ne h, findEntry_insertEntry j k a rest]

/-- In a list with ascending keys, an entry is in it if and only if it is the one found. -/
theorem mem_iff_findEntry {k : κ} {a : α} :
    ∀ {l : List (κ × α)}, (l.Pairwise fun a b => compare a.1 b.1 = .lt) →
      ((k, a) ∈ l ↔ findEntry k l = some a)
  | [], _ => by simp [findEntry]
  | e :: rest, h => by
    obtain ⟨hhead, hrest⟩ := List.pairwise_cons.mp h
    have ih := mem_iff_findEntry (k := k) (a := a) hrest
    by_cases hk : k = e.1
    · have hnot : (k, a) ∉ rest := fun hmem => by
        have hlt := hhead _ hmem
        simp [hk] at hlt
      constructor
      · intro hmem
        rcases List.mem_cons.mp hmem with he | hmem
        · rw [← he]
          exact findEntry_cons_self k a rest
        · exact absurd hmem hnot
      · intro hfound
        have ha : e.2 = a := by simpa [findEntry, hk] using hfound
        exact List.mem_cons.mpr (.inl (Prod.ext hk ha.symm))
    · rw [findEntry_cons_of_ne hk, ← ih]
      constructor
      · intro hmem
        rcases List.mem_cons.mp hmem with he | hmem
        · exact absurd (congrArg Prod.fst he) hk
        · exact hmem
      · exact fun hmem => List.mem_cons_of_mem _ hmem

/-! ### Look-ups -/

theorem mem_entries_iff (m : OrderedMap κ α) (k : κ) (a : α) :
    (k, a) ∈ m.entries ↔ m.get? k = some a :=
  mem_iff_findEntry m.ascending

theorem get?_filter (m : OrderedMap κ α) (p : κ → α → Bool) (k : κ) :
    (m.filter p).get? k = (m.get? k).filter (p k) := by
  ext a
  rw [← mem_entries_iff, Option.filter_eq_some_iff, ← mem_entries_iff]
  exact List.mem_filter

theorem get?_erase [DecidableEq κ] (m : OrderedMap κ α) (j k : κ) :
    (m.erase k).get? j = if j = k then none else m.get? j := by
  unfold erase
  rw [get?_filter]
  by_cases h : j = k
  · subst h
    cases m.get? j <;> simp
  · cases m.get? j <;> simp [h, Ne.symm h]

theorem contains_erase [DecidableEq κ] (m : OrderedMap κ α) {j k : κ} (h : j ≠ k) :
    (m.erase k).contains j = m.contains j := by
  unfold contains
  rw [get?_erase, if_neg h]

theorem get?_eraseAll [DecidableEq κ] (m : OrderedMap κ α) (keys : List κ) (k : κ) :
    (m.eraseAll keys).get? k = if k ∈ keys then none else m.get? k := by
  unfold eraseAll
  induction keys generalizing m with
  | nil => rfl
  | cons j rest ih =>
    rw [List.foldl_cons, ih, get?_erase]
    by_cases hk : k = j <;> simp [hk]

/-- The key of an entry is a key. -/
theorem mem_keys_iff (m : OrderedMap κ α) (k : κ) : k ∈ m.keys ↔ ∃ a, m.get? k = some a := by
  unfold keys
  constructor
  · intro h
    obtain ⟨e, he, rfl⟩ := List.mem_map.mp h
    exact ⟨e.2, (mem_entries_iff m e.1 e.2).mp he⟩
  · rintro ⟨a, ha⟩
    exact List.mem_map.mpr ⟨(k, a), (mem_entries_iff m k a).mpr ha, rfl⟩

/-- A value that is walked is the value of a key. -/
theorem mem_values_iff (m : OrderedMap κ α) (a : α) : a ∈ m.values ↔ ∃ k, m.get? k = some a := by
  unfold values
  constructor
  · intro h
    obtain ⟨e, he, rfl⟩ := List.mem_map.mp h
    exact ⟨e.1, (mem_entries_iff m e.1 e.2).mp he⟩
  · rintro ⟨k, hk⟩
    exact List.mem_map.mpr ⟨(k, a), (mem_entries_iff m k a).mpr hk, rfl⟩

/-- Values that tell their own keys are walked in the order of those. -/
theorem values_ascending {m : OrderedMap κ α} {key : α → κ}
    (h : ∀ k a, m.get? k = some a → key a = k) :
    m.values.Pairwise fun a b => compare (key a) (key b) = .lt := by
  refine List.pairwise_map.mpr (m.ascending.imp_of_mem fun {e f} he hf hlt => ?_)
  rw [h _ _ ((mem_entries_iff m e.1 e.2).mp he), h _ _ ((mem_entries_iff m f.1 f.2).mp hf)]
  exact hlt

/-- A key stands once among the keys. -/
theorem nodup_keys (m : OrderedMap κ α) : m.keys.Nodup := by
  refine List.pairwise_map.mpr (m.ascending.imp fun {a b} hlt heq => ?_)
  rw [heq] at hlt
  simp at hlt

variable [Std.TransOrd κ]

/-- Two lists with ascending keys and the same entries are equal. -/
theorem eq_of_mem_iff :
    ∀ {l l' : List (κ × α)}, (l.Pairwise fun a b => compare a.1 b.1 = .lt) →
      (l'.Pairwise fun a b => compare a.1 b.1 = .lt) → (∀ e, e ∈ l ↔ e ∈ l') → l = l'
  | [], [], _, _, _ => rfl
  | [], b :: _, _, _, h => absurd ((h b).mpr (List.mem_cons_self ..)) (by simp)
  | a :: _, [], _, _, h => absurd ((h a).mp (List.mem_cons_self ..)) (by simp)
  | a :: rest, b :: rest', hl, hl', h => by
    obtain ⟨ha, hrest⟩ := List.pairwise_cons.mp hl
    obtain ⟨hb, hrest'⟩ := List.pairwise_cons.mp hl'
    have hab : a = b := by
      rcases List.mem_cons.mp ((h a).mp (List.mem_cons_self ..)) with hab | hmem
      · exact hab
      · rcases List.mem_cons.mp ((h b).mpr (List.mem_cons_self ..)) with hba | hmem'
        · exact hba.symm
        · have hlt := Std.TransCmp.lt_trans (ha _ hmem') (hb _ hmem)
          simp at hlt
    subst hab
    have htail : ∀ e, e ∈ rest ↔ e ∈ rest' := fun e => by
      constructor
      · intro hmem
        rcases List.mem_cons.mp ((h e).mp (List.mem_cons_of_mem _ hmem)) with rfl | hmem'
        · have hlt := ha _ hmem
          simp at hlt
        · exact hmem'
      · intro hmem
        rcases List.mem_cons.mp ((h e).mpr (List.mem_cons_of_mem _ hmem)) with rfl | hmem'
        · have hlt := hb _ hmem
          simp at hlt
        · exact hmem'
    rw [eq_of_mem_iff hrest hrest' htail]

/-- Maps with the same look-ups are equal. -/
theorem ext_get? {m n : OrderedMap κ α} (h : ∀ k, m.get? k = n.get? k) : m = n := by
  have hentries : m.entries = n.entries :=
    eq_of_mem_iff m.ascending n.ascending fun e => by
      rw [mem_entries_iff, mem_entries_iff, h]
  cases m
  cases n
  cases hentries
  rfl

theorem get?_insert [DecidableEq κ] (m : OrderedMap κ α) (j k : κ) (a : α) :
    (m.insert k a).get? j = if j = k then some a else m.get? j :=
  findEntry_insertEntry j k a m.entries

theorem contains_insert [DecidableEq κ] (m : OrderedMap κ α) {j k : κ} (a : α) (h : j ≠ k) :
    (m.insert k a).contains j = m.contains j := by
  unfold contains
  rw [get?_insert, if_neg h]

/-- Values of different keys may be set in either order. -/
theorem insert_comm [DecidableEq κ] (m : OrderedMap κ α) {j k : κ} (h : j ≠ k) (a b : α) :
    (m.insert j a).insert k b = (m.insert k b).insert j a := by
  refine ext_get? fun i => ?_
  simp only [get?_insert]
  by_cases hj : i = j
  · have hk : i ≠ k := fun hk => h (hj ▸ hk)
    rw [if_neg hk, if_pos hj, if_pos hj]
  · rw [if_neg hj, if_neg hj]

theorem map_map {γ : Type} (m : OrderedMap κ α) (f : κ → α → β) (g : κ → β → γ) :
    (m.map f).map g = m.map fun k a => g k (f k a) := by
  refine ext_get? fun k => ?_
  rw [get?_map, get?_map, get?_map, Option.map_map]
  rfl

/-- A change that a projection does not see. -/
theorem map_modify (m : OrderedMap κ α) (k : κ) {f : α → α} {p : α → β}
    (hf : ∀ a, p (f a) = p a) : ((m.modify k f).map fun _ a => p a) = m.map fun _ a => p a := by
  unfold modify
  rw [map_map]
  congr
  funext j a
  split
  · exact hf a
  · rfl

/-- What holds of all entries, and of one that is set, holds of all entries after it. -/
theorem forall_insert [DecidableEq κ] {m : OrderedMap κ α} {P : κ → α → Prop}
    (h : ∀ j b, m.get? j = some b → P j b) {k : κ} {a : α} (ha : P k a) :
    ∀ j b, (m.insert k a).get? j = some b → P j b := by
  intro j b hj
  rw [get?_insert] at hj
  split at hj
  · next hjk =>
    obtain rfl := Option.some.inj hj
    exact hjk ▸ ha
  · exact h j b hj

theorem get?_upsert [DecidableEq κ] (m : OrderedMap κ α) (j k : κ) (f : Option α → α) :
    (m.upsert k f).get? j = if j = k then some (f (m.get? k)) else m.get? j :=
  get?_insert m j k _

/-- Of a key written several times the last value stays. -/
theorem get?_ofList [DecidableEq κ] (l : List (κ × α)) (k : κ) :
    (ofList l).get? k = l.reverse.lookup k := by
  suffices h : ∀ (l : List (κ × α)) (m : OrderedMap κ α),
      (l.foldl (fun m e => m.insert e.1 e.2) m).get? k = (l.reverse.lookup k).or (m.get? k) by
    have hl := h l empty
    rwa [get?_empty, Option.or_none] at hl
  intro l
  induction l with
  | nil => intro m; rfl
  | cons e rest ih =>
    intro m
    obtain ⟨j, a⟩ := e
    rw [List.foldl_cons, ih, get?_insert, List.reverse_cons, List.lookup_append]
    cases rest.reverse.lookup k with
    | some later => rfl
    | none =>
      by_cases hk : k = j
      · simp [hk]
      · have hbeq : (k == j) = false := beq_eq_false_iff_ne.mpr hk
        simp [List.lookup_cons, hbeq, hk]

end RegionScript.OrderedMap

namespace RegionScript.OrderedSet

variable {κ : Type} [Ord κ] [Std.LawfulEqOrd κ]

theorem mem_toList_iff (s : OrderedSet κ) (k : κ) : k ∈ toList s ↔ s.contains k = true := by
  rw [toList, OrderedMap.mem_keys_iff, OrderedMap.contains_iff]

variable [Std.TransOrd κ] [DecidableEq κ]

theorem contains_add_iff (s : OrderedSet κ) (j k : κ) :
    (add s k).contains j = true ↔ j = k ∨ s.contains j = true := by
  rw [OrderedMap.contains, add, OrderedMap.get?_insert]
  by_cases h : j = k
  · simp [h]
  · simp [h, OrderedMap.contains]

/-- A set that is built from a list has the members of the list. -/
theorem contains_ofList_iff (l : List κ) (k : κ) : (ofList l).contains k = true ↔ k ∈ l := by
  suffices h : ∀ (l : List κ) (s : OrderedSet κ),
      (l.foldl add s).contains k = true ↔ k ∈ l ∨ s.contains k = true by
    have hempty : ¬ (OrderedMap.empty : OrderedSet κ).contains k = true := Bool.false_ne_true
    exact (h l OrderedMap.empty).trans (or_iff_left hempty)
  intro l
  induction l with
  | nil => intro s; simp
  | cons a rest ih =>
    intro s
    rw [List.foldl_cons, ih, contains_add_iff, List.mem_cons, or_left_comm, or_assoc]

end RegionScript.OrderedSet
