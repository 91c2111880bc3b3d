/-!
Finite maps kept as a list of entries in ascending key order.

Everything the engine stores by key — catalog entries, live objects, scripts by id, pending steps
by due time, records of the script store — is walked in key order somewhere, so the order belongs
to the type: `ascending` is a field. `OrderedMap.Lemmas` says what each operation does to the look-
ups, and that a map is its look-ups.
-/

namespace RegionScript

/-- A list that is sorted by its keys ascends, but for equal keys. -/
theorem pairwise_mergeSort_key {κ α : Type} [Ord κ] [Std.TransOrd κ] (key : α → κ) (l : List α) :
    (l.mergeSort fun a b => (compare (key a) (key b)).isLE).Pairwise
      fun a b => (compare (key a) (key b)).isLE = true := by
  refine List.pairwise_mergeSort (fun _ _ _ => Std.TransCmp.isLE_trans) (fun a b => ?_) l
  have hswap : compare (key b) (key a) = (compare (key a) (key b)).swap := Std.OrientedCmp.eq_swap
  rw [hswap]
  cases compare (key a) (key b) <;> rfl

/-- A map from `κ` to `α`: entries with strictly ascending keys. -/
structure OrderedMap (κ α : Type) [Ord κ] where
  entries : List (κ × α)
  ascending : entries.Pairwise fun a b => compare a.1 b.1 = .lt

namespace OrderedMap

variable {κ α β : Type} [Ord κ]

instance [DecidableEq κ] [DecidableEq α] : DecidableEq (OrderedMap κ α) := fun m n =>
  if h : m.entries = n.entries then
    isTrue (by cases m; cases n; cases h; rfl)
  else
    isFalse fun e => h (e ▸ rfl)

/-- The map without entries. -/
def empty : OrderedMap κ α := ⟨[], List.Pairwise.nil⟩

instance : EmptyCollection (OrderedMap κ α) := ⟨empty⟩
instance : Inhabited (OrderedMap κ α) := ⟨empty⟩

/-- Puts `(k, a)` at its place, over an entry of the same key. -/
def insertEntry (k : κ) (a : α) : List (κ × α) → List (κ × α)
  | [] => [(k, a)]
  | e :: rest =>
    match compare k e.1 with
    | .lt => (k, a) :: e :: rest
    | .eq => (k, a) :: rest
    | .gt => e :: insertEntry k a rest

/-- The value of the first entry with key `k`. -/
def findEntry (k : κ) : List (κ × α) → Option α
  | [] => none
  | e :: rest => if compare k e.1 = .eq then some e.2 else findEntry k rest

theorem mem_insertEntry {k : κ} {a : α} {x : κ × α} :
    ∀ {l : List (κ × α)}, x ∈ insertEntry k a l → x = (k, a) ∨ x ∈ l
  | [], h => by simpa [insertEntry] using h
  | e :: rest, h => by
    unfold insertEntry at h
    split at h
    · simpa using h
    · rcases List.mem_cons.mp h with h | h
      · exact .inl h
      · exact .inr (List.mem_cons_of_mem _ h)
    · rcases List.mem_cons.mp h with h | h
      · exact .inr (h ▸ List.mem_cons_self ..)
      · rcases mem_insertEntry h with h | h
        · exact .inl h
        · exact .inr (List.mem_cons_of_mem _ h)

section Lawful

variable [Std.TransOrd κ] [Std.LawfulEqOrd κ]

theorem insertEntry_ascending (k : κ) (a : α) :
    ∀ {l : List (κ × α)}, (l.Pairwise fun a b => compare a.1 b.1 = .lt) →
      (insertEntry k a l).Pairwise fun a b => compare a.1 b.1 = .lt
  | [], _ => by simp [insertEntry]
  | e :: rest, h => by
    have hrest := List.pairwise_cons.mp h
    unfold insertEntry
    split
    · next hlt =>
      refine List.pairwise_cons.mpr ⟨fun x hx => ?_, h⟩
      rcases List.mem_cons.mp hx with rfl | hx
      · exact hlt
      · exact Std.TransCmp.lt_trans hlt (hrest.1 x hx)
    · next heq =>
      have hk : k = e.1 := Std.LawfulEqCmp.eq_of_compare heq
      subst hk
      exact List.pairwise_cons.mpr ⟨hrest.1, hrest.2⟩
    · next hgt =>
      have hlt : compare e.1 k = .lt := Std.OrientedCmp.gt_iff_lt.mp hgt
      refine List.pairwise_cons.mpr ⟨fun x hx => ?_, insertEntry_ascending k a hrest.2⟩
      rcases mem_insertEntry hx with rfl | hx
      · exact hlt
      · exact hrest.1 x hx

/-- Sets the value of `k`, replacing an earlier one. -/
def insert (m : OrderedMap κ α) (k : κ) (a : α) : OrderedMap κ α :=
  ⟨insertEntry k a m.entries, insertEntry_ascending k a m.ascending⟩

/-- The map that holds each key's last value in `l`. -/
def ofList (l : List (κ × α)) : OrderedMap κ α :=
  l.foldl (fun m e => m.insert e.1 e.2) empty

/-- Gives `k` the value `f none` when it is absent and `f (some a)` when it holds `a`. -/
def upsert (m : OrderedMap κ α) (k : κ) (f : Option α → α) : OrderedMap κ α :=
  m.insert k (f (findEntry k m.entries))

end Lawful

/-- The value of key `k`, if any. -/
def get? (m : OrderedMap κ α) (k : κ) : Option α := findEntry k m.entries

/-- Whether `k` has a value. -/
def contains (m : OrderedMap κ α) (k : κ) : Bool := (m.get? k).isSome

/-- The keys, ascending. -/
def keys (m : OrderedMap κ α) : List κ := m.entries.map (·.1)

/-- The values, in the order of their keys. -/
def values (m : OrderedMap κ α) : List α := m.entries.map (·.2)

/-- The number of entries. -/
def size (m : OrderedMap κ α) : Nat := m.entries.length

/-- Whether there is no entry. -/
def isEmpty (m : OrderedMap κ α) : Bool := m.entries.isEmpty

/-- The entry with the smallest key. -/
def first? (m : OrderedMap κ α) : Option (κ × α) := m.entries.head?

/-- Keeps the entries that satisfy `p`. -/
def filter (m : OrderedMap κ α) (p : κ → α → Bool) : OrderedMap κ α :=
  ⟨m.entries.filter fun e => p e.1 e.2, m.ascending.filter _⟩

/-- Drops the entry of `k`. -/
def erase (m : OrderedMap κ α) (k : κ) : OrderedMap κ α :=
  m.filter fun j _ => compare k j ≠ .eq

/-- Drops the entries of several keys. -/
def eraseAll (m : OrderedMap κ α) (keys : List κ) : OrderedMap κ α := keys.foldl erase m

/-- Changes every value, keys staying as they are. -/
def map (m : OrderedMap κ α) (f : κ → α → β) : OrderedMap κ β :=
  ⟨m.entries.map fun e => (e.1, f e.1 e.2), by
    rw [List.pairwise_map]; exact m.ascending⟩

/-- Changes the value of `k`, if it has one. -/
def modify (m : OrderedMap κ α) (k : κ) (f : α → α) : OrderedMap κ α :=
  m.map fun j a => if compare k j = .eq then f a else a

@[simp] theorem get?_empty (k : κ) : (empty : OrderedMap κ α).get? k = none := rfl

end OrderedMap

/-- A set of keys: a map without values. -/
abbrev OrderedSet (κ : Type) [Ord κ] := OrderedMap κ Unit

namespace OrderedSet

variable {κ : Type} [Ord κ]

/-- The members, ascending. -/
def toList (s : OrderedSet κ) : List κ := OrderedMap.keys s

variable [Std.TransOrd κ] [Std.LawfulEqOrd κ]

/-- Adds `k`. -/
def add (s : OrderedSet κ) (k : κ) : OrderedSet κ := OrderedMap.insert s k ()

/-- The set of the members of `l`. -/
def ofList (l : List κ) : OrderedSet κ := l.foldl add OrderedMap.empty

end OrderedSet

end RegionScript
