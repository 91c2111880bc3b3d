import RegionScript.OrderedMap

/-!
Numbers for script names.

All known names, each once and in ascending order, the empty name always among them and therefore
first: a name's number is its place, and zero stands for no script. The names are sorted, and of
equal neighbours one is left; the place of a name is found by halving the list, as often as needed.
-/

namespace RegionScript

/-- The known script names, ascending. -/
structure ScriptNames where
  names : List String
  ascending : names.Pairwise fun a b => compare a b = .lt

namespace ScriptNames

instance : DecidableEq ScriptNames := fun n m =>
  if h : n.names = m.names then
    isTrue (by cases n; cases m; cases h; rfl)
  else
    isFalse fun e => h (e ▸ rfl)

/-- Of equal neighbours the first one is left. -/
def withoutRepeats : List String → List String
  | [] => []
  | [name] => [name]
  | name :: other :: rest =>
    if name = other then withoutRepeats (other :: rest)
    else name :: withoutRepeats (other :: rest)

theorem mem_withoutRepeats {name : String} {l : List String} :
    name ∈ withoutRepeats l ↔ name ∈ l := by
  fun_induction withoutRepeats l with
  | case1 | case2 => rfl
  | case3 other rest ih =>
    rw [ih]
    exact ⟨List.mem_cons_of_mem other, fun h =>
      (List.mem_cons.mp h).elim (fun heq => heq ▸ List.mem_cons_self ..) id⟩
  | case4 first other rest hne ih => rw [List.mem_cons, ih, ← List.mem_cons]

/-- Of a sorted list, the names that are left ascend. -/
theorem ascending_withoutRepeats {l : List String}
    (h : l.Pairwise fun a b => (compare a b).isLE = true) :
    (withoutRepeats l).Pairwise fun a b => compare a b = .lt := by
  fun_induction withoutRepeats l with
  | case1 => exact .nil
  | case2 name => exact List.pairwise_singleton _ name
  | case3 other rest ih => exact ih h.tail
  | case4 name other rest hne ih =>
    obtain ⟨hhead, hrest⟩ := List.pairwise_cons.mp h
    have hlt : compare name other = .lt := by
      rcases Ordering.isLE_iff_eq_lt_or_eq_eq.mp (hhead other (List.mem_cons_self ..)) with h | h
      · exact h
      · exact absurd (Std.LawfulEqCmp.eq_of_compare h) hne
    refine List.pairwise_cons.mpr ⟨fun last hlast => ?_, ih hrest⟩
    rcases List.mem_cons.mp (mem_withoutRepeats.mp hlast) with rfl | hlast
    · exact hlt
    · exact Std.TransCmp.lt_of_lt_of_isLE hlt ((List.pairwise_cons.mp hrest).1 last hlast)

/-- The names in order; equal ones stay together. -/
def sorted (names : List String) : List String :=
  names.mergeSort fun a b => (compare a b).isLE

theorem pairwise_sorted (names : List String) :
    (sorted names).Pairwise fun a b => (compare a b).isLE = true :=
  pairwise_mergeSort_key id names

/-- The names of a list, and the empty name. -/
def ofList (names : List String) : ScriptNames :=
  ⟨withoutRepeats (sorted (names ++ [""])), ascending_withoutRepeats (pairwise_sorted _)⟩

/-- No name but the empty one. -/
def blank : ScriptNames := ⟨[""], List.pairwise_singleton _ ""⟩

/-- The place of a name among those from `low` up to `high`, by halving. -/
def search (names : List String) (name : String) (low high : Nat) : Option Nat :=
  if low < high then
    let middle := low + (high - low) / 2
    match names[middle]? with
    | none => none
    | some probe =>
      match compare probe name with
      | .lt => search names name (middle + 1) high
      | .eq => some middle
      | .gt => search names name low middle
  else none
termination_by high - low

/-- How many names there are, the empty one included. -/
def size (n : ScriptNames) : Nat := n.names.length

/-- The number of a name; zero when it is unknown. -/
def idOf (n : ScriptNames) (name : String) : UInt32 :=
  ((search n.names name 0 n.size).map UInt32.ofNat).getD 0

/-- The name with a number. -/
def name? (n : ScriptNames) (id : UInt32) : Option String := n.names[id.toNat]?

/-- How many numbers there are, in 32 bits. -/
def count (n : ScriptNames) : UInt32 := UInt32.ofNat n.size

end ScriptNames

end RegionScript
