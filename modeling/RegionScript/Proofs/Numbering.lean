import Mathlib.Data.Finset.Card
import RegionScript.Proofs.Entries
import RegionScript.Proofs.Keys
import RegionScript.Script.Names

/-!
Names and their numbers.

Names are kept in ascending order, each once, so a number and the name at its place stand for each
other, and of two names the one whose bytes come first has the smaller number. Sorting and leaving
out repeated neighbours does what putting the names into an ordered set does: there is one ascending
list of given names. Halving finds what a search from the first name on finds, because places ascend
as names do. The names that are kept are those of the list and the empty one, whatever their order
in the list and however often they are on it; no name comes before the empty one, which is therefore
numbered zero.
-/

namespace RegionScript.ScriptNames

/-! ### Names that are known -/

/-- The names of a list are known, and the empty name. -/
theorem mem_names_ofList_iff (l : List String) (name : String) :
    name ∈ (ofList l).names ↔ name ∈ "" :: l := by
  rw [ofList, mem_withoutRepeats, sorted, List.mem_mergeSort, List.mem_append,
    List.mem_singleton, List.mem_cons, or_comm]

theorem names_nodup (n : ScriptNames) : n.names.Nodup := by
  refine n.ascending.imp fun {a b} hlt heq => ?_
  rw [heq, Std.ReflOrd.compare_self] at hlt
  cases hlt

/-- There is only one way to number given names. -/
theorem ext_mem {n m : ScriptNames} (h : ∀ name, name ∈ n.names ↔ name ∈ m.names) : n = m := by
  have hperm : n.names.Perm m.names :=
    (List.perm_ext_iff_of_nodup n.names_nodup m.names_nodup).mpr h
  have hnames : n.names = m.names := by
    refine hperm.eq_of_pairwise (fun a b _ _ hlt hgt => ?_) n.ascending m.ascending
    rw [Std.OrientedCmp.gt_iff_lt.mpr hgt] at hlt
    cases hlt
  cases n
  cases m
  cases hnames
  rfl

/-- Names are numbered alike just when the same ones are known. -/
theorem ofList_eq_iff {l m : List String} :
    ofList l = ofList m ↔ ∀ name, name ∈ "" :: l ↔ name ∈ "" :: m := by
  constructor
  · intro h name
    rw [← mem_names_ofList_iff, ← mem_names_ofList_iff, h]
  · exact fun h => ext_mem fun name =>
      (mem_names_ofList_iff l name).trans ((h name).trans (mem_names_ofList_iff m name).symm)

/-- The names are those of an ordered set, in its order. -/
theorem names_ofList (l : List String) :
    (ofList l).names = ((OrderedSet.ofList l).add "").toList := by
  let set : ScriptNames :=
    ⟨((OrderedSet.ofList l).add "").toList, List.pairwise_map.mpr (OrderedMap.ascending _)⟩
  refine congrArg names (ext_mem (m := set) fun name => ?_)
  rw [mem_names_ofList_iff, OrderedSet.mem_toList_iff, OrderedSet.contains_add_iff,
    OrderedSet.contains_ofList_iff, List.mem_cons]

/-- Besides the empty name, every name of the list counts once. -/
theorem size_ofList (l : List String) : (ofList l).size = 1 + (l.toFinset.erase "").card := by
  have hset : (ofList l).names.toFinset = insert "" (l.toFinset.erase "") := by
    ext name
    rw [List.mem_toFinset, mem_names_ofList_iff, List.mem_cons, Finset.mem_insert,
      Finset.mem_erase, List.mem_toFinset]
    by_cases hname : name = "" <;> simp [hname]
  rw [size, ← List.toFinset_card_of_nodup (names_nodup _), hset,
    Finset.card_insert_of_notMem (Finset.notMem_erase "" l.toFinset), Nat.add_comm]

/-- A list is not longer than its names are many. -/
theorem size_ofList_le (l : List String) : (ofList l).size ≤ l.length + 1 := by
  rw [size_ofList, Nat.add_comm]
  exact Nat.succ_le_succ ((Finset.card_erase_le).trans (List.toFinset_card_le l))

/-! ### The order of names -/

/-- No text comes before the empty one. -/
theorem compare_empty_ne_lt (name : String) : compare name "" ≠ .lt := by
  intro h
  exact absurd (String.lt_iff.mp (compareOfLessAndEq_eq_lt.mp h)) (List.not_lt_nil _)

/-- The empty name is the first one. -/
theorem getElem?_ofList_zero (l : List String) : (ofList l).names[0]? = some "" := by
  have hempty : "" ∈ (ofList l).names := (mem_names_ofList_iff l "").mpr (List.mem_cons_self ..)
  have hascending := (ofList l).ascending
  cases hnames : (ofList l).names with
  | nil =>
    rw [hnames] at hempty
    cases hempty
  | cons name rest =>
    rw [hnames] at hempty hascending
    rcases List.mem_cons.mp hempty with rfl | hmem
    · rfl
    · exact absurd ((List.pairwise_cons.mp hascending).1 "" hmem) (compare_empty_ne_lt name)

section Places

variable {names : List String} (hascending : names.Pairwise fun a b => compare a b = .lt)
  {i j : Nat} {name other : String}

include hascending

/-- Places ascend as the names at them do. -/
theorem place_lt_iff (hi : names[i]? = some name) (hj : names[j]? = some other) :
    i < j ↔ compare name other = .lt := by
  have hlater : ∀ {i j : Nat} {name other : String}, names[i]? = some name →
      names[j]? = some other → i < j → compare name other = .lt := by
    intro i j name other hi hj hlt
    obtain ⟨hilen, rfl⟩ := List.getElem?_eq_some_iff.mp hi
    obtain ⟨hjlen, rfl⟩ := List.getElem?_eq_some_iff.mp hj
    exact List.pairwise_iff_getElem.mp hascending i j hilen hjlen hlt
  refine ⟨hlater hi hj, fun hlt => ?_⟩
  rcases Nat.lt_trichotomy i j with hij | rfl | hij
  · exact hij
  · obtain rfl := Option.some.inj (hi.symm.trans hj)
    rw [Std.ReflOrd.compare_self] at hlt
    cases hlt
  · rw [Std.OrientedCmp.gt_iff_lt.mpr (hlater hj hi hij)] at hlt
    cases hlt

/-- No name stands at two places. -/
theorem place_unique (hi : names[i]? = some name) (hj : names[j]? = some name) : i = j := by
  have hself : compare name name ≠ .lt := by
    rw [Std.ReflOrd.compare_self]
    decide
  have hij : ¬ i < j := fun h => hself ((place_lt_iff hascending hi hj).mp h)
  have hji : ¬ j < i := fun h => hself ((place_lt_iff hascending hj hi).mp h)
  omega

/-- Halving finds the place of a name, if it has one between the bounds. -/
theorem search_eq_some_iff {low high : Nat} (hhigh : high ≤ names.length) :
    search names name low high = some i ↔ low ≤ i ∧ i < high ∧ names[i]? = some name := by
  fun_induction search names name low high with
  | case1 low high hlt middle hnone =>
    -- the middle lies within the list
    have hlen := List.getElem?_eq_none_iff.mp hnone
    omega
  | case2 low high hlt middle probe hprobe hcompare ih =>
    -- the name comes after the one in the middle, and so does its place
    rw [ih hhigh]
    refine ⟨fun ⟨hi, hrest⟩ => ⟨by omega, hrest⟩, fun ⟨_, hrest⟩ => ⟨?_, hrest⟩⟩
    exact (place_lt_iff hascending hprobe hrest.2).mpr hcompare
  | case3 low high hlt middle probe hprobe hcompare =>
    obtain rfl := Std.LawfulEqCmp.eq_of_compare hcompare
    refine ⟨fun h => ?_, fun ⟨_, _, hi⟩ => congrArg some (place_unique hascending hprobe hi)⟩
    obtain rfl := Option.some.inj h
    exact ⟨by omega, by omega, hprobe⟩
  | case4 low high hlt middle probe hprobe hcompare ih =>
    rw [ih (by omega)]
    refine ⟨fun ⟨hi, hlow, hrest⟩ => ⟨hi, by omega, hrest⟩, fun ⟨hi, _, hrest⟩ => ⟨hi, ?_, hrest⟩⟩
    exact (place_lt_iff hascending hrest hprobe).mpr (Std.OrientedCmp.gt_iff_lt.mp hcompare)
  | case5 low high hnot =>
    simp only [reduceCtorEq, false_iff]
    omega

/-- Halving a whole list finds what a search from its first name on finds. -/
theorem search_eq_findIdx? : search names name 0 names.length = names.findIdx? (· = name) := by
  ext i
  rw [search_eq_some_iff hascending (Nat.le_refl _), List.findIdx?_eq_some_iff_getElem]
  constructor
  · rintro ⟨-, hi, hname⟩
    refine ⟨hi, by simpa [List.getElem?_eq_getElem hi] using hname, fun j hji hj => ?_⟩
    have hplace : names[j]? = some name := by
      rw [List.getElem?_eq_getElem (hji.trans hi), of_decide_eq_true hj]
    exact Nat.ne_of_lt hji (place_unique hascending hplace hname)
  · rintro ⟨hi, hname, -⟩
    exact ⟨Nat.zero_le i, hi, by rw [List.getElem?_eq_getElem hi, of_decide_eq_true hname]⟩

end Places

/-! ### From names to numbers and back -/

section Few

variable {n : ScriptNames} {name : String}

theorem idOf_eq (n : ScriptNames) (name : String) :
    n.idOf name = UInt32.ofNat ((n.names.findIdx? (· = name)).getD 0) := by
  rw [idOf, size, search_eq_findIdx? n.ascending]
  cases n.names.findIdx? (· = name) <;> rfl

theorem idOf_empty (l : List String) : (ofList l).idOf "" = 0 := by
  have hfirst := getElem?_ofList_zero l
  obtain ⟨hlt, -⟩ := List.getElem?_eq_some_iff.mp hfirst
  have hfound : search (ofList l).names "" 0 (ofList l).size = some 0 :=
    (search_eq_some_iff (ofList l).ascending (Nat.le_refl _)).mpr ⟨Nat.le_refl 0, hlt, hfirst⟩
  rw [idOf, hfound]
  rfl

variable (hfew : n.size ≤ 2 ^ 32)

include hfew

/-- The number of a name is the place at which it stands. -/
theorem toNat_idOf_iff (h : name ∈ n.names) {i : Nat} :
    (n.idOf name).toNat = i ↔ n.names[i]? = some name := by
  obtain ⟨j, hj⟩ := List.mem_iff_getElem?.mp h
  obtain ⟨hlt, -⟩ := List.getElem?_eq_some_iff.mp hj
  have hfound : search n.names name 0 n.size = some j :=
    (search_eq_some_iff n.ascending (Nat.le_refl _)).mpr ⟨Nat.zero_le j, hlt, hj⟩
  have hnumber : (n.idOf name).toNat = j := by
    rw [idOf, hfound, Option.map_some, Option.getD_some]
    exact UInt32.toNat_ofNat_of_lt' (Nat.lt_of_lt_of_le hlt hfew)
  rw [hnumber]
  exact ⟨fun heq => heq ▸ hj, place_unique n.ascending hj⟩

/-- A known name is found again by its number. -/
theorem name?_idOf (h : name ∈ n.names) : n.name? (n.idOf name) = some name :=
  (toNat_idOf_iff hfew h).mp rfl

end Few

end RegionScript.ScriptNames
