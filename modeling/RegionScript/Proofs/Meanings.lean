import RegionScript.Region.Condition

/-!
What conditions mean.

The meaning of a condition is said without a bound on how deep references go: a connective means
what it does of the meanings of its operands. A condition whose references come to an end has one
meaning. How far they go is its height, and an evaluation follows them through `nestingLimit`
levels. A condition that is no higher than that is met just if it means so.
-/

namespace RegionScript.Condition

/-- Whether a condition refers to no other. -/
def isLeaf : Condition → Bool
  | not _ | and .. | or .. => false
  | _ => true

/-- The value of a condition that refers to no other. -/
def leafValue (region : Region) (subject : ConditionSubject) : Condition → Bool
  | always => true
  | secondAlive => secondIsAlive region subject.second
  | c =>
    match subject.player.bind region.player? with
    | none => false
    | some p => c.holdsFor region p

/-- How far the references of a condition go. It is none for a condition that refers to no other,
and for an id that stands for no condition. -/
inductive HasHeight (catalog : Catalog) : UInt32 → Nat → Prop
  | missing {id : UInt32} (h : catalog.conditions.get? id = none) : HasHeight catalog id 0
  | leaf {id : UInt32} {c : Condition} (h : catalog.conditions.get? id = some c)
      (hleaf : c.isLeaf = true) : HasHeight catalog id 0
  | not {id a : UInt32} {m : Nat} (h : catalog.conditions.get? id = some (.not a))
      (ha : HasHeight catalog a m) : HasHeight catalog id (m + 1)
  | and {id a b : UInt32} {m n : Nat} (h : catalog.conditions.get? id = some (.and a b))
      (ha : HasHeight catalog a m) (hb : HasHeight catalog b n) :
      HasHeight catalog id (max m n + 1)
  | or {id a b : UInt32} {m n : Nat} (h : catalog.conditions.get? id = some (.or a b))
      (ha : HasHeight catalog a m) (hb : HasHeight catalog b n) :
      HasHeight catalog id (max m n + 1)

/-- What a condition means for a subject. -/
inductive Means (catalog : Catalog) (region : Region) (subject : ConditionSubject) :
    UInt32 → Bool → Prop
  | missing {id : UInt32} (h : catalog.conditions.get? id = none) :
      Means catalog region subject id false
  | leaf {id : UInt32} {c : Condition} (h : catalog.conditions.get? id = some c)
      (hleaf : c.isLeaf = true) : Means catalog region subject id (c.leafValue region subject)
  | not {id a : UInt32} {v : Bool} (h : catalog.conditions.get? id = some (.not a))
      (ha : Means catalog region subject a v) : Means catalog region subject id (!v)
  | and {id a b : UInt32} {v w : Bool} (h : catalog.conditions.get? id = some (.and a b))
      (ha : Means catalog region subject a v) (hb : Means catalog region subject b w) :
      Means catalog region subject id (v && w)
  | or {id a b : UInt32} {v w : Bool} (h : catalog.conditions.get? id = some (.or a b))
      (ha : Means catalog region subject a v) (hb : Means catalog region subject b w) :
      Means catalog region subject id (v || w)

variable {catalog : Catalog} {region : Region} {subject : ConditionSubject} {id : UInt32}
  {n levels : Nat} {v w : Bool}

/-! ### One level -/

theorem holds_missing (h : catalog.conditions.get? id = none) (levels : Nat) :
    holds catalog region subject levels id = false := by
  cases levels with
  | zero => rfl
  | succ levels =>
    rw [holds_succ, h]
    rfl

theorem holds_leaf {c : Condition} (h : catalog.conditions.get? id = some c)
    (hleaf : c.isLeaf = true) (levels : Nat) :
    holds catalog region subject (levels + 1) id = c.leafValue region subject := by
  rw [holds_succ, h]
  cases c with
  | not | and | or => cases hleaf
  | _ => rfl

/-! ### Any number of levels -/

/-- With more levels than a condition is high, its evaluation is what it means. -/
theorem means_of_hasHeight (h : HasHeight catalog id n) (hlevels : n < levels) :
    Means catalog region subject id (holds catalog region subject levels id) := by
  induction levels generalizing id n with
  | zero => omega
  | succ levels ih =>
    cases h with
    | missing h =>
      rw [holds_missing h]
      exact .missing h
    | leaf h hleaf =>
      rw [holds_leaf h hleaf]
      exact .leaf h hleaf
    | not h ha =>
      rw [holds_not h]
      exact .not h (ih ha (by omega))
    | and h ha hb =>
      rw [holds_and h]
      exact .and h (ih ha (by omega)) (ih hb (by omega))
    | or h ha hb =>
      rw [holds_or h]
      exact .or h (ih ha (by omega)) (ih hb (by omega))

/-- With more levels than a condition is high, its evaluation does not run out of them. -/
theorem tooDeep_of_hasHeight (h : HasHeight catalog id n) (hlevels : n < levels) :
    tooDeep catalog region subject levels id = [] := by
  induction levels generalizing id n with
  | zero => omega
  | succ levels ih =>
    unfold tooDeep
    cases h with
    | missing h => rw [h]
    | @leaf _ c h hleaf =>
      rw [h]
      cases c with
      | not | and | or => cases hleaf
      | _ => rfl
    | not h ha =>
      rw [h]
      exact ih ha (by omega)
    | and h ha hb =>
      rw [h]
      dsimp only
      rw [ih ha (by omega), ih hb (by omega), ite_self, List.append_nil]
    | or h ha hb =>
      rw [h]
      dsimp only
      rw [ih ha (by omega), ih hb (by omega), ite_self, List.append_nil]

/-- What a condition means is what it evaluates to with levels enough. -/
theorem Means.exists_levels (h : Means catalog region subject id v) :
    ∃ enough, ∀ levels, enough < levels → holds catalog region subject levels id = v := by
  induction h with
  | missing h => exact ⟨0, fun levels _ => holds_missing h levels⟩
  | leaf h hleaf =>
    refine ⟨0, ?_⟩
    rintro (_ | levels) hlevels
    · omega
    · exact holds_leaf h hleaf levels
  | not h _ ih =>
    obtain ⟨m, hm⟩ := ih
    refine ⟨m + 1, ?_⟩
    rintro (_ | levels) hlevels
    · omega
    · rw [holds_not h, hm levels (by omega)]
  | and h _ _ iha ihb =>
    obtain ⟨m, hm⟩ := iha
    obtain ⟨n, hn⟩ := ihb
    refine ⟨max m n + 1, ?_⟩
    rintro (_ | levels) hlevels
    · omega
    · rw [holds_and h, hm levels (by omega), hn levels (by omega)]
  | or h _ _ iha ihb =>
    obtain ⟨m, hm⟩ := iha
    obtain ⟨n, hn⟩ := ihb
    refine ⟨max m n + 1, ?_⟩
    rintro (_ | levels) hlevels
    · omega
    · rw [holds_or h, hm levels (by omega), hn levels (by omega)]

/-- A condition has one meaning at most. -/
theorem Means.unique (h : Means catalog region subject id v)
    (h' : Means catalog region subject id w) : v = w := by
  obtain ⟨m, hm⟩ := h.exists_levels
  obtain ⟨n, hn⟩ := h'.exists_levels
  rw [← hm (max m n + 1) (by omega), ← hn (max m n + 1) (by omega)]

/-- A condition that is no higher than the limit is met or unmet just as it means, for every
subject, and nothing is logged of its depth. -/
theorem isMet_eq_iff_means (h : HasHeight catalog id n) (hlimit : n ≤ nestingLimit)
    (region : Region) (subject : ConditionSubject) :
    (∀ value, isMet catalog region subject id = value ↔ Means catalog region subject id value) ∧
      warnings catalog region subject id = [] := by
  have hlevels : n < nestingLimit + 1 := by omega
  have hmeans : Means catalog region subject id (isMet catalog region subject id) :=
    means_of_hasHeight h hlevels
  refine ⟨fun value => ⟨?_, hmeans.unique⟩, ?_⟩
  · rintro rfl
    exact hmeans
  · rw [warnings, tooDeep_of_hasHeight h hlevels, List.map_nil]

/-- References that go down eight steps, to a condition that decides all those above it. -/
def staircase : Catalog where
  conditions := .ofList [(1, .not 2), (2, .and 9 3), (3, .not 4), (4, .or 10 5), (5, .not 6),
    (6, .not 7), (7, .and 8 9), (8, .or 10 9), (9, .always)]

/-- At the limit the condition on the lowest step is still looked at. -/
theorem isMet_eq_iff_means_staircase :
    HasHeight staircase 1 8 ∧ 8 ≤ nestingLimit ∧
      isMet staircase { id := 0 } ⟨none, none⟩ 1 = true ∧
      Means staircase { id := 0 } ⟨none, none⟩ 1 true := by
  have h10 : HasHeight staircase 10 0 := .missing rfl
  have h9 : HasHeight staircase 9 0 := .leaf rfl rfl
  have h7 : HasHeight staircase 7 2 := .and rfl (.or rfl h10 h9) h9
  have h4 : HasHeight staircase 4 5 := .or rfl h10 (.not rfl (.not rfl h7))
  have h1 : HasHeight staircase 1 8 := .not rfl (.and rfl h9 (.not rfl h4))
  have hmet : isMet staircase { id := 0 } ⟨none, none⟩ 1 = true := by decide +kernel
  obtain ⟨hmeans, -⟩ := isMet_eq_iff_means h1 (Nat.le_refl 8) { id := 0 } ⟨none, none⟩
  exact ⟨h1, Nat.le_refl 8, hmet, (hmeans true).mp hmet⟩

/-- One step further down nothing is looked at, and nine negations make of that a condition that is
met, although it means that it is not. -/
example :
    let negations := (List.range 9).map fun i => (i.toUInt32, Condition.not (i.toUInt32 + 1))
    isMet { conditions := .ofList (negations ++ [(9, .always)]) } { id := 0 } ⟨none, none⟩ 0 =
      true := by
  decide +kernel

end RegionScript.Condition
