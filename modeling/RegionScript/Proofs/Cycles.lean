import Mathlib.Algebra.Group.Even
import Mathlib.Algebra.Group.Nat.Even
import RegionScript.Region.Condition

/-!
Conditions that refer back to themselves.

An evaluation follows references until an operand settles the value or the levels run out, which
counts as unmet. On its way back that value passes the links that were followed: a conjunct and a
disjunct hand it on, a negation turns it round. A cyclic condition has ways of any length, so what
becomes of it depends on the value at the end of a way and on how many negations stand before it.
-/

namespace RegionScript.Condition

/-- How a condition uses one that it refers to. -/
inductive Link where
  | negation
  /-- Both this and another one are required. -/
  | conjunct (other : UInt32)
  /-- Either this or another one is enough. -/
  | disjunct (other : UInt32)
  deriving DecidableEq

/-- A condition refers to another one over a link. -/
inductive Refers (catalog : Catalog) : UInt32 → Link → UInt32 → Prop where
  | negation {a b : UInt32} (h : catalog.conditions.get? a = some (.not b)) :
    Refers catalog a .negation b
  | firstConjunct {a b other : UInt32} (h : catalog.conditions.get? a = some (.and b other)) :
    Refers catalog a (.conjunct other) b
  | secondConjunct {a b other : UInt32} (h : catalog.conditions.get? a = some (.and other b)) :
    Refers catalog a (.conjunct other) b
  | firstDisjunct {a b other : UInt32} (h : catalog.conditions.get? a = some (.or b other)) :
    Refers catalog a (.disjunct other) b
  | secondDisjunct {a b other : UInt32} (h : catalog.conditions.get? a = some (.or other b)) :
    Refers catalog a (.disjunct other) b

/-- A way along references from one condition to another, link by link. -/
inductive Way (catalog : Catalog) : UInt32 → List Link → UInt32 → Prop where
  | here (a : UInt32) : Way catalog a [] a
  | follow {a b c : UInt32} {l : Link} {links : List Link} (h : Refers catalog a l b)
      (hrest : Way catalog b links c) : Way catalog a (l :: links) c

/-- Following references leads back to the condition. -/
def Cyclic (catalog : Catalog) (id : UInt32) : Prop :=
  ∃ links, links ≠ [] ∧ Way catalog id links id

section Ways

variable {catalog : Catalog} {a b c : UInt32} {l : Link} {links more : List Link}

theorem Way.append (h : Way catalog a links b) (h' : Way catalog b more c) :
    Way catalog a (links ++ more) c := by
  induction h with
  | here => exact h'
  | follow hrefers _ ih => exact .follow hrefers (ih h')

/-- A cyclic condition refers to a cyclic one: the next on its cycle. -/
theorem Cyclic.next (h : Cyclic catalog a) : ∃ l b, Refers catalog a l b ∧ Cyclic catalog b := by
  obtain ⟨links, hne, hway⟩ := h
  cases hway with
  | here => exact absurd rfl hne
  | @follow _ b _ l rest hrefers hrest =>
    have hround : Way catalog b (rest ++ [l]) b := hrest.append (.follow hrefers (.here b))
    exact ⟨l, b, hrefers, rest ++ [l], by simp, hround⟩

/-- Round and round a cycle there are ways of any length. -/
theorem Cyclic.exists_way (h : Cyclic catalog a) (n : Nat) :
    ∃ links last, links.length = n ∧ Way catalog a links last := by
  induction n generalizing a with
  | zero => exact ⟨[], a, rfl, .here a⟩
  | succ n ih =>
    obtain ⟨l, b, hrefers, hb⟩ := h.next
    obtain ⟨links, last, hlength, hway⟩ := ih hb
    exact ⟨l :: links, last, by rw [List.length_cons, hlength], .follow hrefers hway⟩

end Ways

/-! ### The value that comes back -/

/-- The value that the other operand of a link settles by itself; none if it leaves it open. -/
def Link.settled? (meets : UInt32 → Bool) : Link → Option Bool
  | negation => none
  | conjunct other => if meets other then none else some false
  | disjunct other => if meets other then some true else none

/-- What becomes of a value on its way back over a link. -/
def Link.back : Link → Bool → Bool
  | negation, value => !value
  | conjunct _, value | disjunct _, value => value

section Values

variable (catalog : Catalog) (region : Region) (subject : ConditionSubject)

/-- The value at the end of a way: the first that an operand beside it settles, or else unmet. -/
def ending : List Link → Bool
  | [] => false
  | l :: rest => (l.settled? (holds catalog region subject rest.length)).getD (ending rest)

/-- How many negations are passed on a way before its value is settled. -/
def negations : List Link → Nat
  | [] => 0
  | l :: rest =>
    match l.settled? (holds catalog region subject rest.length) with
    | some _ => 0
    | none => if l = .negation then negations rest + 1 else negations rest

variable {catalog region subject}
variable {a b c : UInt32} {l : Link} {links : List Link}

/-- One level of an evaluation, along one of the references. -/
theorem holds_of_refers (h : Refers catalog a l b) (levels : Nat) :
    holds catalog region subject (levels + 1) a =
      (l.settled? (holds catalog region subject levels)).getD
        (l.back (holds catalog region subject levels b)) := by
  cases h with
  | negation h => exact holds_not h levels
  | @firstConjunct _ other h =>
    rw [holds_and h, Link.settled?, Link.back]
    cases holds catalog region subject levels other <;> simp
  | @secondConjunct _ other h =>
    rw [holds_and h, Link.settled?, Link.back]
    cases holds catalog region subject levels other <;> simp
  | @firstDisjunct _ other h =>
    rw [holds_or h, Link.settled?, Link.back]
    cases holds catalog region subject levels other <;> simp
  | @secondDisjunct _ other h =>
    rw [holds_or h, Link.settled?, Link.back]
    cases holds catalog region subject levels other <;> simp

/-- Whatever way is followed, the value at its end comes back, turned round by each negation. -/
theorem holds_of_way (h : Way catalog a links b) :
    holds catalog region subject links.length a = true ↔
      (ending catalog region subject links = true ↔
        Even (negations catalog region subject links)) := by
  induction h with
  | here a => simp [holds_zero, ending, negations]
  | @follow a b c l rest hrefers _ ih =>
    rw [List.length_cons, holds_of_refers hrefers, ending, negations]
    cases hl : l.settled? (holds catalog region subject rest.length) with
    | some value => simp
    | none =>
      rw [Option.getD_none, Option.getD_none]
      cases l with
      | negation =>
        rw [if_pos rfl, Nat.even_add_one, Link.back, Bool.not_eq_true', ← Bool.not_eq_true, ih]
        exact not_iff.trans (not_iff_comm.trans Iff.comm)
      | conjunct other => exact ih
      | disjunct other => exact ih

end Values

/-- A cyclic condition is unmet if and only if the value at the end of a way from it through the
nesting limit is unmet and evenly many negations are passed before, or is met and oddly many are.
There is such a way, and all of them agree. -/
theorem cyclic_unmet_iff {catalog : Catalog} {id : UInt32} (h : Cyclic catalog id) (region : Region)
    (subject : ConditionSubject) :
    (∃ links last, links.length = nestingLimit + 1 ∧ Way catalog id links last) ∧
      ∀ links last, links.length = nestingLimit + 1 → Way catalog id links last →
        (isMet catalog region subject id = false ↔
          (ending catalog region subject links = false ↔
            Even (negations catalog region subject links))) := by
  refine ⟨h.exists_way _, fun links last hlength hway => ?_⟩
  have hvalue : holds catalog region subject links.length id = true ↔
      (ending catalog region subject links = true ↔
        Even (negations catalog region subject links)) := holds_of_way hway
  rw [hlength] at hvalue
  rw [isMet, ← Bool.not_eq_true, hvalue, ← Bool.not_eq_true]
  exact not_iff

/-- Two negations on a cycle of three. -/
def twiceNegated : Catalog where
  conditions := .ofList [(1, .not 2), (2, .and 3 4), (3, .not 1), (4, .always)]

/-- Three times round this cycle six negations are passed, and the condition is unmet. -/
theorem cyclic_unmet_iff_twiceNegated :
    let links := (List.replicate 3 [Link.negation, .conjunct 4, .negation]).flatten
    Cyclic twiceNegated 1 ∧ Way twiceNegated 1 links 1 ∧ links.length = nestingLimit + 1 ∧
      ending twiceNegated { id := 0 } ⟨none, none⟩ links = false ∧
      negations twiceNegated { id := 0 } ⟨none, none⟩ links = 6 ∧
      isMet twiceNegated { id := 0 } ⟨none, none⟩ 1 = false := by
  intro links
  have hround : Way twiceNegated 1 [.negation, .conjunct 4, .negation] 1 :=
    .follow (.negation rfl) (.follow (.firstConjunct rfl) (.follow (.negation rfl) (.here 1)))
  have hcyclic : Cyclic twiceNegated 1 := ⟨_, by decide, hround⟩
  have hway : Way twiceNegated 1 links 1 := hround.append (hround.append (hround.append (.here 1)))
  have hending : ending twiceNegated { id := 0 } ⟨none, none⟩ links = false := by decide +kernel
  have hnegations : negations twiceNegated { id := 0 } ⟨none, none⟩ links = 6 := by decide +kernel
  have hunmet := (cyclic_unmet_iff hcyclic { id := 0 } ⟨none, none⟩).2 links 1 rfl hway
  exact ⟨hcyclic, hway, rfl, hending, hnegations,
    hunmet.mpr ⟨fun _ => hnegations ▸ by decide, fun _ => hending⟩⟩

/-- Two conditions that negate each other are met: nine negations are passed. -/
theorem mutual_negation_is_met :
    let catalog : Catalog := { conditions := .ofList [(5, .not 6), (6, .not 5)] }
    Cyclic catalog 5 ∧ isMet catalog { id := 0 } ⟨none, none⟩ 5 = true :=
  ⟨⟨[.negation, .negation], by decide, .follow (.negation rfl) (.follow (.negation rfl) (.here 5))⟩,
    by decide +kernel⟩

end RegionScript.Condition
