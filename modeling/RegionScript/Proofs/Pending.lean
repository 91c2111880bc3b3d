import RegionScript.Proofs.Entries
import RegionScript.Proofs.Scripts
import RegionScript.Schedule

/-!
What a schedule has pending.

`pendingOf` lists the steps that an invocation still has, in the order in which they are due.
Starting a script adds its `queue`, which is its plan in the order of the clock; taking the next
step off drops the head of one list, and cancelling an invocation empties its list; every other list
stays as it was.
-/

namespace RegionScript

theorem DueKey.compare_lt_iff (a b : DueKey) :
    compare a b = .lt ↔ a.due < b.due ∨ (a.due = b.due ∧ a.sequence < b.sequence) := by
  rw [DueKey.compare_eq, Ordering.then_eq_lt, Std.compare_eq_lt, Std.compare_eq_lt,
    Std.LawfulEqOrd.compare_eq_iff_eq]

theorem DueKey.isLE_compare_iff (a b : DueKey) : (compare a b).isLE = true ↔
    a.due < b.due ∨ (a.due = b.due ∧ a.sequence ≤ b.sequence) := by
  rw [Ordering.isLE_iff_eq_lt_or_eq_eq, compare_lt_iff, Std.LawfulEqOrd.compare_eq_iff_eq]
  cases a; cases b
  rw [DueKey.mk.injEq, or_assoc, ← and_or_left, ← Nat.le_iff_lt_or_eq]

namespace Schedule

/-- The pending steps of an invocation with their keys, earliest first. -/
def pendingOf (s : Schedule) (i : Nat) : List (DueKey × PendingStep) :=
  s.steps.entries.filter (·.2.invocation = i)

/-- Nothing pending has a number that is still to be given. -/
structure Fresh (s : Schedule) : Prop where
  sequence : ∀ e ∈ s.steps.entries, e.1.sequence < s.nextSequence
  invocation : ∀ e ∈ s.steps.entries, e.2.invocation < s.nextInvocation

theorem mem_pendingOf {s : Schedule} {i : Nat} {e : DueKey × PendingStep} :
    e ∈ s.pendingOf i ↔ e ∈ s.steps.entries ∧ e.2.invocation = i := by
  simp [pendingOf]

theorem pendingOf_ne_nil {s : Schedule} {i : Nat} :
    s.pendingOf i ≠ [] ↔ ∃ e ∈ s.steps.entries, e.2.invocation = i := by
  simp [pendingOf]

theorem Fresh.pendingOf_eq_nil {s : Schedule} (h : s.Fresh) {i : Nat} (hi : s.nextInvocation ≤ i) :
    s.pendingOf i = [] := by
  refine List.eq_nil_iff_forall_not_mem.mpr fun e he => ?_
  obtain ⟨hmem, rfl⟩ := mem_pendingOf.mp he
  exact absurd (h.invocation e hmem) (Nat.not_lt.mpr hi)

/-! ### The plan of a script -/

/-- The steps of a script started at `now`, numbered from `first` on. -/
def plan (now : UInt64) (invocation : Nat) (table : String) (source target : Option Guid) :
    Nat → Script → List (DueKey × PendingStep)
  | _, [] => []
  | first, c :: rest =>
    (⟨dueTime now c, first⟩, { invocation, table, command := c, source, target }) ::
      plan now invocation table source target (first + 1) rest

section Plan

variable (now : UInt64) (invocation : Nat) (table : String) (source target : Option Guid)

theorem plan_commands (first : Nat) (script : Script) :
    (plan now invocation table source target first script).map (·.2.command) = script := by
  induction script generalizing first with
  | nil => rfl
  | cons c rest ih => exact congrArg (c :: ·) (ih (first + 1))

theorem length_plan (first : Nat) (script : Script) :
    (plan now invocation table source target first script).length = script.length := by
  rw [← List.length_map (·.2.command), plan_commands]

theorem plan_sequences (first : Nat) (script : Script) :
    (plan now invocation table source target first script).map (·.1.sequence) =
      List.range' first script.length := by
  induction script generalizing first with
  | nil => rfl
  | cons c rest ih =>
    rw [List.length_cons, List.range'_succ]
    exact congrArg (first :: ·) (ih (first + 1))

variable {now invocation table source target}

theorem mem_plan {first : Nat} {script : Script} {e : DueKey × PendingStep}
    (h : e ∈ plan now invocation table source target first script) :
    e.2.invocation = invocation ∧ e.1.due = dueTime now e.2.command ∧ e.2.command ∈ script ∧
      first ≤ e.1.sequence ∧ e.1.sequence < first + script.length := by
  induction script generalizing first with
  | nil => cases h
  | cons c rest ih =>
    rcases List.mem_cons.mp h with rfl | h
    · refine ⟨rfl, rfl, List.mem_cons_self .., Nat.le_refl _, ?_⟩
      simp
    · obtain ⟨hi, hdue, hmem, hle, hlt⟩ := ih h
      refine ⟨hi, hdue, List.mem_cons_of_mem _ hmem, by omega, ?_⟩
      rw [List.length_cons]
      omega

/-! ### The order in which steps come due -/

/-- The steps of a script started at `now` in the order in which they come due, those that come due
together in their own. -/
def agenda (now : UInt64) (script : Script) : Script :=
  script.mergeSort fun c d => dueTime now c ≤ dueTime now d

/-- The plan of a script in the order of its keys. -/
def queue (now : UInt64) (invocation : Nat) (table : String) (source target : Option Guid)
    (first : Nat) (script : Script) : List (DueKey × PendingStep) :=
  (plan now invocation table source target first script).mergeSort fun a b =>
    (compare a.1 b.1).isLE

variable (first : Nat) (script : Script)

theorem queue_perm : (queue now invocation table source target first script).Perm
    (plan now invocation table source target first script) :=
  List.mergeSort_perm ..

theorem queue_ascending : (queue now invocation table source target first script).Pairwise
    fun a b => compare a.1 b.1 = .lt := by
  have hsorted : (queue now invocation table source target first script).Pairwise
      fun a b => (compare a.1 b.1).isLE = true := pairwise_mergeSort_key Prod.fst _
  -- no two steps have the same number
  have hnumbers : (queue now invocation table source target first script).Pairwise
      fun a b => a.1.sequence ≠ b.1.sequence := by
    rw [← List.pairwise_map, ← List.Nodup, ((queue_perm first script).map (·.1.sequence)).nodup_iff,
      plan_sequences]
    exact List.nodup_range'
  refine (hsorted.and hnumbers).imp fun {a b} ⟨hle, hne⟩ => ?_
  refine (DueKey.compare_lt_iff _ _).mpr ?_
  exact ((DueKey.isLE_compare_iff _ _).mp hle).imp_right fun ⟨heq, hle⟩ =>
    ⟨heq, Nat.lt_of_le_of_ne hle hne⟩

theorem plan_eq : plan now invocation table source target first script =
    (script.zipIdx first).map fun p =>
      (⟨dueTime now p.1, p.2⟩, { invocation, table, command := p.1, source, target }) := by
  induction script generalizing first with
  | nil => rfl
  | cons c rest ih => exact congrArg (_ :: ·) (ih (first + 1))

/-- The numbers keep the order of steps that are due together. -/
theorem queue_commands : (queue now invocation table source target first script).map
    (·.2.command) = agenda now script := by
  rw [queue, plan_eq, List.zipIdx_eq_map_add, List.map_map,
    ← List.map_mergeSort (r := List.zipIdxLE fun c d => dueTime now c ≤ dueTime now d),
    List.map_map]
  · exact List.mergeSort_zipIdx
  · intro a _ b _
    rw [Bool.eq_iff_iff, DueKey.isLE_compare_iff, List.zipIdxLE]
    simp only [decide_eq_true_eq, Bool.if_true_right, Bool.if_false_right, Bool.and_eq_true,
      Bool.or_eq_true, Bool.not_eq_eq_eq_not, Bool.not_true, decide_eq_false_iff_not, UInt64.not_le,
      Function.comp_apply, Nat.add_le_add_iff_left]
    rw [or_and_left, ← UInt64.le_iff_lt_or_eq]

end Plan

/-! ### Starting a script -/

section AddSteps

variable (now : UInt64) (invocation : Nat) (table : String) (source target : Option Guid)

@[simp] theorem addSteps_invocations (s : Schedule) (script : Script) :
    (s.addSteps now invocation table source target script).invocations = s.invocations := by
  induction script generalizing s with
  | nil => rfl
  | cons c rest ih => exact ih _

@[simp] theorem addSteps_nextInvocation (s : Schedule) (script : Script) :
    (s.addSteps now invocation table source target script).nextInvocation = s.nextInvocation := by
  induction script generalizing s with
  | nil => rfl
  | cons c rest ih => exact ih _

@[simp] theorem addSteps_nextSequence (s : Schedule) (script : Script) :
    (s.addSteps now invocation table source target script).nextSequence =
      s.nextSequence + script.length := by
  induction script generalizing s with
  | nil => rfl
  | cons c rest ih =>
    rw [List.length_cons, addSteps, ih]
    show s.nextSequence + 1 + rest.length = _
    omega

/-- With a new number each, the steps of a script come in addition to all that is pending. -/
theorem addSteps_entries_perm {s : Schedule} (script : Script)
    (h : ∀ e ∈ s.steps.entries, e.1.sequence < s.nextSequence) :
    (s.addSteps now invocation table source target script).steps.entries.Perm
      (plan now invocation table source target s.nextSequence script ++ s.steps.entries) := by
  induction script generalizing s with
  | nil => exact .refl _
  | cons c rest ih =>
    have hnew : s.steps.get? ⟨dueTime now c, s.nextSequence⟩ = none := by
      refine Option.eq_none_iff_forall_not_mem.mpr fun a ha => ?_
      exact Nat.lt_irrefl _ (h _ ((OrderedMap.mem_entries_iff _ _ _).mpr ha))
    have hone := OrderedMap.entries_insert_perm
      { invocation, table, command := c, source, target : PendingStep } hnew
    refine (ih fun e he => ?_).trans ?_
    · rcases List.mem_cons.mp (hone.mem_iff.mp he) with rfl | he
      · exact Nat.lt_succ_self _
      · exact Nat.lt_succ_of_lt (h e he)
    · exact (hone.append_left _).trans List.perm_middle

end AddSteps

section Enqueue

variable (now : UInt64) (kind : TableKind) (table : String) (id : UInt32) (script : Script)
  (source target : Option Guid)

@[simp] theorem enqueue_number (s : Schedule) :
    (s.enqueue now kind table id script source target).1 = s.nextInvocation := rfl

@[simp] theorem enqueue_nextInvocation (s : Schedule) :
    (s.enqueue now kind table id script source target).2.nextInvocation = s.nextInvocation + 1 := by
  simp [enqueue]

@[simp] theorem enqueue_nextSequence (s : Schedule) :
    (s.enqueue now kind table id script source target).2.nextSequence =
      s.nextSequence + script.length := by
  simp [enqueue]

@[simp] theorem enqueue_invocations (s : Schedule) :
    (s.enqueue now kind table id script source target).2.invocations =
      s.invocations.insert s.nextInvocation
        { kind, scriptId := id, source, target, pending := script.length } := by
  simp [enqueue]

variable {now kind table id script source target}

/-- What is pending after a start: the plan of the script, and all that was pending before. -/
theorem Fresh.enqueue_entries_perm {s : Schedule} (h : s.Fresh) :
    (s.enqueue now kind table id script source target).2.steps.entries.Perm
      (plan now s.nextInvocation table source target s.nextSequence script ++ s.steps.entries) :=
  addSteps_entries_perm now s.nextInvocation table source target script h.sequence

theorem Fresh.mem_enqueue_entries {s : Schedule} (h : s.Fresh) {e : DueKey × PendingStep} :
    e ∈ (s.enqueue now kind table id script source target).2.steps.entries ↔
      e ∈ plan now s.nextInvocation table source target s.nextSequence script ∨
        e ∈ s.steps.entries :=
  h.enqueue_entries_perm.mem_iff.trans List.mem_append

theorem Fresh.enqueue {s : Schedule} (h : s.Fresh) :
    (s.enqueue now kind table id script source target).2.Fresh where
  sequence e he := by
    rw [enqueue_nextSequence]
    rcases h.mem_enqueue_entries.mp he with he | he
    · exact (mem_plan he).2.2.2.2
    · exact Nat.lt_add_right _ (h.sequence e he)
  invocation e he := by
    rw [enqueue_nextInvocation]
    rcases h.mem_enqueue_entries.mp he with he | he
    · exact Nat.lt_succ_of_le (Nat.le_of_eq (mem_plan he).1)
    · exact Nat.lt_succ_of_lt (h.invocation e he)

/-- A start leaves the pending steps of every other invocation. -/
theorem Fresh.pendingOf_enqueue_perm {s : Schedule} (h : s.Fresh) (i : Nat) :
    ((s.enqueue now kind table id script source target).2.pendingOf i).Perm
      (if i = s.nextInvocation then
        plan now s.nextInvocation table source target s.nextSequence script
      else s.pendingOf i) := by
  refine (h.enqueue_entries_perm.filter _).trans ?_
  rw [List.filter_append]
  split
  · next hi =>
    have hold : s.pendingOf i = [] := h.pendingOf_eq_nil (Nat.le_of_eq hi.symm)
    have hplan : ∀ e ∈ plan now s.nextInvocation table source target s.nextSequence script,
        decide (e.2.invocation = i) = true := fun e he => by simp [(mem_plan he).1, hi]
    rw [List.filter_eq_self.mpr hplan]
    show (_ ++ s.pendingOf i).Perm _
    rw [hold, List.append_nil]
  · next hi =>
    have hplan : ∀ e ∈ plan now s.nextInvocation table source target s.nextSequence script,
        ¬ decide (e.2.invocation = i) = true := fun e he => by simp [(mem_plan he).1, Ne.symm hi]
    rw [List.filter_eq_nil_iff.mpr hplan]
    exact .refl _

/-- The new invocation has its plan pending, in the order in which its steps come due. -/
theorem Fresh.pendingOf_enqueue {s : Schedule} (h : s.Fresh) (i : Nat) :
    (s.enqueue now kind table id script source target).2.pendingOf i =
      if i = s.nextInvocation then
        queue now s.nextInvocation table source target s.nextSequence script
      else s.pendingOf i := by
  refine OrderedMap.eq_of_mem_iff ((OrderedMap.ascending _).filter _) ?_ fun e => ?_
  · split
    · exact queue_ascending ..
    · exact s.steps.ascending.filter _
  · refine (h.pendingOf_enqueue_perm i).mem_iff.trans ?_
    split
    · exact (queue_perm ..).mem_iff.symm
    · exact Iff.rfl

end Enqueue

/-! ### Taking the next step off -/

theorem popDue_nil {s : Schedule} (h : s.steps.entries = []) (now : UInt64) :
    s.popDue now = none := by
  simp [popDue, next?, OrderedMap.first?, h]

theorem popDue_cons {s : Schedule} {e : DueKey × PendingStep} {rest : List (DueKey × PendingStep)}
    (h : s.steps.entries = e :: rest) (now : UInt64) :
    s.popDue now = if e.1.due ≤ now then some (e, s.take e.1 e.2) else none := by
  simp [popDue, next?, OrderedMap.first?, h]

/-- A step that is taken off is the earliest of all, and due. -/
theorem of_popDue_eq_some {s s' : Schedule} {now : UInt64} {e : DueKey × PendingStep}
    (h : s.popDue now = some (e, s')) :
    (∃ rest, s.steps.entries = e :: rest) ∧ e.1.due ≤ now ∧ s' = s.take e.1 e.2 := by
  cases hentries : s.steps.entries with
  | nil =>
    rw [popDue_nil hentries] at h
    cases h
  | cons f rest =>
    rw [popDue_cons hentries] at h
    split at h
    · next hdue =>
      obtain ⟨rfl, rfl⟩ := Prod.mk.inj (Option.some.inj h)
      exact ⟨⟨rest, rfl⟩, hdue, rfl⟩
    · cases h

/-- When nothing is taken off, nothing is due. -/
theorem of_popDue_eq_none {s : Schedule} {now : UInt64} (h : s.popDue now = none) :
    ∀ e ∈ s.steps.entries, now < e.1.due := by
  have hasc := s.steps.ascending
  cases hentries : s.steps.entries with
  | nil => simp
  | cons f rest =>
    rw [hentries] at hasc
    rw [popDue_cons hentries] at h
    have hdue : now < f.1.due := by
      rcases UInt64.lt_or_le now f.1.due with hlt | hle
      · exact hlt
      · rw [if_pos hle] at h
        cases h
    intro e he
    rcases List.mem_cons.mp he with rfl | he
    · exact hdue
    · rcases (DueKey.compare_lt_iff _ _).mp ((List.pairwise_cons.mp hasc).1 e he) with
        hlt | ⟨heq, -⟩
      · exact UInt64.lt_trans hdue hlt
      · exact heq ▸ hdue

theorem get?_finishStep (m : OrderedMap Nat Invocation) (i j : Nat) :
    (finishStep m i).get? j =
      if j = i then
        (m.get? i).bind fun inv =>
          if inv.pending ≤ 1 then none else some { inv with pending := inv.pending - 1 }
      else m.get? j := by
  unfold finishStep
  cases hi : m.get? i with
  | none =>
    by_cases hj : j = i
    · simp [hj, hi]
    · simp [hj]
  | some inv =>
    by_cases hone : inv.pending ≤ 1
    · simp only [hone, if_true, Option.bind_some]
      exact OrderedMap.get?_erase m j i
    · simp only [hone, if_false, Option.bind_some]
      exact OrderedMap.get?_insert m j i _

section Take

variable {s : Schedule} {e : DueKey × PendingStep} {rest : List (DueKey × PendingStep)}

theorem entries_take (h : s.steps.entries = e :: rest) : (s.take e.1 e.2).steps.entries = rest :=
  OrderedMap.entries_erase_first h

theorem Fresh.take (hs : s.Fresh) (h : s.steps.entries = e :: rest) : (s.take e.1 e.2).Fresh where
  sequence f hf := by
    rw [entries_take h] at hf
    exact hs.sequence f (h ▸ List.mem_cons_of_mem _ hf)
  invocation f hf := by
    rw [entries_take h] at hf
    exact hs.invocation f (h ▸ List.mem_cons_of_mem _ hf)

/-- The step that is taken off heads the list of its invocation. -/
theorem pendingOf_take (h : s.steps.entries = e :: rest) (i : Nat) :
    s.pendingOf i =
      if e.2.invocation = i then e :: (s.take e.1 e.2).pendingOf i
      else (s.take e.1 e.2).pendingOf i := by
  unfold pendingOf
  rw [entries_take h, h]
  split
  · next hi => rw [List.filter_cons_of_pos (by simpa using hi)]
  · next hi => rw [List.filter_cons_of_neg (by simpa using hi)]

end Take

/-! ### Dropping an invocation -/

theorem entries_cancel (s : Schedule) (i : Nat) :
    (s.cancel i).2.steps.entries = s.steps.entries.filter fun e => e.2.invocation ≠ i := rfl

theorem Fresh.cancel {s : Schedule} (h : s.Fresh) (i : Nat) : (s.cancel i).2.Fresh where
  sequence e he := h.sequence e (List.mem_filter.mp he).1
  invocation e he := h.invocation e (List.mem_filter.mp he).1

theorem pendingOf_cancel (s : Schedule) (i j : Nat) :
    (s.cancel i).2.pendingOf j = if j = i then [] else s.pendingOf j := by
  unfold pendingOf
  rw [entries_cancel, List.filter_filter]
  split
  · next hji => simp [hji]
  · next hji =>
    refine List.filter_congr fun e _ => ?_
    by_cases he : e.2.invocation = j
    · simp [he, hji]
    · simp [he]

theorem Fresh.clear (s : Schedule) : s.clear.Fresh where
  sequence e he := by cases he
  invocation e he := by cases he

end Schedule

end RegionScript
