import RegionScript.Proofs.Pending
import RegionScript.Proofs.Starting

/-!
The books of a schedule.

A schedule keeps pending steps and the invocations that they belong to in two maps, and gives
numbers out of two counters. `Consistent` says that the four agree. Each operation keeps it, so it
holds after any sequence of operations that starts no empty script, and then a script counts as
running just while one of its steps is pending.
-/

namespace RegionScript.Schedule

/-- The maps and the counters of a schedule agree. -/
structure Consistent (s : Schedule) : Prop where
  /-- An invocation is listed just while a step of it is pending. -/
  listed : ∀ i, s.invocations.contains i ↔ ∃ e ∈ s.steps.entries, e.2.invocation = i
  /-- Its counter is the number of its pending steps. -/
  counted : ∀ i inv, s.invocations.get? i = some inv → inv.pending = (s.pendingOf i).length
  /-- No pending step has a sequence number that is still to be given. -/
  sequence : ∀ e ∈ s.steps.entries, e.1.sequence < s.nextSequence
  /-- No two pending steps share a sequence number. -/
  distinct : (s.steps.entries.map (·.1.sequence)).Nodup
  /-- No invocation has a number that is still to be given. -/
  numbered : ∀ i, s.invocations.contains i → i < s.nextInvocation

namespace Consistent

variable {s : Schedule}

theorem contains_iff (h : s.Consistent) (i : Nat) :
    s.invocations.contains i ↔ s.pendingOf i ≠ [] :=
  (h.listed i).trans pendingOf_ne_nil.symm

theorem fresh (h : s.Consistent) : s.Fresh where
  sequence := h.sequence
  invocation e he := h.numbered _ ((h.listed _).mpr ⟨e, he, rfl⟩)

/-- A schedule without steps and invocations, whatever numbers it goes on with. -/
theorem of_empty (hsteps : s.steps = ∅) (hinvocations : s.invocations = ∅) : s.Consistent := by
  have hentries : s.steps.entries = [] := congrArg OrderedMap.entries hsteps
  have hget : ∀ i, s.invocations.get? i = none := fun i => by
    rw [hinvocations]
    rfl
  constructor
  · intro i
    simp [hentries, OrderedMap.contains, hget]
  · intro i inv hinv
    rw [hget i] at hinv
    cases hinv
  · simp [hentries]
  · simp [hentries]
  · intro i hi
    simp [OrderedMap.contains, hget] at hi

/-! ### Starting -/

section Enqueue

variable {now : UInt64} {kind : TableKind} {table : String} {id : UInt32} {script : Script}
  {source target : Option Guid}

theorem enqueue_distinct (h : s.Consistent) :
    ((s.enqueue now kind table id script source target).2.steps.entries.map
      (·.1.sequence)).Nodup := by
  rw [(h.fresh.enqueue_entries_perm.map _).nodup_iff, List.map_append, plan_sequences]
  refine List.nodup_append.mpr ⟨List.nodup_range', h.distinct, fun a ha b hb => ?_⟩
  obtain ⟨e, he, rfl⟩ := List.mem_map.mp hb
  have hlt := h.sequence e he
  have hle := (List.mem_range'_1.mp ha).1
  omega

theorem enqueue_pendingOf_length (h : s.Consistent) (i : Nat) :
    ((s.enqueue now kind table id script source target).2.pendingOf i).length =
      if i = s.nextInvocation then script.length else (s.pendingOf i).length := by
  rw [(h.fresh.pendingOf_enqueue_perm i).length_eq]
  split
  · exact length_plan ..
  · rfl

/-- Starting a script that has a step keeps the books. -/
theorem enqueue (h : s.Consistent) (hscript : script ≠ []) :
    (s.enqueue now kind table id script source target).2.Consistent := by
  have hlength : script.length ≠ 0 := fun h0 => hscript (List.length_eq_zero_iff.mp h0)
  have hget := fun i => OrderedMap.get?_insert s.invocations i s.nextInvocation
    { kind, scriptId := id, source, target, pending := script.length : Invocation }
  constructor
  · intro i
    rw [← pendingOf_ne_nil, ← List.length_pos_iff, h.enqueue_pendingOf_length, enqueue_invocations,
      OrderedMap.contains, hget]
    split
    · simp only [Option.isSome_some, true_iff]
      omega
    · rw [List.length_pos_iff]
      exact h.contains_iff i
  · intro i inv hinv
    rw [enqueue_invocations, hget] at hinv
    rw [h.enqueue_pendingOf_length]
    split at hinv
    · obtain rfl := Option.some.inj hinv
      rw [if_pos ‹_›]
    · rw [if_neg ‹_›]
      exact h.counted i inv hinv
  · exact h.fresh.enqueue.sequence
  · exact h.enqueue_distinct
  · intro i hi
    rw [enqueue_invocations, OrderedMap.contains, hget] at hi
    rw [enqueue_nextInvocation]
    split at hi
    · omega
    · exact Nat.lt_succ_of_lt (h.numbered i hi)

end Enqueue

/-! ### Taking a step off -/

section Take

variable {e : DueKey × PendingStep} {rest : List (DueKey × PendingStep)}

/-- The invocation of the step that is taken off, before and after. -/
theorem take_own (h : s.Consistent) (hentries : s.steps.entries = e :: rest) :
    ∃ inv, s.invocations.get? e.2.invocation = some inv ∧
      inv.pending = ((s.take e.1 e.2).pendingOf e.2.invocation).length + 1 ∧
      (s.take e.1 e.2).invocations.get? e.2.invocation =
        if inv.pending ≤ 1 then none else some { inv with pending := inv.pending - 1 } := by
  have hmem : e ∈ s.steps.entries := hentries ▸ List.mem_cons_self ..
  obtain ⟨inv, hinv⟩ := (OrderedMap.contains_iff _ _).mp ((h.listed _).mpr ⟨e, hmem, rfl⟩)
  refine ⟨inv, hinv, ?_, ?_⟩
  · rw [h.counted _ inv hinv, pendingOf_take hentries, if_pos rfl, List.length_cons]
  · show (finishStep s.invocations e.2.invocation).get? _ = _
    rw [get?_finishStep, if_pos rfl, hinv, Option.bind_some]

/-- All other invocations stay as they are. -/
theorem take_other {i : Nat} (hentries : s.steps.entries = e :: rest) (hi : i ≠ e.2.invocation) :
    (s.take e.1 e.2).invocations.get? i = s.invocations.get? i ∧
      (s.take e.1 e.2).pendingOf i = s.pendingOf i := by
  constructor
  · show (finishStep s.invocations e.2.invocation).get? i = _
    rw [get?_finishStep, if_neg hi]
  · rw [pendingOf_take hentries, if_neg (Ne.symm hi)]

/-- Taking the first step off keeps the books. -/
theorem take (h : s.Consistent) (hentries : s.steps.entries = e :: rest) :
    (s.take e.1 e.2).Consistent := by
  have hrest := entries_take hentries
  obtain ⟨own, hown, hpending, hown'⟩ := h.take_own hentries
  constructor
  · intro i
    rw [← pendingOf_ne_nil, OrderedMap.contains]
    by_cases hi : i = e.2.invocation
    -- its own invocation goes just when no other step of it is pending
    · subst hi
      rw [hown', ← List.length_pos_iff]
      split
      · simp only [Option.isSome_none, Bool.false_eq_true, false_iff]
        omega
      · simp only [Option.isSome_some, true_iff]
        omega
    · obtain ⟨hget, hsame⟩ := take_other hentries hi
      rw [hget, hsame]
      exact h.contains_iff i
  · intro i inv hinv
    by_cases hi : i = e.2.invocation
    · subst hi
      rw [hown'] at hinv
      split at hinv
      · cases hinv
      · obtain rfl := Option.some.inj hinv
        show own.pending - 1 = _
        omega
    · obtain ⟨hget, hsame⟩ := take_other hentries hi
      rw [hget] at hinv
      rw [hsame]
      exact h.counted i inv hinv
  · exact (h.fresh.take hentries).sequence
  · have hnodup := h.distinct
    rw [hentries, List.map_cons] at hnodup
    rw [hrest]
    exact (List.nodup_cons.mp hnodup).2
  · intro i hi
    by_cases hown : i = e.2.invocation
    · exact hown ▸ h.fresh.invocation e (hentries ▸ List.mem_cons_self ..)
    · rw [OrderedMap.contains, (take_other hentries hown).1] at hi
      exact h.numbered i hi

end Take

/-! ### Dropping -/

/-- Dropping an invocation keeps the books. -/
theorem cancel (h : s.Consistent) (i : Nat) : (s.cancel i).2.Consistent := by
  have hget : ∀ j, (s.cancel i).2.invocations.get? j =
      if j = i then none else s.invocations.get? j :=
    fun j => OrderedMap.get?_erase s.invocations j i
  constructor
  · intro j
    rw [← pendingOf_ne_nil, OrderedMap.contains, hget, pendingOf_cancel]
    split
    · simp
    · exact h.contains_iff j
  · intro j inv hinv
    rw [hget] at hinv
    rw [pendingOf_cancel]
    split at hinv
    · cases hinv
    · rw [if_neg ‹_›]
      exact h.counted j inv hinv
  · exact (h.fresh.cancel i).sequence
  · exact h.distinct.sublist (List.filter_sublist.map _)
  · intro j hj
    rw [OrderedMap.contains, hget] at hj
    split at hj
    · cases hj
    · exact h.numbered j hj

theorem clear (s : Schedule) : s.clear.Consistent := of_empty rfl rfl

end Consistent

/-! ### Any sequence of operations -/

/-- What can be done to a schedule. -/
inductive Operation where
  | enqueue (now : UInt64) (kind : TableKind) (table : String) (id : UInt32) (script : Script)
      (source target : Option Guid)
  | popDue (now : UInt64)
  | cancel (invocation : Nat)
  | clear

/-- Whether an operation does not start a script without steps. -/
def Operation.IsSound : Operation → Prop
  | .enqueue _ _ _ _ script _ _ => script ≠ []
  | _ => True

/-- The schedule after an operation. -/
def perform (s : Schedule) : Operation → Schedule
  | .enqueue now kind table id script source target =>
    (s.enqueue now kind table id script source target).2
  | .popDue now => ((s.popDue now).map (·.2)).getD s
  | .cancel i => (s.cancel i).2
  | .clear => s.clear

/-- The number that an operation gives to a new invocation. -/
def given? (s : Schedule) : Operation → Option Nat
  | .enqueue now kind table id script source target =>
    some (s.enqueue now kind table id script source target).1
  | _ => none

/-- The schedule that comes of operations on a new one. -/
def after (ops : List Operation) : Schedule := ops.foldl perform {}

/-- The numbers that operations give to new invocations, in turn. -/
def given : Schedule → List Operation → List Nat
  | _, [] => []
  | s, op :: rest => (s.given? op).toList ++ given (s.perform op) rest

/-- Popping takes the first step off, or does nothing. -/
theorem perform_popDue (s : Schedule) (now : UInt64) :
    s.perform (.popDue now) = s ∨
      ∃ e rest, s.steps.entries = e :: rest ∧ s.perform (.popDue now) = s.take e.1 e.2 := by
  show ((s.popDue now).map (·.2)).getD s = s ∨
    ∃ e rest, s.steps.entries = e :: rest ∧ ((s.popDue now).map (·.2)).getD s = s.take e.1 e.2
  cases hpop : s.popDue now with
  | none => exact .inl rfl
  | some popped =>
    obtain ⟨⟨rest, hentries⟩, -, htake⟩ := of_popDue_eq_some hpop
    exact .inr ⟨popped.1, rest, hentries, htake⟩

theorem Consistent.perform {s : Schedule} (h : s.Consistent) {op : Operation} (hop : op.IsSound) :
    (s.perform op).Consistent := by
  cases op with
  | enqueue => exact h.enqueue hop
  | popDue now =>
    rcases s.perform_popDue now with heq | ⟨e, rest, hentries, heq⟩
    · rw [heq]
      exact h
    · rw [heq]
      exact h.take hentries
  | cancel i => exact h.cancel i
  | clear => exact Consistent.clear s

/-- Any operation leaves nothing behind that has a number still to be given. -/
theorem Fresh.perform {s : Schedule} (h : s.Fresh) (op : Operation) : (s.perform op).Fresh := by
  cases op with
  | enqueue => exact h.enqueue
  | popDue now =>
    rcases s.perform_popDue now with heq | ⟨e, rest, hentries, heq⟩
    · rw [heq]
      exact h
    · rw [heq]
      exact h.take hentries
  | cancel i => exact h.cancel i
  | clear => exact Fresh.clear s

/-- What a new schedule has and every operation keeps holds after all of them. -/
theorem after_keeps {P : Schedule → Prop} {ops : List Operation} (hnew : P {})
    (hstep : ∀ s, ∀ op ∈ ops, P s → P (s.perform op)) : P (after ops) := by
  suffices ∀ (ops : List Operation) (s : Schedule), P s →
      (∀ s, ∀ op ∈ ops, P s → P (s.perform op)) → P (ops.foldl Schedule.perform s) from
    this ops {} hnew hstep
  intro ops
  induction ops with
  | nil => exact fun _ hs _ => hs
  | cons op rest ih =>
    intro s hs hstep
    have hop := hstep s op (List.mem_cons_self ..) hs
    exact ih _ hop fun s op' h' => hstep s op' (List.mem_cons_of_mem _ h')

theorem Consistent.after {ops : List Operation} (hops : ∀ op ∈ ops, op.IsSound) :
    (after ops).Consistent :=
  after_keeps (.of_empty rfl rfl) fun _ op hop h => h.perform (hops op hop)

theorem Fresh.after (ops : List Operation) : (after ops).Fresh :=
  after_keeps (Consistent.of_empty rfl rfl).fresh fun _ op _ h => h.perform op

/-- An operation moves the counter on past the number that it gives. -/
theorem nextInvocation_perform (s : Schedule) (op : Operation) :
    s.nextInvocation + (s.given? op).toList.length ≤ (s.perform op).nextInvocation ∧
      ∀ n ∈ s.given? op, n = s.nextInvocation := by
  cases op with
  | enqueue => simp [Schedule.perform, given?]
  | popDue now =>
    rcases s.perform_popDue now with heq | ⟨e, rest, -, heq⟩
    · simp [heq, given?]
    · simp [heq, given?, Schedule.take]
  | cancel i => simp [Schedule.perform, given?, Schedule.cancel]
  | clear => simp [Schedule.perform, given?, Schedule.clear]

/-- No number is given twice: each is greater than those before it. -/
theorem given_ascending (ops : List Operation) (s : Schedule) :
    (∀ n ∈ given s ops, s.nextInvocation ≤ n) ∧ (given s ops).Pairwise (· < ·) := by
  induction ops generalizing s with
  | nil => simp [given]
  | cons op rest ih =>
    obtain ⟨hge, hasc⟩ := ih (s.perform op)
    obtain ⟨hnext, hown⟩ := s.nextInvocation_perform op
    unfold given
    cases hgiven : s.given? op with
    | none => exact ⟨fun n hn => Nat.le_trans (by omega) (hge n hn), hasc⟩
    | some n =>
      obtain rfl := hown n hgiven
      rw [hgiven] at hnext
      have hlt : ∀ n ∈ given (s.perform op) rest, s.nextInvocation < n :=
        fun n hn => Nat.lt_of_lt_of_le hnext (hge n hn)
      refine ⟨fun n hn => ?_, List.pairwise_cons.mpr ⟨hlt, hasc⟩⟩
      rcases List.mem_cons.mp hn with rfl | hn
      · exact Nat.le_refl _
      · exact Nat.le_of_lt (hlt n hn)

/-! ### What the books say -/

/-- A script is running when a listed invocation matches. -/
theorem isRunning_iff (s : Schedule) (kind : TableKind) (id : UInt32) (source target : Option Guid)
    (policy : Policy) :
    s.isRunning kind id source target policy ↔
      ∃ i inv, s.invocations.get? i = some inv ∧ inv.matches kind id source target policy := by
  unfold isRunning OrderedMap.values
  rw [List.any_map, List.any_eq_true]
  constructor
  · rintro ⟨⟨i, inv⟩, hmem, hmatch⟩
    exact ⟨i, inv, (OrderedMap.mem_entries_iff _ _ _).mp hmem, hmatch⟩
  · rintro ⟨i, inv, hinv, hmatch⟩
    exact ⟨(i, inv), (OrderedMap.mem_entries_iff _ _ _).mpr hinv, hmatch⟩

/-- While the books are kept, this is when a pending step belongs to an invocation that matches. -/
theorem Consistent.isRunning_iff_pending {s : Schedule} (h : s.Consistent) (kind : TableKind)
    (id : UInt32) (source target : Option Guid) (policy : Policy) :
    s.isRunning kind id source target policy ↔
      ∃ e ∈ s.steps.entries, ∃ inv, s.invocations.get? e.2.invocation = some inv ∧
        inv.matches kind id source target policy := by
  rw [isRunning_iff]
  constructor
  · rintro ⟨i, inv, hinv, hmatch⟩
    obtain ⟨e, he, rfl⟩ := (h.listed i).mp ((OrderedMap.contains_iff _ _).mpr ⟨inv, hinv⟩)
    exact ⟨e, he, inv, hinv, hmatch⟩
  · rintro ⟨e, -, inv, hinv, hmatch⟩
    exact ⟨e.2.invocation, inv, hinv, hmatch⟩

/-- Starting a script leaves every pending step where it is. -/
theorem Fresh.enqueue_keeps {s : Schedule} (h : s.Fresh) (now : UInt64) (kind : TableKind)
    (table : String) (id : UInt32) (script : Script) (source target : Option Guid) :
    (∀ key step, s.steps.get? key = some step →
      (s.enqueue now kind table id script source target).2.steps.get? key = some step) ∧
    (s.enqueue now kind table id script source target).2.steps.size =
      script.length + s.steps.size := by
  constructor
  · intro key step hstep
    rw [← OrderedMap.mem_entries_iff] at hstep ⊢
    exact h.mem_enqueue_entries.mpr (.inr hstep)
  · refine h.enqueue_entries_perm.length_eq.trans ?_
    rw [List.length_append, length_plan]
    rfl

/-- The books of a schedule agree after any sequence of operations, in any order, that starts no
empty script; no number is given to two invocations and no start overwrites a pending step; a script
counts as running just while a pending step belongs to a matching invocation; and a start that goes
on from a built table never has an empty script to schedule. -/
theorem bookkeeping {σ : Type} (ops : List Operation) (hops : ∀ op ∈ ops, op.IsSound) :
    (after ops).Consistent ∧
    (given {} ops).Pairwise (· < ·) ∧
    (∀ now kind table id script source target,
      let next := ((after ops).enqueue now kind table id script source target).2
      (∀ key step, (after ops).steps.get? key = some step →
        next.steps.get? key = some step) ∧
      next.steps.size = script.length + (after ops).steps.size) ∧
    (∀ kind id source target policy,
      (after ops).isRunning kind id source target policy ↔
        ∃ e ∈ (after ops).steps.entries, ∃ inv,
          (after ops).invocations.get? e.2.invocation = some inv ∧
            inv.matches kind id source target policy) ∧
    (∀ (e : Engine σ) (r : Region) (kind : TableKind) (table : ScriptTable) (id : UInt32)
      (source target : Option Guid) (policy : Policy),
      e.registry.table? kind = some table → table.Built →
        (e.start r kind id source target policy).1 = true →
          ∃ script, script ≠ [] ∧ table.get? id = some script ∧
            (e.start r kind id source target policy).2.schedule =
              (r.schedule.enqueue r.now kind table.name id script source target).2) := by
  have hbooks := Consistent.after hops
  refine ⟨hbooks, (given_ascending ops {}).2, hbooks.fresh.enqueue_keeps,
    hbooks.isRunning_iff_pending, ?_⟩
  intro e r kind table id source target policy htable hbuilt hstarted
  rcases e.start_cases r kind id source target policy with
    ⟨t, script, ht, hscript, -, heq⟩ | ⟨-, heq⟩
  · obtain rfl := Option.some.inj (htable.symm.trans ht)
    exact ⟨script, (hbuilt.tidy id script hscript).1, hscript, by rw [heq]⟩
  · rw [heq] at hstarted
    cases hstarted

/-- A script of three steps, of which one is run and the rest dropped before the next start. -/
def interrupted : List Operation :=
  let start := Operation.enqueue 0 .event "dbscripts_on_event" 7
    [.plain 7 0 .talk, .plain 7 0 .activateObject, .plain 7 3 .attackStart] none none
  [start, .popDue 0, .cancel 0, start, .popDue 0]

theorem bookkeeping_interrupted :
    (∀ op ∈ interrupted, op.IsSound) ∧ given {} interrupted = [0, 1] ∧
      (after interrupted).isRunning .event 7 none none .uniqueBySource ∧
      (after interrupted).Consistent := by
  have hsound : ∀ op ∈ interrupted, op.IsSound := by
    simp [interrupted, Operation.IsSound]
  exact ⟨hsound, by decide, by decide, (bookkeeping (σ := Unit) interrupted hsound).1⟩

end RegionScript.Schedule
