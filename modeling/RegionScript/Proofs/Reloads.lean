import RegionScript.Proofs.Loading

/-!
Reloads and exchanges that overlap.

One registry is in force, and everybody shares it. A reload reads and checks the rows of its
table by itself, for as long as that takes, and only then puts the table into the registry that is
in force by that time. Between the two steps other reloads may put in their tables, or all of the
registry may be exchanged.

A registry that was put in force is never changed. It has a place of its own, and whoever takes a
snapshot holds on to a place. `reloads_lose_nothing` compares what is in force after any sequence of
such steps, of however many calls, with what the steps by themselves tell was put in force.
-/

namespace RegionScript

/-- A call that is to read the table of a family anew. -/
structure Reload where
  source : RowSource
  catalog : Catalog
  options : RegistryOptions
  kind : TableKind

/-- The table that a call reads; none when the rows cannot be read. -/
def Reload.table? (c : Reload) : Option ScriptTable :=
  (Registry.reread c.source c.catalog c.options c.kind).result.toOption.map (·.1)

/-- A call reads the table of its family. -/
theorem Reload.kind_of_table? {c : Reload} {t : ScriptTable} (h : c.table? = some t) :
    t.kind = c.kind := by
  obtain ⟨loaded, hloaded, rfl⟩ := Option.map_eq_some_iff.mp h
  have hok : (Registry.reread c.source c.catalog c.options c.kind).result = .ok loaded := by
    cases hresult : (Registry.reread c.source c.catalog c.options c.kind).result with
    | error e => rw [hresult] at hloaded; cases hloaded
    | ok a => rw [hresult] at hloaded; exact congrArg Except.ok (Option.some.inj hloaded)
  obtain ⟨rows, -, rfl⟩ := Loader.loadTable_eq_ok_iff.mp hok
  exact (ScriptTable.ofCommands_name c.kind _ _).1

/-- The registries that were put in force, each at its place, and the place of the present one. -/
structure RegistryHandle where
  placed : List Registry
  place : Fin placed.length

namespace RegistryHandle

/-- Only one registry was ever in force. -/
def new (r : Registry) : RegistryHandle := ⟨[r], ⟨0, Nat.one_pos⟩⟩

/-- The registry in force. -/
def registry (h : RegistryHandle) : Registry := h.placed[h.place]

/-- Puts a registry in force, at a place of its own. -/
def put (h : RegistryHandle) (r : Registry) : RegistryHandle :=
  ⟨h.placed ++ [r], ⟨h.placed.length, by simp⟩⟩

@[simp] theorem registry_put (h : RegistryHandle) (r : Registry) : (h.put r).registry = r :=
  List.getElem_concat_length rfl _

theorem placed_put (h : RegistryHandle) (r : Registry) : h.placed <+: (h.put r).placed :=
  List.prefix_append _ _

theorem placed_place (h : RegistryHandle) : h.placed[h.place.val]? = some h.registry :=
  List.getElem?_eq_getElem _

end RegistryHandle

/-- The shared handle, with the calls and the snapshots that know of it. -/
structure Exchange where
  handle : RegistryHandle
  /-- By call, the table that it has read and not yet put in. -/
  calls : List (Option ScriptTable) := []
  /-- By snapshot, the place that it holds on to. -/
  snapshots : List Nat := []

namespace Exchange

/-- A registry that no call and no snapshot knows of yet. -/
def of (r : Registry) : Exchange := { handle := .new r }

/-- The steps of those who share a registry. Calls are numbered in the order in which they read. -/
inductive Move where
  /-- A call reads and checks the rows of its table. -/
  | read (call : Reload)
  /-- A call puts the table that it has read into the registry in force. -/
  | install (call : Nat)
  | swap (registry : Registry)
  | snapshot

/-- Makes a move, if it is possible: a table is put in once, by a call that could read it. -/
def move? (s : Exchange) : Move → Option Exchange
  | .read call => some { s with calls := s.calls ++ [call.table?] }
  | .install call =>
    s.calls[call]?.join.map fun t =>
      { s with
        handle := s.handle.put (s.handle.registry.withTable t)
        calls := s.calls.set call none }
  | .swap registry => some { s with handle := s.handle.put registry }
  | .snapshot => some { s with snapshots := s.snapshots ++ [s.handle.place.val] }

def run? (s : Exchange) (moves : List Move) : Option Exchange := moves.foldlM move? s

/-- What a snapshot shows. -/
def snapshot? (s : Exchange) (snapshot : Nat) : Option Registry :=
  s.snapshots[snapshot]?.bind (s.handle.placed[·]?)

theorem run?_append (s : Exchange) (before after : List Move) :
    s.run? (before ++ after) = (s.run? before).bind (·.run? after) :=
  List.foldlM_append

theorem run?_cons (s : Exchange) (m : Move) (moves : List Move) :
    s.run? (m :: moves) = (s.move? m).bind (·.run? moves) :=
  List.foldlM_cons

/-! ### What the moves tell -/

/-- What was put in force: the table of a family, or all of a registry. -/
inductive Change where
  | table (t : ScriptTable)
  | whole (r : Registry)

/-- The calls that have read, in their order, and the changes, the last one first. -/
structure Story where
  calls : List Reload := []
  changes : List Change := []

namespace Story

/-- The table that a call has read. -/
def table? (s : Story) (call : Nat) : Option ScriptTable := s.calls[call]?.bind Reload.table?

/-- Tells of one more move. -/
def tell (s : Story) : Move → Story
  | .read call => { s with calls := s.calls ++ [call] }
  | .install call => { s with changes := ((s.table? call).map Change.table).toList ++ s.changes }
  | .swap registry => { s with changes := .whole registry :: s.changes }
  | .snapshot => s

/-- What is told of a sequence of moves. -/
def of (moves : List Move) : Story := moves.foldl tell {}

theorem of_concat (moves : List Move) (m : Move) : of (moves ++ [m]) = (of moves).tell m :=
  List.foldl_append

theorem calls_tell (s : Story) (m : Move) : s.calls <+: (s.tell m).calls := by
  cases m with
  | read c => exact List.prefix_append _ _
  | install | swap | snapshot => exact List.prefix_refl _

/-- What a call has read stays so. -/
theorem table?_tell {s : Story} {call : Nat} {t : ScriptTable} (h : s.table? call = some t)
    (m : Move) : (s.tell m).table? call = some t := by
  obtain ⟨c, hc, ht⟩ := Option.bind_eq_some_iff.mp h
  obtain ⟨hlt, rfl⟩ := List.getElem?_eq_some_iff.mp hc
  exact Option.bind_eq_some_iff.mpr ⟨_, List.prefix_iff_getElem?.mp (s.calls_tell m) call hlt, ht⟩

/-- A call keeps the number that it was given when it read. -/
theorem table?_of_read (before after : List Move) (c : Reload) :
    (of (before ++ .read c :: after)).table? (of before).calls.length = c.table? := by
  have hkept : ∀ (moves : List Move) (s : Story), s.calls <+: (moves.foldl tell s).calls := by
    intro moves
    induction moves with
    | nil => exact fun s => List.prefix_refl _
    | cons m rest ih => exact fun s => (s.calls_tell m).trans (ih (s.tell m))
  have hread : (of (before ++ [.read c])).calls = (of before).calls ++ [c] := by
    rw [of_concat]
    rfl
  have hmoves : of (before ++ .read c :: after) = after.foldl tell (of (before ++ [.read c])) := by
    rw [List.append_cons]
    exact List.foldl_append
  have hcalls : (of before).calls ++ [c] <+: (of (before ++ .read c :: after)).calls := by
    rw [hmoves, ← hread]
    exact hkept after _
  have hlt : (of before).calls.length < ((of before).calls ++ [c]).length := by simp
  rw [table?, List.prefix_iff_getElem?.mp hcalls _ hlt, List.getElem_concat_length rfl]
  rfl

end Story

/-- The table that the last change of a family's table has put in force. -/
def lastTable (start : Registry) (kind : TableKind) : List Change → Option ScriptTable
  | [] => start.table? kind
  | .table t :: earlier => if t.kind = kind then some t else lastTable start kind earlier
  | .whole r :: _ => r.table? kind

/-- The last registry that was put in force as a whole. -/
def lastWhole (start : Registry) : List Change → Registry
  | [] => start
  | .table _ :: earlier => lastWhole start earlier
  | .whole r :: _ => r

/-! ### What is in force -/

/-- A registry is what a list of changes makes of the one at the start. -/
structure Shows (start : Registry) (changes : List Change) (r : Registry) : Prop where
  table : ∀ kind, r.table? kind = lastTable start kind changes
  areaTriggers : r.areaTriggerScripts = (lastWhole start changes).areaTriggerScripts
  events : r.eventScripts = (lastWhole start changes).eventScripts
  names : r.names = (lastWhole start changes).names

theorem Shows.refl (r : Registry) : Shows r [] r := ⟨fun _ => rfl, rfl, rfl, rfl⟩

theorem Shows.swap (start : Registry) (changes : List Change) (r : Registry) :
    Shows start (.whole r :: changes) r :=
  ⟨fun _ => rfl, rfl, rfl, rfl⟩

theorem Shows.withTable {start r : Registry} {changes : List Change} (h : Shows start changes r)
    (t : ScriptTable) : Shows start (.table t :: changes) (r.withTable t) where
  table kind := by
    have hget : (r.withTable t).table? kind = if kind = t.kind then some t else r.table? kind :=
      OrderedMap.get?_insert r.tables kind t.kind t
    rw [hget, lastTable, ← h.table kind]
    by_cases hkind : kind = t.kind
    · rw [if_pos hkind, if_pos hkind.symm]
    · rw [if_neg hkind, if_neg (Ne.symm hkind)]
  areaTriggers := h.areaTriggers
  events := h.events
  names := h.names

/-- What calls have is what they have read: a call that waits has the table of its own reading, and
one that has put in a table had one. -/
structure Keeps (moves : List Move) (calls : List (Option ScriptTable)) : Prop where
  length : calls.length = (Story.of moves).calls.length
  waiting : ∀ call t, calls[call]? = some (some t) → (Story.of moves).table? call = some t
  installed : ∀ call, .install call ∈ moves → ∃ t, (Story.of moves).table? call = some t

namespace Keeps

variable {moves : List Move} {calls : List (Option ScriptTable)}

theorem nil : Keeps [] [] where
  length := rfl
  waiting _ _ h := by simp at h
  installed _ h := by simp at h

/-- A call that has read a table has read it after any further move. -/
theorem installed_concat (h : Keeps moves calls) {m : Move}
    (hm : ∀ call, m = .install call → ∃ t, (Story.of moves).table? call = some t) (call : Nat)
    (hcall : .install call ∈ moves ++ [m]) :
    ∃ t, (Story.of (moves ++ [m])).table? call = some t := by
  have hread : ∃ t, (Story.of moves).table? call = some t := by
    rcases List.mem_append.mp hcall with hcall | hcall
    · exact h.installed call hcall
    · exact hm call (List.mem_singleton.mp hcall).symm
  obtain ⟨t, ht⟩ := hread
  exact ⟨t, Story.of_concat moves m ▸ Story.table?_tell ht m⟩

/-- A call that reads gets the next number, in the account as well. -/
theorem read (h : Keeps moves calls) (c : Reload) :
    Keeps (moves ++ [.read c]) (calls ++ [c.table?]) where
  length := by
    rw [Story.of_concat]
    simp [Story.tell, h.length]
  waiting call t hcall := by
    rw [Story.of_concat]
    rcases Nat.lt_trichotomy call calls.length with hlt | rfl | hgt
    · rw [List.getElem?_append_left hlt] at hcall
      exact Story.table?_tell (h.waiting call t hcall) _
    · rw [List.getElem?_concat_length] at hcall
      rw [Story.table?, Story.tell, h.length, List.getElem?_concat_length]
      exact Option.some.inj hcall
    · rw [List.getElem?_eq_none (by simp; omega)] at hcall
      cases hcall
  installed := h.installed_concat nofun

/-- A call that puts in its table has none any more. -/
theorem install (h : Keeps moves calls) {c : Nat} {t : ScriptTable}
    (hcall : calls[c]? = some (some t)) : Keeps (moves ++ [.install c]) (calls.set c none) where
  length := by
    rw [Story.of_concat, List.length_set]
    exact h.length
  waiting call u hother := by
    rw [Story.of_concat]
    rw [List.getElem?_set] at hother
    split at hother
    · split at hother <;> cases hother
    · exact Story.table?_tell (h.waiting call u hother) _
  installed := h.installed_concat fun call hc =>
    ⟨t, Move.install.inj hc ▸ h.waiting c t hcall⟩

/-- Other moves concern no call. -/
theorem other (h : Keeps moves calls) {m : Move} (hinstall : ∀ call, m ≠ .install call)
    (hread : ∀ s : Story, (s.tell m).calls = s.calls) : Keeps (moves ++ [m]) calls where
  length := by
    rw [Story.of_concat, hread]
    exact h.length
  waiting call t hcall := by
    rw [Story.of_concat]
    exact Story.table?_tell (h.waiting call t hcall) m
  installed := h.installed_concat fun call hm => absurd hm (hinstall call)

end Keeps

/-- What is in force is what the moves tell of, and calls have what they have read. -/
structure Follows (start : Registry) (moves : List Move) (s : Exchange) : Prop where
  shows : Shows start (Story.of moves).changes s.handle.registry
  calls : Keeps moves s.calls

namespace Follows

variable {start : Registry} {moves : List Move} {s s' : Exchange}

theorem refl (r : Registry) : Follows r [] (.of r) := ⟨.refl r, .nil⟩

/-- Every move is told as it is made. -/
theorem move (h : Follows start moves s) {m : Move} (hm : s.move? m = some s') :
    Follows start (moves ++ [m]) s' := by
  cases m with
  | read c =>
    obtain rfl := Option.some.inj hm
    refine ⟨?_, h.calls.read c⟩
    rw [Story.of_concat]
    exact h.shows
  | install c =>
    obtain ⟨t, ht, rfl⟩ := Option.map_eq_some_iff.mp hm
    have hcall := Option.join_eq_some_iff.mp ht
    refine ⟨?_, h.calls.install hcall⟩
    -- the table comes from the call's own reading, as the account has it
    rw [Story.of_concat, Story.tell, h.calls.waiting c t hcall, RegistryHandle.registry_put]
    exact h.shows.withTable t
  | swap r =>
    obtain rfl := Option.some.inj hm
    refine ⟨?_, h.calls.other nofun fun _ => rfl⟩
    rw [Story.of_concat, RegistryHandle.registry_put]
    exact Shows.swap start _ r
  | snapshot =>
    obtain rfl := Option.some.inj hm
    refine ⟨?_, h.calls.other nofun fun _ => rfl⟩
    rw [Story.of_concat]
    exact h.shows

theorem run (h : Follows start moves s) {more : List Move} (hmore : s.run? more = some s') :
    Follows start (moves ++ more) s' := by
  induction more generalizing moves s with
  | nil =>
    obtain rfl := Option.some.inj hmore
    rwa [List.append_nil]
  | cons m more ih =>
    rw [run?_cons] at hmore
    obtain ⟨t, ht, hmore⟩ := Option.bind_eq_some_iff.mp hmore
    rw [List.append_cons]
    exact ih (h.move ht) hmore

end Follows

/-! ### Snapshots -/

theorem placed_of_move {s s' : Exchange} {m : Move} (h : s.move? m = some s') :
    s.handle.placed <+: s'.handle.placed ∧ s.snapshots <+: s'.snapshots := by
  cases m with
  | read c =>
    obtain rfl := Option.some.inj h
    exact ⟨List.prefix_refl _, List.prefix_refl _⟩
  | install c =>
    obtain ⟨t, -, rfl⟩ := Option.map_eq_some_iff.mp h
    exact ⟨s.handle.placed_put _, List.prefix_refl _⟩
  | swap r =>
    obtain rfl := Option.some.inj h
    exact ⟨s.handle.placed_put r, List.prefix_refl _⟩
  | snapshot =>
    obtain rfl := Option.some.inj h
    exact ⟨List.prefix_refl _, List.prefix_append _ _⟩

/-- What a snapshot shows it shows for ever. -/
theorem snapshot?_of_run {s s' : Exchange} {moves : List Move} (h : s.run? moves = some s')
    {i : Nat} {r : Registry} (hr : s.snapshot? i = some r) : s'.snapshot? i = some r := by
  induction moves generalizing s with
  | nil =>
    obtain rfl := Option.some.inj h
    exact hr
  | cons m rest ih =>
    rw [run?_cons] at h
    obtain ⟨t, ht, h⟩ := Option.bind_eq_some_iff.mp h
    -- a move keeps all places, and which place a snapshot holds on to
    obtain ⟨hplaced, hsnapshots⟩ := placed_of_move ht
    obtain ⟨place, hplace, hr⟩ := Option.bind_eq_some_iff.mp hr
    obtain ⟨hi, rfl⟩ := List.getElem?_eq_some_iff.mp hplace
    obtain ⟨hlt, rfl⟩ := List.getElem?_eq_some_iff.mp hr
    exact ih h (Option.bind_eq_some_iff.mpr ⟨_, List.prefix_iff_getElem?.mp hsnapshots i hi,
      List.prefix_iff_getElem?.mp hplaced _ hlt⟩)

/-- A snapshot shows what is in force. -/
theorem snapshot?_taken {s s' : Exchange} (h : s.move? .snapshot = some s') :
    s'.snapshot? s.snapshots.length = some s.handle.registry := by
  obtain rfl := Option.some.inj h
  refine Option.bind_eq_some_iff.mpr ⟨s.handle.place, ?_, s.handle.placed_place⟩
  exact List.getElem?_concat_length

/-! ### Overlapping reloads -/

/-- Where nothing comes between its two steps, a call does what reloading in one go does. -/
theorem reload_undisturbed (s : Exchange) (c : Reload) :
    (s.run? [.read c, .install s.calls.length]).map (·.handle.registry) =
      (s.handle.registry.reload c.source c.catalog c.options c.kind).result.toOption.map (·.1) := by
  have hread : s.run? [.read c, .install s.calls.length] =
      { s with calls := s.calls ++ [c.table?] }.move? (.install s.calls.length) := by
    rw [run?_cons, move?, Option.bind_some, run?_cons]
    cases move? { s with calls := s.calls ++ [c.table?] } (.install s.calls.length) <;> rfl
  have hresult : (s.handle.registry.reload c.source c.catalog c.options c.kind).result.toOption.map
      (·.1) = c.table?.map s.handle.registry.withTable := by
    unfold Registry.reload Reload.table?
    rw [Logged.result_bind]
    cases (Registry.reread c.source c.catalog c.options c.kind).result <;> rfl
  rw [hread, hresult, move?, List.getElem?_concat_length]
  cases c.table? with
  | none => rfl
  | some t => simp

end Exchange

open Exchange

/-- No reload loses what another has put in force. Whatever calls read, put in and exchange, and in
whatever order, the registry in force shows, for every family, the table of the last change of that
family, and else what the last whole registry has; the table of a call is of the family that it was
asked to read. A call that could not read leaves the handle as it is and never puts in a table. A
snapshot shows to the end what was in force when it was taken. -/
theorem reloads_lose_nothing {start : Registry} {moves : List Move} {s : Exchange}
    (h : (Exchange.of start).run? moves = some s) :
    Shows start (Story.of moves).changes s.handle.registry ∧
      (∀ (c : Reload) t, c.table? = some t → t.kind = c.kind) ∧
      (∀ before c after, moves = before ++ .read c :: after → c.table? = none →
        ∃ t t', (Exchange.of start).run? before = some t ∧ t.move? (.read c) = some t' ∧
          t'.handle = t.handle ∧ .install t.calls.length ∉ moves) ∧
      ∀ before after, moves = before ++ .snapshot :: after →
        ∃ t, (Exchange.of start).run? before = some t ∧
          s.snapshot? t.snapshots.length = some t.handle.registry := by
  have hfollows : Follows start moves s := (Follows.refl start).run h
  refine ⟨hfollows.shows, fun c t ht => c.kind_of_table? ht, ?failed, ?snapshots⟩
  case failed =>
    rintro before c after rfl hfails
    obtain ⟨t, ht, -⟩ := Option.bind_eq_some_iff.mp ((run?_append _ before _).symm.trans h)
    refine ⟨t, _, ht, rfl, rfl, fun hinstall => ?_⟩
    -- a call that puts in a table has read one, and this call has the number of the failed reading
    obtain ⟨u, hu⟩ := hfollows.calls.installed _ hinstall
    have hlength : t.calls.length = (Story.of before).calls.length :=
      ((Follows.refl start).run ht).calls.length
    rw [hlength, Story.table?_of_read, hfails] at hu
    cases hu
  case snapshots =>
    rintro before after rfl
    obtain ⟨t, ht, hafter⟩ := Option.bind_eq_some_iff.mp ((run?_append _ before _).symm.trans h)
    rw [run?_cons] at hafter
    obtain ⟨u, hu, hafter⟩ := Option.bind_eq_some_iff.mp hafter
    exact ⟨t, ht, snapshot?_of_run hafter (snapshot?_taken hu)⟩

/-- Two calls read before either puts in its table, and a third cannot read. The second is done
first, and the table of the first joins what it has put in force; the snapshot between the two shows
the one table alone. -/
theorem reloads_lose_nothing_overlapping :
    let source : RowSource := ⟨fun _ => .ok [(Row.new 5 0 1).withData 3 0], .ok [], .ok [], .ok []⟩
    let broken : RowSource := ⟨fun _ => .error .malformedRecord, .ok [], .ok [], .ok []⟩
    let call (source : RowSource) (kind : TableKind) : Reload :=
      ⟨source, { emotes := .ofList [3] }, {}, kind⟩
    let reads : List Move := [.read (call source .event), .read (call source .spell)]
    let moves := reads ++ [.read (call broken .gossip), .install 1, .snapshot, .install 0]
    ∃ s, (Exchange.of {}).run? moves = some s ∧
      (call source .event).table? ≠ none ∧ (call source .spell).table? ≠ none ∧
      s.handle.registry.table? .event = (call source .event).table? ∧
      s.handle.registry.table? .spell = (call source .spell).table? ∧
      (call broken .gossip).table? = none ∧ .install 2 ∉ moves ∧
      ∃ r, s.snapshot? 0 = some r ∧ r.table? .event = none ∧
        r.table? .spell = (call source .spell).table? := by
  intro source broken call reads moves
  obtain ⟨s, hs⟩ : ∃ s, (Exchange.of {}).run? moves = some s := ⟨_, rfl⟩
  obtain ⟨hshows, -, hfailed, hsnapshots⟩ := reloads_lose_nothing hs
  refine ⟨s, hs, by decide +kernel, by decide +kernel, hshows.table .event, hshows.table .spell,
    rfl, ?failed, ?snapshot⟩
  case failed =>
    obtain ⟨t, -, ht, -, -, hinstall⟩ := hfailed reads _ _ rfl rfl
    have hcalls : ((Exchange.of {}).run? reads).map (·.calls.length) = some 2 := rfl
    rw [ht] at hcalls
    exact Option.some.inj hcalls ▸ hinstall
  case snapshot =>
    let before := reads ++ [.read (call broken .gossip), .install 1]
    obtain ⟨t, ht, hsnapshot⟩ := hsnapshots before _ rfl
    have hfirst : ((Exchange.of {}).run? before).map (·.snapshots.length) = some 0 := rfl
    rw [ht] at hfirst
    obtain ⟨hbefore, -⟩ := reloads_lose_nothing ht
    exact ⟨_, Option.some.inj hfirst ▸ hsnapshot, hbefore.table .event, hbefore.table .spell⟩

end RegionScript
