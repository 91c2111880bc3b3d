import Mathlib.Data.List.Induction
import RegionScript.OrderedMap.Lemmas
import RegionScript.Proofs.Inquiries

/-!
When a module runs.

Modules are bound one after another, and in between the hooks are asked. `Bound` reads off the moves
which module should be bound after them, and by which one; `Gated` says how one move can go then. A
session with all foreign code overheard tells that a module runs only while it is bound, and that it
is initialised just once, when it is bound.
-/

namespace RegionScript

variable {σ : Type}

/-! ### Binding -/

/-- The modules of a catalog, each overheard under the number of a binding. -/
def ModuleCatalog.overheard (c : ModuleCatalog σ) (binding : Nat) :
    ModuleCatalog (σ × Transcript) :=
  OrderedMap.map c fun _ m => m.overheard binding

theorem ModuleCatalog.negotiate_overheard (c : ModuleCatalog σ) (name revision : String)
    (binding : Nat) :
    (c.overheard binding).negotiate name revision =
      (c.negotiate name revision).map (Module.overheard binding) := by
  unfold negotiate overheard
  rw [OrderedMap.get?_map]
  cases OrderedMap.get? c name with
  | none => rfl
  | some m =>
    rw [Option.map_some]
    dsimp only
    rw [apply_ite (Except.map _), apply_ite (Except.map _)]
    rfl

/-- What is done with the hooks: a module is bound, or they are asked about some region. -/
inductive HookMove (σ : Type) where
  | bind (modules : ModuleCatalog σ) (name revision : String)
  | ask (q : Inquiry) (region : Region)

/-- What comes back. -/
inductive HookAnswer where
  | bound (result : Except ModuleError Unit)
  | replied (reply : Reply) (region : Region)

/-- The hooks, and what foreign code remembers. -/
structure HookSession (σ : Type) where
  hooks : Hooks σ
  memory : σ

namespace HookMove

/-- The same move, with the modules it may bind overheard. -/
def overheard (binding : Nat) : HookMove σ → HookMove (σ × Transcript)
  | bind modules name revision => bind (modules.overheard binding) name revision
  | ask q region => ask q region

def isBind : HookMove σ → Bool
  | bind .. => true
  | ask .. => false

/-- The move asks for the module under a name that it is known by, it declares the required hooks,
and it was made for just the revision that is asked for. -/
inductive Fits (x : Module σ) : HookMove σ → Prop
  | bind {modules : ModuleCatalog σ} {name : String}
      (known : OrderedMap.get? modules name = some x)
      (areaTrigger : x.manifest.hooks.contains .areaTrigger = true)
      (processEvent : x.manifest.hooks.contains .processEvent = true) :
      Fits x (.bind modules name x.manifest.revision)

theorem fits_bind_iff {modules : ModuleCatalog σ} {name revision : String} {x : Module σ} :
    Fits x (.bind modules name revision) ↔ modules.negotiate name revision = .ok x := by
  rw [ModuleCatalog.negotiate_eq_ok_iff]
  constructor
  · rintro ⟨known, areaTrigger, processEvent⟩
    refine ⟨known, ?_, rfl⟩
    simp [Hook.required, areaTrigger, processEvent]
  · rintro ⟨known, required, rfl⟩
    exact .bind known (required _ (by simp [Hook.required])) (required _ (by simp [Hook.required]))

end HookMove

/-- A module is bound: a move asked for it, it fits, and there was no binding since. -/
structure Bound (moves : List (HookMove σ)) (n : Nat) (x : Module σ) : Prop where
  fits : ∃ move, moves[n]? = some move ∧ move.Fits x
  last : ∀ k move, n < k → moves[k]? = some move → move.isBind = false

/-! ### Who is bound -/

section

variable {moves : List (HookMove σ)} {move : HookMove σ} {n : Nat} {x : Module σ}

theorem HookMove.Fits.isBind (h : move.Fits x) : move.isBind = true := by
  cases h
  rfl

theorem HookMove.Fits.unique {y : Module σ} (h : move.Fits x) (h' : move.Fits y) : x = y := by
  cases move with
  | bind modules name revision =>
    rw [HookMove.fits_bind_iff] at h h'
    exact Except.ok.inj (h.symm.trans h')
  | ask => cases h

theorem getElem?_concat_eq_some_iff {α : Type} {l : List α} {a b : α} {n : Nat} :
    (l ++ [a])[n]? = some b ↔ l[n]? = some b ∨ n = l.length ∧ a = b := by
  grind

/-- A module is bound by the last move, or it was bound before and that move was no binding. -/
theorem bound_concat : Bound (moves ++ [move]) n x ↔
    n = moves.length ∧ move.Fits x ∨ move.isBind = false ∧ Bound moves n x := by
  constructor
  · rintro ⟨⟨m, hm, hfits⟩, hlast⟩
    rcases getElem?_concat_eq_some_iff.mp hm with hold | ⟨hn, rfl⟩
    · obtain ⟨hlt, -⟩ := List.getElem?_eq_some_iff.mp hold
      exact .inr ⟨hlast _ _ hlt List.getElem?_concat_length, ⟨m, hold, hfits⟩, fun k m' hk hm' =>
        hlast k m' hk (getElem?_concat_eq_some_iff.mpr (.inl hm'))⟩
    · exact .inl ⟨hn, hfits⟩
  · rintro (⟨rfl, hfits⟩ | ⟨hask, ⟨m, hm, hfits⟩, hlast⟩)
    · refine ⟨⟨move, List.getElem?_concat_length, hfits⟩, fun k m hk hm => ?_⟩
      have hend : k < (moves ++ [move]).length := (List.getElem?_eq_some_iff.mp hm).1
      rw [List.length_append, List.length_singleton] at hend
      omega
    · refine ⟨⟨m, getElem?_concat_eq_some_iff.mpr (.inl hm), hfits⟩, fun k m' hk hm' => ?_⟩
      rcases getElem?_concat_eq_some_iff.mp hm' with hold | ⟨-, rfl⟩
      · exact hlast k m' hk hold
      · exact hask

/-- The module that is bound after some moves, and a transcript of them: it is initialised once. -/
structure Overhears (moves : List (HookMove σ)) (binding : Option (Nat × Module σ))
    (t : Transcript) : Prop where
  bound : ∀ n x, Bound moves n x ↔ binding = some (n, x)
  once : ∀ n x, binding = some (n, x) → t.count (.init n) = 1
  early : ∀ n, .init n ∈ t → n < moves.length

namespace Overhears

variable {binding : Option (Nat × Module σ)} {t heard : Transcript}

theorem nil : Overhears ([] : List (HookMove σ)) none [] where
  bound n x := by
    refine iff_of_false ?_ nofun
    rintro ⟨⟨m, hm, -⟩, -⟩
    cases hm
  once _ _ h := nomatch h
  early _ h := nomatch h

theorem binds (h : Overhears moves binding t) (fits : move.Fits x) :
    Overhears (moves ++ [move]) (some (moves.length, x)) (t ++ [.init moves.length]) where
  bound n y := by
    rw [bound_concat, fits.isBind, Option.some.injEq, Prod.mk.injEq]
    constructor
    · rintro (⟨rfl, hfits⟩ | ⟨⟨⟩, -⟩)
      exact ⟨rfl, fits.unique hfits⟩
    · rintro ⟨rfl, rfl⟩
      exact .inl ⟨rfl, fits⟩
  once := by
    rintro _ _ ⟨⟩
    have hfresh : Hearing.init moves.length ∉ t := fun hmem =>
      Nat.lt_irrefl _ (h.early _ hmem)
    rw [List.count_append, List.count_eq_zero.mpr hfresh, List.count_singleton_self]
  early n hmem := by
    rw [List.length_append, List.length_singleton]
    rcases List.mem_append.mp hmem with hold | hnew
    · exact Nat.lt_succ_of_lt (h.early n hold)
    · obtain ⟨⟩ := List.mem_singleton.mp hnew
      exact Nat.lt_succ_self _

theorem refuses (h : Overhears moves binding t) (isBind : move.isBind = true)
    (unfit : ∀ x, ¬ move.Fits x) : Overhears (moves ++ [move]) none t where
  bound n x := by
    rw [bound_concat, isBind]
    refine iff_of_false ?_ nofun
    rintro (⟨-, hfits⟩ | ⟨⟨⟩, -⟩)
    exact unfit x hfits
  once _ _ h := nomatch h
  early n hmem := by
    rw [List.length_append, List.length_singleton]
    exact Nat.lt_succ_of_lt (h.early n hmem)

theorem asks (h : Overhears moves binding t) (isAsk : move.isBind = false)
    (quiet : ∀ n, .init n ∉ heard) : Overhears (moves ++ [move]) binding (t ++ heard) where
  bound n x := by
    rw [bound_concat, isAsk, ← h.bound]
    constructor
    · rintro (⟨-, hfits⟩ | ⟨-, hbound⟩)
      · rw [hfits.isBind] at isAsk
        cases isAsk
      · exact hbound
    · exact fun hbound => .inr ⟨rfl, hbound⟩
  once n x hbinding := by
    rw [List.count_append, h.once n x hbinding, List.count_eq_zero.mpr (quiet n)]
  early n hmem := by
    rw [List.length_append, List.length_singleton]
    rcases List.mem_append.mp hmem with hold | hnew
    · exact Nat.lt_succ_of_lt (h.early n hold)
    · exact absurd hnew (quiet n)

end Overhears

end

/-! ### Sessions -/

/-- The ways in which a move can go, with what is heard of it, what comes back and what foreign code
remembers then: a module is bound and initialised, or nobody is bound and nothing is heard, or an
inquiry is answered. -/
inductive Gated (host : Option (Handler σ)) (before : List (HookMove σ)) (memory : σ) :
    HookMove σ → Transcript → HookAnswer → σ → Prop
  | binds {modules : ModuleCatalog σ} {name revision : String} {x : Module σ}
      (bound : Bound (before ++ [.bind modules name revision]) before.length x) :
      Gated host before memory (.bind modules name revision) [.init before.length]
        (.bound (.ok ())) (x.init memory)
  | refuses {modules : ModuleCatalog σ} {name revision : String} {e : ModuleError}
      (free : ∀ n x, ¬ Bound (before ++ [.bind modules name revision]) n x) :
      Gated host before memory (.bind modules name revision) [] (.bound (.error e)) memory
  | answers {q : Inquiry} {region : Region} {hook : Hook} {heard : Transcript} {reply : Reply}
      {w : World σ} (about : ∀ h : Hook, h.IsAbout q ↔ h = hook)
      (answered : Answered host (Bound before) hook q ⟨region, memory⟩ heard reply w) :
      Gated host before memory (.ask q region) heard (.replied reply w.region) w.memory

namespace HookSession

/-- A session with a host and no module. -/
def opened (host : Option (Handler σ)) (memory : σ) : HookSession σ := ⟨.of host none, memory⟩

def perform (s : HookSession σ) : HookMove σ → HookAnswer × HookSession σ
  | .bind modules name revision =>
    let loading := s.hooks.load modules name revision s.memory
    (.bound loading.result, ⟨loading.hooks, loading.memory⟩)
  | .ask q region =>
    let (reply, w) := s.hooks.reply q ⟨region, s.memory⟩
    (.replied reply w.region, { s with memory := w.memory })

section

variable {s : HookSession σ} {modules : ModuleCatalog σ} {name revision : String}

theorem perform_bind_of_ok {x : Module σ} (h : modules.negotiate name revision = .ok x) :
    s.perform (.bind modules name revision) =
      (.bound (.ok ()), ⟨⟨some x, s.hooks.host⟩, x.init s.memory⟩) := by
  dsimp only [perform, Hooks.load]
  rw [h]

theorem perform_bind_of_error {e : ModuleError} (h : modules.negotiate name revision = .error e) :
    s.perform (.bind modules name revision) =
      (.bound (.error e), ⟨⟨none, s.hooks.host⟩, s.memory⟩) := by
  dsimp only [perform, Hooks.load]
  rw [h]
  rfl

end

def after (s : HookSession σ) (moves : List (HookMove σ)) : HookSession σ :=
  moves.foldl (fun s move => (s.perform move).2) s

/-- The session after some moves, with all foreign code overheard. -/
def overheard (host : Option (Handler σ)) (memory : σ) (moves : List (HookMove σ)) :
    HookSession (σ × Transcript) :=
  (opened (host.map (Handler.overheard .host)) (memory, [])).after
    (moves.mapIdx HookMove.overheard)

section

variable (host : Option (Handler σ)) (memory : σ)

theorem after_concat (s : HookSession σ) (moves : List (HookMove σ)) (move : HookMove σ) :
    s.after (moves ++ [move]) = ((s.after moves).perform move).2 :=
  List.foldl_append

theorem overheard_concat (moves : List (HookMove σ)) (move : HookMove σ) :
    overheard host memory (moves ++ [move]) =
      ((overheard host memory moves).perform (move.overheard moves.length)).2 := by
  rw [overheard, List.mapIdx_concat, after_concat]
  rfl

/-- One move. -/
theorem perform_overheard {before : List (HookMove σ)} {binding : Option (Nat × Module σ)}
    {t : Transcript} (h : Overhears before binding t) (move : HookMove σ) :
    ∃ answer binding' memory' heard,
      perform ⟨.of host binding, memory⟩ move = (answer, ⟨.of host binding', memory'⟩) ∧
      perform ⟨.overheard host binding, (memory, t)⟩ (move.overheard before.length) =
        (answer, ⟨.overheard host binding', (memory', t ++ heard)⟩) ∧
      Overhears (before ++ [move]) binding' (t ++ heard) ∧
      Gated host before memory move heard answer memory' := by
  cases move with
  | bind modules name revision =>
    have hnoted := modules.negotiate_overheard name revision before.length
    cases hplain : modules.negotiate name revision with
    | ok x =>
      rw [hplain] at hnoted
      have hafter := h.binds (HookMove.fits_bind_iff.mpr hplain)
      exact ⟨.bound (.ok ()), some (before.length, x), x.init memory, [.init before.length],
        perform_bind_of_ok hplain, perform_bind_of_ok hnoted, hafter,
        .binds ((hafter.bound _ _).mpr rfl)⟩
    | error e =>
      rw [hplain] at hnoted
      have hunfit : ∀ x, ¬ (HookMove.bind modules name revision).Fits x := by
        intro x hfits
        rw [HookMove.fits_bind_iff, hplain] at hfits
        cases hfits
      have hafter := h.refuses rfl hunfit
      refine ⟨.bound (.error e), none, memory, [], perform_bind_of_error hplain, ?_, ?_,
        .refuses fun n x hbound => ?_⟩
      · rw [List.append_nil]
        exact perform_bind_of_error hnoted
      · rwa [List.append_nil]
      · exact nomatch (hafter.bound n x).mp hbound
  | ask q region =>
    obtain ⟨heard, reply, w, hanswered, hplain, hnoted⟩ :=
      Hooks.reply_overheard host binding q ⟨region, memory⟩ t
    have hbound : (fun n x => binding = some (n, x)) = Bound before := by
      funext n x
      exact propext (h.bound n x).symm
    rw [hbound] at hanswered
    change (Hooks.overheard host binding).reply q ⟨region, memory, t⟩ = _ at hnoted
    refine ⟨.replied reply w.region, binding, w.memory, heard, ?_, ?_,
      h.asks rfl hanswered.not_init, .answers (fun _ => Inquiry.isAbout_iff) hanswered⟩
    · dsimp only [perform]
      rw [hplain]
    · dsimp only [perform, HookMove.overheard]
      rw [hnoted]
      rfl

/-- Any number of moves. -/
theorem after_overheard (moves : List (HookMove σ)) :
    ∃ binding memory' t, (opened host memory).after moves = ⟨.of host binding, memory'⟩ ∧
      overheard host memory moves = ⟨.overheard host binding, (memory', t)⟩ ∧
      Overhears moves binding t := by
  induction moves using List.reverseRecOn with
  | nil => exact ⟨none, memory, [], rfl, rfl, .nil⟩
  | append_singleton before move ih =>
    obtain ⟨binding, memory', t, hplain, hnoted, h⟩ := ih
    obtain ⟨answer, binding', memory'', heard, hperform, hperform', h', -⟩ :=
      perform_overheard host memory' h move
    refine ⟨binding', memory'', t ++ heard, ?_, ?_, h'⟩
    · rw [after_concat, hplain, hperform]
    · rw [overheard_concat, hnoted, hperform']

/-- However the hooks are used, a module is bound just if the last binding succeeded, and that it
does only for a module that fits; it is initialised then and never again. A bound module is heard
only about inquiries that it declares the hook of, only after the host if that hears of them at all,
and not twice about one. Where nobody has an answer, it is the default, and the region is as the
host left it. That all is overheard changes nothing. -/
theorem modules_are_gated (before : List (HookMove σ)) (move : HookMove σ) :
    let s := (opened host memory).after before
    let after := s.perform move
    let overheard := overheard host memory before
    let overheardAfter := overheard.perform (move.overheard before.length)
    overheardAfter.1 = after.1 ∧ overheardAfter.2.memory.1 = after.2.memory ∧
    (∀ modules name revision, move = .bind modules name revision →
      (after.2.hooks.module.isSome = true ↔ after.1 = .bound (.ok ()))) ∧
    (∀ x, after.2.hooks.module = some x ↔ ∃ n, Bound (before ++ [move]) n x) ∧
    (∀ n x, Bound (before ++ [move]) n x → overheardAfter.2.memory.2.count (.init n) = 1) ∧
    ∃ heard, overheardAfter.2.memory.2 = overheard.memory.2 ++ heard ∧
      Gated host before s.memory move heard after.1 after.2.memory := by
  intro s after overheard overheardAfter
  obtain ⟨binding, memory', t, hplain, hnoted, h⟩ := after_overheard host memory before
  obtain ⟨answer, binding', memory'', heard, hperform, hperform', h', hgated⟩ :=
    perform_overheard host memory' h move
  have hs : s = ⟨.of host binding, memory'⟩ := hplain
  have hafter : after = (answer, ⟨.of host binding', memory''⟩) := by
    rw [← hperform, ← hs]
  have hoverheard : overheard = ⟨.overheard host binding, (memory', t)⟩ := hnoted
  have hoverheardAfter : overheardAfter =
      (answer, ⟨.overheard host binding', (memory'', t ++ heard)⟩) := by
    rw [← hperform', ← hoverheard]
  rw [hafter, hoverheardAfter, hoverheard, hs]
  refine ⟨rfl, rfl, ?_, fun x => ?_, fun n x hbound => h'.once n x ((h'.bound n x).mp hbound),
    heard, rfl, hgated⟩
  · rintro modules name revision rfl
    cases hgated with
    | binds bound =>
      rw [(h'.bound _ _).mp bound]
      exact iff_of_true rfl rfl
    | refuses free =>
      cases binding' with
      | none => exact iff_of_false nofun nofun
      | some e => exact absurd ((h'.bound e.1 e.2).mpr rfl) (free e.1 e.2)
  · show binding'.map Prod.snd = some x ↔ _
    constructor
    · intro hmodule
      obtain ⟨e, he, rfl⟩ := Option.map_eq_some_iff.mp hmodule
      exact ⟨e.1, (h'.bound _ _).mpr he⟩
    · rintro ⟨n, hbound⟩
      rw [(h'.bound n x).mp hbound]
      rfl

end

/-- A module that takes all calls, but declares no more than it must and gossip with creatures. -/
def gossiper : Module Unit where
  handle _ w := (true, w)
  dialogStatus _ _ w := (undefinedDialogStatus, w.memory)
  manifest := ⟨"gossiper", "r1", .ofList [.gossipHello, .areaTrigger, .processEvent]⟩
  init := id

/-- It is greeted after the host has declined; and when it is asked for again, but for another
revision, no module is bound any more. -/
theorem modules_are_gated_gossiper :
    let known : ModuleCatalog Unit := .ofList [("gossiper", gossiper)]
    let hello : Inquiry := .call (.gossipHello (.player 1) (.creature 4 1))
    let host : Option (Handler Unit) := some (.silent 0)
    let before : List (HookMove Unit) := [.bind known "gossiper" "r1"]
    let greeted := before ++ [.ask hello { id := 0 }]
    let reload : HookMove Unit := .bind known "gossiper" "r2"
    Bound greeted 0 gossiper ∧
      (overheard host () greeted).memory.2 =
        [.init 0, .host hello (.taken false), .module 0 hello (.taken true)] ∧
      (overheard host () greeted).memory.2.count (.init 0) = 1 ∧
      (((opened host ()).after greeted).perform reload).1 =
        .bound (.error (.outdated "r2" "r1")) ∧
      (((opened host ()).after greeted).perform reload).2.hooks.module.isSome = false := by
  intro known hello host before greeted reload
  have hknown : OrderedMap.get? known "gossiper" = some gossiper := by
    rw [OrderedMap.get?_ofList]
    rfl
  have hfits : HookMove.Fits gossiper (.bind known "gossiper" "r1") :=
    .bind hknown (HookSet.contains_ofList_iff.mpr (by decide))
      (HookSet.contains_ofList_iff.mpr (by decide))
  have hbefore : Bound ([] ++ before) 0 gossiper := bound_concat.mpr (.inl ⟨rfl, hfits⟩)
  have hbound : Bound greeted 0 gossiper := bound_concat.mpr (.inr ⟨rfl, hbefore⟩)
  have hrefused : (((opened host ()).after greeted).perform reload).1 =
      .bound (.error (.outdated "r2" "r1")) := rfl
  obtain ⟨-, -, -, -, honce, -⟩ := modules_are_gated host () before (.ask hello { id := 0 })
  obtain ⟨-, -, hgone, -, -, -⟩ := modules_are_gated host () greeted reload
  refine ⟨hbound, by decide +kernel, ?_, hrefused, ?_⟩
  · rw [overheard_concat host () before]
    exact honce 0 gossiper hbound
  · refine Bool.eq_false_iff.mpr fun hmodule => ?_
    have hok := (hgone _ _ _ rfl).mp hmodule
    rw [hrefused] at hok
    cases hok

end HookSession

end RegionScript
