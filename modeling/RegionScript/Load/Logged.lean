import RegionScript.Log
import RegionScript.Store.Error

/-!
Computations that log while they read from a source, and that keep their log when reading fails.
-/

namespace RegionScript

/-- What was logged, and the result or the failure. -/
structure Logged (α : Type) where
  log : List LogLine
  result : Except StoreError α

namespace Logged

/-- A result without a log. -/
def ok {α : Type} (a : α) : Logged α := ⟨[], .ok a⟩

/-- Goes on with the result, if there is one, and joins the logs. -/
def bind {α β : Type} (x : Logged α) (f : α → Logged β) : Logged β :=
  match x.result with
  | .error e => ⟨x.log, .error e⟩
  | .ok a => ⟨x.log ++ (f a).log, (f a).result⟩

instance : Monad Logged where
  pure := ok
  bind := bind

/-- A reading that logs nothing. -/
def read {α : Type} (x : Except StoreError α) : Logged α := ⟨[], x⟩

/-- Only a log. -/
def write (log : List LogLine) : Logged Unit := ⟨log, .ok ()⟩

/-- Results go through `bind` as they do without a log. -/
@[simp] theorem result_bind {α β : Type} (x : Logged α) (f : α → Logged β) :
    (x >>= f).result = x.result.bind fun a => (f a).result := by
  show (bind x f).result = _
  unfold bind
  cases h : x.result <;> rfl

@[simp] theorem result_pure {α : Type} (a : α) : (pure a : Logged α).result = .ok a := rfl

@[simp] theorem result_read {α : Type} (x : Except StoreError α) : (read x).result = x := rfl

@[simp] theorem result_write (log : List LogLine) : (write log).result = .ok () := rfl

/-- A computation gives a result just when both of its parts do. -/
theorem result_bind_eq_ok {α β : Type} {x : Logged α} {f : α → Logged β} {b : β} :
    (x >>= f).result = .ok b ↔ ∃ a, x.result = .ok a ∧ (f a).result = .ok b := by
  rw [result_bind]
  cases x.result with
  | error e => simp [Except.bind]
  | ok a => simp [Except.bind]

end Logged

end RegionScript
