/-
# Runs that leave a trace

A step of a run yields a value or a failure, and the events on the way there.  Steps are put one after
the other: the events of the first come first, and a failure keeps what was recorded before it.
-/
import KeywordGrammar.Failure
import KeywordGrammar.Log

namespace KeywordGrammar

/-- What a step of a run recorded, and what became of it. -/
structure Traced (α : Type) where
  events : List Event
  outcome : Except Failure α

namespace Traced

variable {α β : Type}

/-- A step that records nothing. -/
def ofExcept (outcome : Except Failure α) : Traced α := ⟨[], outcome⟩

/-- A step that records one event. -/
def record (e : Event) : Traced Unit := ⟨[e], .ok ()⟩

/-- One step and then the next. -/
def andThen (t : Traced α) (next : α → Traced β) : Traced β :=
  match t.outcome with
  | .ok a => ⟨t.events ++ (next a).events, (next a).outcome⟩
  | .error e => ⟨t.events, .error e⟩

instance : Monad Traced where
  pure a := ofExcept (.ok a)
  bind := andThen

/-- The outcome of two steps is that of the second on the outcome of the first. -/
theorem outcome_bind (t : Traced α) (next : α → Traced β) :
    (t >>= next).outcome = t.outcome.bind (fun a => (next a).outcome) := by
  show (t.andThen next).outcome = _
  unfold andThen
  cases t.outcome <;> rfl

@[simp] theorem outcome_pure (a : α) : (pure a : Traced α).outcome = .ok a := rfl

/-- Two steps record what the first records and, if it yields a value, what the second records. -/
theorem events_bind (t : Traced α) (next : α → Traced β) : (t >>= next).events =
    t.events ++ match t.outcome with
      | .ok a => (next a).events
      | .error _ => [] := by
  show (t.andThen next).events = _
  unfold andThen
  cases t.outcome with
  | ok a => rfl
  | error e => simp

@[simp] theorem events_pure (a : α) : (pure a : Traced α).events = [] := rfl

end Traced

end KeywordGrammar
