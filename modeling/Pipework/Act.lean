import Pipework.Fault

/-!
# Acts

An act changes a state and either gives a result or ends in a fault. A fault leaves behind the state that it
found, so what was done before it stays done.
-/

namespace Pipework

/-- A change of a state of type `σ` that gives an `α` or a fault. -/
abbrev Act (σ α : Type) := EStateM Fault σ α

namespace Act

variable {σ τ α : Type}

/-- An act on a part of the state. -/
def on (part : σ → τ) (replace : σ → τ → σ) (act : Act τ α) : Act σ α := fun s =>
  match act (part s) with
  | .ok a t => .ok a (replace s t)
  | .error e t => .error e (replace s t)

/-- Ends in a fault. -/
def fail (e : Fault) : Act σ α := fun s => .error e s

/-- Faults of the terminal are passed over, with `none` for the result. -/
def tolerant (act : Act σ α) : Act σ (Option α) := fun s =>
  match act s with
  | .ok a s => .ok (some a) s
  | .error (.terminal _) s => .ok none s
  | .error e s => .error e s

end Act

end Pipework
