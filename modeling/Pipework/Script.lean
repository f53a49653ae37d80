import Pipework.Surface

/-!
# Scripted surroundings

A script stands for everything outside an animation: a screen whose size changes when a resize key is read,
the keys that will be typed, a clock that only refreshes and sleeps advance, and traps. A trap springs once,
at a given call of one kind, and ends that call in a fault before it has any effect.
-/

namespace Pipework

/-- The kinds of call that a trap can wait for. -/
inductive Point where
  | put
  | refresh
  | poll
  | sleep
  | cursor
  | colors
  | wrapper
deriving DecidableEq

/-- A fault that waits for a kind of call, after letting some of them pass. -/
structure Trap where
  point : Point
  fault : Fault
  after : Nat := 0

/-- The trap that a call springs, and the traps left. Traps before the one that springs let one call pass. -/
def Trap.spring (point : Point) : List Trap → Option Trap × List Trap
  | [] => (none, [])
  | t :: ts =>
    if t.point = point then
      match t.after with
      | 0 => (some t, ts)
      | after + 1 => Prod.map id ({ t with after } :: ·) (spring point ts)
    else Prod.map id (t :: ·) (spring point ts)

theorem Trap.spring_of_forall_ne {point : Point} {ts : List Trap} (h : ∀ t ∈ ts, t.point ≠ point) :
    spring point ts = (none, ts) := by
  induction ts with
  | nil => rfl
  | cons t ts ih =>
    rw [spring, if_neg (h t (by simp)), ih fun t ht => h t (by simp [ht])]
    rfl

structure Script (τ : Type) where
  width : Int
  height : Int
  keys : List Key
  /-- The sizes that resize keys announce. -/
  sizes : List (Int × Int)
  time : τ
  /-- The time that each refresh takes. -/
  costs : Nat → τ
  refreshes : Nat := 0
  /-- The durations slept, the latest first. -/
  sleepLog : List τ := []
  traps : List Trap
  /-- The traps that have sprung, the latest first. -/
  sprung : List Trap := []

namespace Script

variable {τ : Type}

/-- The durations slept, in order. -/
def sleeps (s : Script τ) : List τ := s.sleepLog.reverse

/-- A call of a kind: ends in a fault if it springs a trap. -/
def meet (point : Point) : Act (Script τ) Unit := fun s =>
  match Trap.spring point s.traps with
  | (some t, traps) => .error t.fault { s with traps, sprung := t :: s.sprung }
  | (none, traps) => .ok () { s with traps }

/-- Takes the next key; a resize key brings the next size with it. -/
def takeKey (s : Script τ) : Key × Script τ :=
  match s.keys, s.sizes with
  | [], _ => (Key.none, s)
  | key :: keys, [] => (key, { s with keys })
  | key :: keys, (width, height) :: sizes =>
    if key = Key.resize then (key, { s with keys, width, height, sizes }) else (key, { s with keys })

def poll : Act (Script τ) Key := do
  meet .poll
  modifyGet takeKey

/-- A refresh takes the time that its turn in the script says. -/
def refresh [Time τ] : Act (Script τ) Unit := do
  meet .refresh
  modify fun s => { s with time := s.time + s.costs s.refreshes, refreshes := s.refreshes + 1 }

def sleep [Time τ] (t : τ) : Act (Script τ) Unit := do
  modify fun s => { s with sleepLog := t :: s.sleepLog }
  meet .sleep
  modify fun s => { s with time := s.time + t }

instance [Time τ] : Surface (Script τ) where
  size s := ((s.width, s.height), s)
  put _ := meet .put
  clear s := s
  refresh := refresh
  poll := poll
  restore := pure ()

instance [Time τ] : Clock (Script τ) τ where
  now s := (s.time, s)
  sleep := sleep

end Script

end Pipework
