import Pipework.Act
import Pipework.Time

/-!
# Surfaces and clocks

A surface is a grid of cells that glyphs are put on, together with the keys typed at it. What is put on it,
a refresh and a poll for a key may end in faults of the surroundings, and so may a sleep.
-/

namespace Pipework

/-- A glyph in a cell, with the palette entry it is drawn in. -/
structure Mark where
  x : Int
  y : Int
  glyph : Char
  color : Nat
deriving DecidableEq

/-- A key is given by its code. -/
abbrev Key := Int

namespace Key

/-- No key was typed. -/
def none : Key := -1

/-- The size of the surface has changed. -/
def resize : Key := 410

end Key

class Surface (σ : Type) where
  /-- Reads width and height. -/
  size : σ → (Int × Int) × σ
  put : Mark → Act σ Unit
  clear : σ → σ
  refresh : Act σ Unit
  /-- The next key typed, or `Key.none`. -/
  poll : Act σ Key
  /-- Gives the surface back as it was found. -/
  restore : Act σ Unit

/-- A state that holds a clock. -/
class Clock (σ : Type) (τ : outParam Type) where
  /-- Reads the clock. -/
  now : σ → τ × σ
  sleep : τ → Act σ Unit

/-! ## Logged surfaces -/

/-- What happened to a surface. -/
inductive Event where
  | put (mark : Mark)
  | clear
  | refresh
  | restore
deriving DecidableEq

/-- A surface with what has happened to it, the latest first. An act that fails leaves no event. -/
structure LoggedSurface (σ : Type) where
  inner : σ
  log : List Event := []

namespace LoggedSurface

variable {σ τ : Type}

/-- The events in the order in which they happened. -/
def events (s : LoggedSurface σ) : List Event := s.log.reverse

@[simp] theorem events_mk (inner : σ) (log : List Event) : (mk inner log).events = log.reverse := rfl

/-- An act on the surface that leaves no event. -/
def silently {α : Type} (act : Act σ α) : Act (LoggedSurface σ) α :=
  act.on inner fun s t => { s with inner := t }

/-- An act on the surface that leaves an event if it succeeds. -/
def noting (e : Event) (act : Act σ Unit) : Act (LoggedSurface σ) Unit := do
  silently act
  modify fun s => { s with log := e :: s.log }

instance [Surface σ] : Surface (LoggedSurface σ) where
  size s :=
    let (size, inner) := Surface.size s.inner
    (size, { s with inner })
  put m := noting (.put m) (Surface.put m)
  clear s := ⟨Surface.clear s.inner, .clear :: s.log⟩
  refresh := noting .refresh Surface.refresh
  poll := silently Surface.poll
  restore := noting .restore Surface.restore

instance [Clock σ τ] : Clock (LoggedSurface σ) τ where
  now s :=
    let (t, inner) := Clock.now s.inner
    (t, { s with inner })
  sleep t := silently (Clock.sleep t)

end LoggedSurface

end Pipework
