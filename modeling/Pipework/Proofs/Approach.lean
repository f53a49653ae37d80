import Mathlib.Data.List.Forall2
import Pipework.Proofs.Account

/-!
# Up to the put

The step of a pipe falls into an approach and a draw. The approach makes room for a glyph, which may move every
pipe, and takes the pipe one cell on; all of the animation has changed by then but for the count of what is drawn
and the cell of the canvas (`approach_eq`). A reset moves pipes at most, so each of them keeps its heading and its
style through the approaches of the others (`MadeRoom.displaced`).
-/

namespace Pipework

open Act

/-- The pipe has kept its heading and its style, though it may have come to another cell. -/
structure Pipe.Displaced (p p' : Pipe) : Prop where
  heading : p'.heading = p.heading
  color : p'.color = p.color
  glyphs : p'.glyphs = p.glyphs

theorem Pipe.Displaced.refl (p : Pipe) : p.Displaced p := ⟨rfl, rfl, rfl⟩

theorem Pipe.Displaced.trans {p q r : Pipe} (h : p.Displaced q) (h' : q.Displaced r) : p.Displaced r :=
  ⟨h'.heading.trans h.heading, h'.color.trans h.color, h'.glyphs.trans h.glyphs⟩

theorem exists_getElem?_of_forall₂ {α β : Type} {R : α → β → Prop} {l : List α} {l' : List β}
    (h : List.Forall₂ R l l') {i : Nat} {a : α} (ha : l[i]? = some a) : ∃ b, l'[i]? = some b ∧ R a b := by
  obtain ⟨hi, rfl⟩ := List.getElem?_eq_some_iff.1 ha
  have hi' : i < l'.length := h.length_eq ▸ hi
  exact ⟨l'[i], List.getElem?_eq_getElem hi', h.get hi hi'⟩

variable {ρ σ : Type} [RandomSource ρ] {width height : Int} {S : Settings}

theorem Scattered.displaced {g g' : ρ} {pipes moved : List Pipe} (h : Scattered width height g pipes moved g') :
    List.Forall₂ Pipe.Displaced pipes moved := by
  induction h with
  | nil => exact .nil
  | concat earlier p column row ih => exact List.rel_append ih (.cons ⟨rfl, rfl, rfl⟩ .nil)

namespace Scene

variable [Surface σ] {s r m : Scene ρ σ} {i : Nat} {v : Stride}

/-! ## Room -/

/-- What a reset leads to: the canvas is wiped, and pipes that start anywhere lie in cells drawn for them. -/
inductive ResetTo (s : Scene ρ σ) : Scene ρ σ → Prop where
  | still (still : s.settings.randomStart = false) : ResetTo s s.wiped
  | scattered {pipes : List Pipe} {g : ρ} (anywhere : s.settings.randomStart = true)
      (moved : Scattered s.width s.height s.source s.pipes pipes g) : ResetTo s (s.wiped.withPipes pipes g)

/-- What making room leads to: nothing is done as long as there is room, and else there is a reset. -/
inductive MadeRoom (s : Scene ρ σ) : Scene ρ σ → Prop where
  | enough (room : s.isFull = false) : MadeRoom s s
  | reset {r : Scene ρ σ} (full : s.isFull = true) (act : reset s = .ok () r) (made : s.ResetTo r) : MadeRoom s r

theorem reset_resetTo (h : s.Framed S) : ∃ r, reset s = .ok () r ∧ s.ResetTo r ∧ r.Framed S := by
  obtain ⟨pipes, g, hreset, hframed, -⟩ := reset_eq h
  refine ⟨_, hreset, ?_, hframed⟩
  have hscatter : reset s =
      (if s.settings.randomStart then scatter else pure () : Act (Scene ρ σ) Unit) s.wiped := rfl
  cases hstart : s.settings.randomStart with
  | false =>
    rw [hstart, hreset] at hscatter
    injection hscatter with _ hwiped
    rw [hwiped]
    exact .still hstart
  | true =>
    have hscattered := scatter_scattered (s := s.wiped) hstart
    rw [hstart, hreset] at hscatter
    rw [← show _ = scatter s.wiped from hscatter] at hscattered
    obtain ⟨pipes', g', heq, hmoved⟩ := hscattered
    rw [heq]
    exact .scattered hstart hmoved

theorem makeRoom_madeRoom (h : s.Framed S) : ∃ r, makeRoom s = .ok () r ∧ s.MadeRoom r ∧ r.Framed S := by
  rw [makeRoom, get_bind]
  by_cases hfull : s.isFull = true
  · obtain ⟨r, hreset, hmade, hframed⟩ := reset_resetTo h
    rw [if_pos hfull]
    exact ⟨r, hreset, .reset hfull hreset hmade, hframed⟩
  · rw [if_neg hfull]
    exact ⟨s, rfl, .enough (Bool.not_eq_true _ ▸ hfull), h⟩

theorem ResetTo.eq_wiped (h : s.ResetTo r) : r = s.wiped.withPipes r.pipes r.source := by
  cases h with
  | still still => rfl
  | scattered anywhere moved => rfl

theorem MadeRoom.eq_withRoom (h : s.MadeRoom r) : r = s.withRoom.withPipes r.pipes r.source := by
  unfold Scene.withRoom
  cases h with
  | enough room =>
    rw [room]
    rfl
  | reset full act made =>
    rw [if_pos full]
    exact made.eq_wiped

theorem ResetTo.displaced (h : s.ResetTo r) : List.Forall₂ Pipe.Displaced s.pipes r.pipes := by
  cases h with
  | still still => exact List.forall₂_same.2 fun p _ => .refl p
  | scattered anywhere moved => exact moved.displaced

theorem MadeRoom.displaced (h : s.MadeRoom r) : List.Forall₂ Pipe.Displaced s.pipes r.pipes := by
  cases h with
  | enough room => exact List.forall₂_same.2 fun p _ => .refl p
  | reset full act made => exact made.displaced

theorem MadeRoom.framed (h : s.MadeRoom r) (hs : s.Framed S) : r.Framed S := by
  cases h with
  | enough room => exact hs
  | reset full act made =>
    obtain ⟨r', hreset, -, hframed⟩ := reset_resetTo hs
    have hsame := act.symm.trans hreset
    injection hsame with _ hscene
    rwa [hscene]

/-! ## Approaches -/

/-- All that the step of pipe `i` does before the put. -/
def approach (i : Nat) : Act (Scene ρ σ) (Option Mark) := do
  makeRoom
  advancePipe i

def drawAny : Option Mark → Act (Scene ρ σ) Unit
  | some mark => draw mark
  | none => pure ()

theorem stepPipe_eq_approach (i : Nat) : (stepPipe i : Act (Scene ρ σ) Unit) = approach i >>= drawAny := by
  rw [approach, bind_assoc]
  rfl

/-- The approach of pipe `i` makes room, which leads to `r`, and then the pipe makes a stride, leading to `m`. -/
structure Approached (S : Settings) (i : Nat) (s r : Scene ρ σ) (v : Stride) (m : Scene ρ σ) : Prop where
  act : approach i s = .ok (some v.mark) m
  room : s.MadeRoom r
  pipe : r.pipes[i]? = some v.before
  enter : ∃ entry, v.before.enter S.boundary s.width s.height = .ok entry ∧ entry.heading = v.entering
  advance : ∃ g, Walk.advance S s.tables s.width s.height ⟨v.before, r.source⟩ = .ok v.mark ⟨v.after, g⟩ ∧
    m = r.withPipes (r.pipes.set i v.after) g

theorem approach_eq (h : s.Framed S) (hi : i < s.pipes.length) :
    ∃ r v m, Approached S i s r v m ∧ m.Framed S := by
  obtain ⟨r, hroom, hmade, hframed⟩ := makeRoom_madeRoom h
  have hr : i < r.pipes.length := hmade.displaced.length_eq ▸ hi
  obtain ⟨entry, w, henter, hadvance, hadvanced, hframed'⟩ := advancePipe_eq hframed hr
  have hsame : r.tables = s.tables ∧ r.width = s.width ∧ r.height = s.height := by
    obtain ⟨surface, drawn, resets, hwith⟩ := s.withRoom_elsewhere
    rw [hmade.eq_withRoom, hwith]
    exact ⟨rfl, rfl, rfl⟩
  obtain ⟨htables, hwidth, hheight⟩ := hsame
  rw [hwidth, hheight] at henter
  rw [htables, hwidth, hheight] at hadvance
  refine ⟨r, ⟨r.pipes[i], entry.heading, w.pipe.mark entry.heading, w.pipe⟩, _, ⟨?_, hmade, ?_, ?_, ?_⟩, hframed'⟩
  · rw [approach, bind_of_ok hroom, hadvanced]
  · exact List.getElem?_eq_getElem hr
  · exact ⟨entry, henter, rfl⟩
  · exact ⟨w.source, hadvance, rfl⟩

namespace Approached

/-- What is left of the step is to draw the mark of the stride. -/
theorem stepPipe_eq (h : Approached S i s r v m) : stepPipe i s = draw v.mark m := by
  rw [stepPipe_eq_approach, bind_of_ok h.act]
  rfl

theorem pipes_eq (h : Approached S i s r v m) : m.pipes = r.pipes.set i v.after := by
  obtain ⟨g, -, rfl⟩ := h.advance
  rfl

theorem eq_withRoom (h : Approached S i s r v m) : m = s.withRoom.withPipes m.pipes m.source := by
  obtain ⟨g, -, rfl⟩ := h.advance
  rw [h.room.eq_withRoom]
  rfl

theorem running_eq (h : Approached S i s r v m) : m.running = s.running := by
  obtain ⟨surface, drawn, resets, hwith⟩ := s.withRoom_elsewhere
  rw [h.eq_withRoom, hwith]
  rfl

theorem lt_length (h : Approached S i s r v m) : i < s.pipes.length := by
  obtain ⟨hi, -⟩ := List.getElem?_eq_some_iff.1 h.pipe
  rwa [h.room.displaced.length_eq]

theorem framed (h : Approached S i s r v m) (hs : s.Framed S) : m.Framed S := by
  obtain ⟨r', v', m', happroached, hframed⟩ := approach_eq hs h.lt_length
  have hsame := h.act.symm.trans happroached.act
  injection hsame with _ hscene
  rwa [hscene]

/-- A stride enters the next cell, and draws what the pipe has for its two headings. -/
theorem sound (h : Approached S i s r v m) : v.Sound S.boundary s.width s.height := by
  obtain ⟨entry, henter, hentering⟩ := h.enter
  obtain ⟨g, hadvance, -⟩ := h.advance
  obtain ⟨hx, hy, hmark⟩ := Walk.advance_pipe henter hadvance
  refine ⟨⟨entry.wrapped, ?_⟩, ?_⟩
  · rw [henter, hx, hy, ← hentering]
  · rw [hmark, hentering]

end Approached

end Scene

end Pipework
