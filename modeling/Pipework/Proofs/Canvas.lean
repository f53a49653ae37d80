import Pipework.Program
import Pipework.Proofs.Roomy
import Pipework.Proofs.Strokes

/-!
# What strokes leave on a terminal

A terminal records every call on its window. Each stroke of an animation leaves one write in this record, in the cell
in which the pipe then is and with the attributes of its colour, and perhaps a refusal after it; what is done between
the strokes leaves neither (`Inked`). So the writes of a run are its strokes one after another
(`Scene.Performed.inked`).
-/

set_option linter.unusedSectionVars false

namespace Pipework

open Act

variable {ρ τ : Type}

/-! ## Records -/

/-- What a call shows of a drawing. -/
inductive Trace where
  | written (y x : Int) (attributes : Nat)
  | refused
deriving DecidableEq

def Call.trace? : Call → Option Trace
  | write y x _ attributes => some (.written y x attributes)
  | refused => some .refused
  | _ => none

def Call.IsColorSetup : Call → Prop
  | startColors | pair .. => True
  | _ => False

/-- Terminals that were set up in the same way. -/
structure Terminal.SameSetup (t t' : Terminal τ) : Prop where
  palette : t'.palette = t.palette
  bold : t'.bold = t.bold
  color : t'.color = t.color
  corner : t'.window.corner = t.window.corner

theorem Terminal.SameSetup.trans {t t' t'' : Terminal τ} (h : t.SameSetup t') (h' : t'.SameSetup t'') :
    t.SameSetup t'' :=
  ⟨h'.palette.trans h.palette, h'.bold.trans h.bold, h'.color.trans h.color, h'.corner.trans h.corner⟩

/-- Scripts with screens of the same size, now and at the resize keys to come. -/
def Script.SameScreen (t t' : Script τ) : Prop := t'.width = t.width ∧ t'.height = t.height ∧ t'.sizes = t.sizes

/-! ## Calls -/

theorem Window.meet_cases (point : Point) (w : Window τ) :
    ∃ traps sprung, meet point w = .ok () { w with script := { w.script with traps, sprung } } ∨
      ∃ e, meet point w = .error e { w with script := { w.script with traps, sprung } } := by
  unfold meet inScript Act.on Script.meet
  split
  · next heq =>
    split at heq <;> cases heq
    exact ⟨_, _, .inl rfl⟩
  · next heq =>
    split at heq <;> cases heq
    exact ⟨_, _, .inr ⟨_, rfl⟩⟩

/-- A write is recorded, and so is its refusal, which comes only from a cell that cannot be written. -/
theorem Window.left_write (y x : Int) (text : String) (attributes : Nat) (w : Window τ) :
    ∃ traps sprung refusal, left (write y x text attributes w) =
        { w with script := { w.script with traps, sprung }, log := refusal ++ .write y x text attributes :: w.log } ∧
      (refusal = [] ∨ refusal = [.refused] ∧ ¬ w.Writable y x) := by
  obtain ⟨traps, sprung, hmeet | ⟨e, hmeet⟩⟩ := meet_cases .put (w.note (.write y x text attributes))
  · rw [Window.write, modify_bind, bind_of_ok hmeet, get_bind]
    split
    · next hcell => exact ⟨traps, sprung, [.refused], rfl, .inr ⟨rfl, hcell⟩⟩
    · exact ⟨traps, sprung, [], rfl, .inl rfl⟩
  · rw [Window.write, modify_bind, bind_of_error hmeet]
    exact ⟨traps, sprung, [], rfl, .inl rfl⟩

/-- No trap waits for the calls that set a terminal up. -/
def Window.Unhindered (w : Window τ) : Prop := ∀ t ∈ w.script.traps, t.point ≠ .cursor ∧ t.point ≠ .colors

theorem Window.meet_of_forall_ne {point : Point} {w : Window τ} (h : ∀ t ∈ w.script.traps, t.point ≠ point) :
    meet point w = .ok () w := by
  have hscript : Script.meet point w.script = .ok () w.script := by rw [Script.meet, Trap.spring_of_forall_ne h]
  rw [meet, inScript, on_of_ok hscript]

/-- Where a trap might break off the setting up, none does, or else the window is hindered. -/
theorem Window.meet_opening {point : Point} (hpoint : point = .cursor ∨ point = .colors) (w : Window τ) :
    ∃ traps sprung,
      (meet point w = .ok () { w with script := { w.script with traps, sprung } } ∧
        (w.Unhindered → traps = w.script.traps)) ∨
      (∃ e, meet point w = .error e { w with script := { w.script with traps, sprung } }) ∧ ¬ w.Unhindered := by
  by_cases h : ∀ t ∈ w.script.traps, t.point ≠ point
  · exact ⟨w.script.traps, w.script.sprung, .inl ⟨meet_of_forall_ne h, fun _ => rfl⟩⟩
  · have hindered : ¬ w.Unhindered := by
      intro hw
      refine h fun t ht => ?_
      rcases hpoint with rfl | rfl
      · exact (hw t ht).1
      · exact (hw t ht).2
    obtain ⟨traps, sprung, hmeet | hmeet⟩ := meet_cases point w
    · exact ⟨traps, sprung, .inl ⟨hmeet, fun hw => absurd hw hindered⟩⟩
    · exact ⟨traps, sprung, .inr ⟨hmeet, hindered⟩⟩

theorem Window.setCursor_cases (visibility : Int) (w : Window τ) :
    ∃ traps sprung cursor, let w' : Window τ :=
        { w with script := { w.script with traps, sprung }, cursor, log := .cursor visibility :: w.log }
      (((∃ found, setCursor visibility w = .ok found w') ∨ setCursor visibility w = .error cursorRefused w') ∧
        (w.Unhindered → traps = w.script.traps)) ∨
      (∃ e, setCursor visibility w = .error e w') ∧ ¬ w.Unhindered := by
  obtain ⟨script, cursor, colors, corner, log⟩ := w
  rw [setCursor, modify_bind, get_bind]
  cases cursor with
  | none => exact ⟨script.traps, script.sprung, none, .inl ⟨.inr rfl, fun _ => rfl⟩⟩
  | some before =>
    obtain ⟨traps, sprung, ⟨hmeet, hsame⟩ | ⟨⟨e, hmeet⟩, hindered⟩⟩ :=
      meet_opening (.inl rfl) (⟨script, some before, colors, corner, .cursor visibility :: log⟩ : Window τ)
    · exact ⟨traps, sprung, some visibility, .inl ⟨.inl ⟨before, bind_of_ok hmeet⟩, hsame⟩⟩
    · exact ⟨traps, sprung, some before, .inr ⟨⟨e, bind_of_error hmeet⟩, hindered⟩⟩

theorem Window.left_setCursor (visibility : Int) (w : Window τ) :
    ∃ traps sprung cursor, left (setCursor visibility w) =
      { w with script := { w.script with traps, sprung }, cursor, log := .cursor visibility :: w.log } := by
  obtain ⟨traps, sprung, cursor, ⟨⟨found, hset⟩ | hset, -⟩ | ⟨⟨e, hset⟩, -⟩⟩ := w.setCursor_cases visibility <;>
    exact ⟨traps, sprung, cursor, congrArg left hset⟩

/-- Where there are colours to choose from, a text put on a terminal is written in its cell. -/
theorem Terminal.left_write {t : Terminal τ} (h : t.palette ≠ []) (x y : Int) (text : String) (color : Int) :
    ∃ attributes traps sprung refusal, t.attributes? color = some attributes ∧
      left (write x y text color t) = { t with
        window := { t.window with
          script := { t.window.script with traps, sprung }
          log := refusal ++ .write y x text attributes :: t.window.log } } ∧
      (refusal = [] ∨ refusal = [.refused] ∧ ¬ t.window.Writable y x) := by
  obtain ⟨attributes, hattributes⟩ := exists_attributes h color
  obtain ⟨traps, sprung, refusal, hwrite, hrefusal⟩ := t.window.left_write y x text attributes
  refine ⟨attributes, traps, sprung, refusal, hattributes, ?_, hrefusal⟩
  rw [Terminal.write, get_bind, hattributes]
  dsimp only
  rw [left_discard, left_tolerant, inWindow, left_on, hwrite]

/-! ## Strokes -/

section Strokes

variable [RandomSource ρ] [Time τ] {S : Settings} {s : Scene ρ (Terminal τ)}

theorem Scene.withRoom_surface (s : Scene ρ (Terminal τ)) :
    ∃ cleared, s.withRoom.surface =
        { s.surface with window := { s.surface.window with log := cleared ++ s.surface.window.log } } ∧
      (cleared = [] ∨ cleared = [.clear]) := by
  unfold withRoom
  split
  · exact ⟨[.clear], rfl, .inr rfl⟩
  · exact ⟨[], rfl, .inl rfl⟩

/-- What a step of pipe `i` does to a scene on a terminal: it draws the pipe as it then is. -/
structure Scene.Stroked (i : Nat) (s s' : Scene ρ (Terminal τ)) : Prop where
  setup : s.surface.SameSetup s'.surface
  screen : s.surface.window.script.SameScreen s'.surface.window.script
  frame : s'.width = s.width ∧ s'.height = s.height
  log : ∃ p text attributes refusal cleared, s'.pipes[i]? = some p ∧
    s'.surface.attributes? p.color = some attributes ∧
    s'.surface.window.log = refusal ++ .write p.y p.x text attributes :: (cleared ++ s.surface.window.log) ∧
    (cleared = [] ∨ cleared = [.clear]) ∧
    (refusal = [] ∨ refusal = [.refused] ∧ ¬ s'.surface.window.Writable p.y p.x)

theorem Scene.stepPipe_stroked (h : s.Framed S) (hpalette : s.surface.palette ≠ []) {i : Nat}
    (hi : i < s.pipes.length) : Stroked i s (left (stepPipe i s)) := by
  obtain ⟨p, entering, pipes, g, hstep, -, hp⟩ := stepPipe_eq h hi
  obtain ⟨cleared, hroom, hcleared⟩ := s.withRoom_surface
  obtain ⟨surface, drawn, resets, hwith⟩ := s.withRoom_elsewhere
  rw [hwith] at hroom hstep
  have hpalette' : surface.palette ≠ [] := by
    rw [show surface = _ from hroom]
    exact hpalette
  obtain ⟨attributes, traps, sprung, refusal, hattributes, hwrite, hrefusal⟩ :=
    Terminal.left_write hpalette' p.x p.y (p.mark entering).glyph.toString p.color
  obtain ⟨drawn', hdraw⟩ := left_draw (p.mark entering) (withPipes pipes g { s with surface, drawn, resets })
  have hput : left (Surface.put (p.mark entering) surface) = _ := hwrite
  rw [hstep, hdraw, show (withPipes pipes g { s with surface, drawn, resets }).surface = surface from rfl, hput]
  obtain rfl : surface = _ := hroom
  exact ⟨⟨rfl, rfl, rfl, rfl⟩, ⟨rfl, rfl, rfl⟩, ⟨rfl, rfl⟩, p, _, attributes, refusal, cleared, hp, hattributes, rfl,
    hcleared, hrefusal⟩

/-! ## Between the strokes -/

/-- A terminal on which nothing has been drawn meanwhile, nor have colours been set up. -/
structure Terminal.Idle (t t' : Terminal τ) : Prop where
  setup : t.SameSetup t'
  log : ∃ calls, t'.window.log = calls ++ t.window.log ∧ ∀ c ∈ calls, c.trace? = none ∧ ¬ c.IsColorSetup

namespace Terminal

variable {t t' t'' : Terminal τ}

theorem Idle.refl (t : Terminal τ) : t.Idle t := ⟨⟨rfl, rfl, rfl, rfl⟩, [], rfl, by simp⟩

theorem Idle.trans (h : t.Idle t') (h' : t'.Idle t'') : t.Idle t'' := by
  obtain ⟨hsetup, calls, hlog, hcalls⟩ := h
  obtain ⟨hsetup', calls', hlog', hcalls'⟩ := h'
  refine ⟨hsetup.trans hsetup', calls' ++ calls, by rw [hlog', hlog, List.append_assoc], fun c hc => ?_⟩
  exact (List.mem_append.1 hc).elim (hcalls' c) (hcalls c)

/-- The script and the cursor may change, and calls that neither draw nor set up colours be recorded. -/
theorem idle_of_calls (calls : List Call) (h : ∀ c ∈ calls, c.trace? = none ∧ ¬ c.IsColorSetup) (script : Script τ)
    (cursor found : Option Int) :
    t.Idle { t with window := { t.window with script, cursor, log := calls ++ t.window.log }, cursor := found } :=
  ⟨⟨rfl, rfl, rfl, rfl⟩, calls, rfl, h⟩

theorem idle_inScript {α : Type} (act : Act (Script τ) α) : t.Idle (left (inWindow (Window.inScript act) t)) := by
  rw [inWindow, left_on, Window.inScript, left_on]
  exact idle_of_calls [] (by simp) _ _ _

theorem idle_refresh : t.Idle (left (Surface.refresh t)) := by
  change t.Idle (left (inWindow Window.refresh t))
  rw [inWindow, left_on, Window.refresh, Window.inScript]
  cases hrefresh : Script.refresh t.window.script with
  | ok a script =>
    rw [bind_of_ok (on_of_ok hrefresh)]
    exact idle_of_calls [.refresh] (by simp [Call.trace?, Call.IsColorSetup]) script _ _
  | error e script =>
    rw [bind_of_error (on_of_error hrefresh)]
    exact idle_of_calls [] (by simp) script _ _

theorem idle_clear : t.Idle (Surface.clear t) :=
  idle_of_calls [.clear] (by simp [Call.trace?, Call.IsColorSetup]) _ _ _

theorem idle_restore : t.Idle (left (Surface.restore t)) := by
  change t.Idle (left (Terminal.restore t))
  rw [Terminal.restore, get_bind]
  cases t.cursor with
  | none => exact .refl t
  | some visibility =>
    dsimp only
    obtain ⟨traps, sprung, cursor, hset⟩ := t.window.left_setCursor visibility
    rw [left_discard, left_tolerant, inWindow, left_on, hset]
    exact idle_of_calls [.cursor visibility] (by simp [Call.trace?, Call.IsColorSetup]) _ cursor _

end Terminal

theorem Scene.left_onSurface {σ α : Type} {act : Act σ α} {s : Scene ρ σ} :
    (left (onSurface act s)).surface = left (act s.surface) := by
  rw [onSurface, left_on]

theorem Scene.obey_idle (h : s.Framed S) (key : Key) : s.surface.Idle (left (obey key s)).surface := by
  unfold obey
  split
  · obtain ⟨pipes, g, hresize, -⟩ := resize_eq h.toReady (Terminal.roomy.width s.surface trivial)
      (Terminal.roomy.height s.surface trivial)
    rw [hresize]
    exact Terminal.idle_clear
  · split
    · exact .refl _
    · exact .refl _

/-- Between the strokes nothing is drawn. -/
theorem Scene.Interlude.idle {s' : Scene ρ (Terminal τ)} (h : s.Framed S) (between : Interlude s s') :
    s.surface.Idle s'.surface := by
  cases between with
  | refresh =>
    rw [left_onSurface]
    exact Terminal.idle_refresh
  | attend =>
    have hpoll : s.surface.Idle (left (onSurface Surface.poll s)).surface := by
      rw [left_onSurface]
      exact Terminal.idle_inScript Script.poll
    have hframed : (left (onSurface Surface.poll s)).Framed S := by
      rw [onSurface, left_on]
      exact h.elsewhere
    rw [Scene.attend]
    cases hr : onSurface Surface.poll s with
    | ok key s₁ =>
      rw [hr] at hpoll hframed
      rw [bind_of_ok hr]
      exact hpoll.trans (obey_idle hframed key)
    | error e s₁ =>
      rw [hr] at hpoll
      rw [bind_of_error hr]
      exact hpoll
  | now => exact .refl _
  | running => exact .refl _
  | sleep t =>
    rw [left_onSurface]
    exact Terminal.idle_inScript (Script.sleep t)
  | restore =>
    rw [left_onSurface]
    exact Terminal.idle_restore

theorem Scene.framed_steady : Steady (Framed S : Scene ρ (Terminal τ) → Prop) where
  count := ⟨S.pipes.toNat, fun _ hs => hs.length_pipes⟩
  step s i hs hi := ((roomy_lasting Terminal.roomy).steady.step s i ⟨hs, trivial⟩ hi).1
  interlude s s' hs between := ((roomy_lasting Terminal.roomy).steady.interlude s s' ⟨hs, trivial⟩ between).1

/-! ## All strokes -/

/-- Whether the last call on a window was refused. -/
def Window.refuses (w : Window τ) : Bool := w.log.head? = some .refused

/-- What a stroke leaves in the record: a write in the cell of its pipe, and its refusal if it was refused. -/
def Stroke.traces (k : Stroke ρ (Terminal τ)) : List Trace :=
  .written k.pipe.y k.pipe.x ((k.scene.surface.attributes? k.pipe.color).getD 0) ::
    if k.scene.surface.window.refuses then [.refused] else []

/-- What has been drawn on a terminal since is what some strokes leave, and colours were not set up again. -/
structure Terminal.Inked (t : Terminal τ) (ks : List (Stroke ρ (Terminal τ))) (t' : Terminal τ) : Prop where
  setup : t.SameSetup t'
  setups : ∀ k ∈ ks, t.SameSetup k.scene.surface
  log : ∃ calls, t'.window.log = calls ++ t.window.log ∧
    calls.reverse.filterMap Call.trace? = ks.flatMap Stroke.traces ∧ ∀ c ∈ calls, ¬ c.IsColorSetup

theorem Stroke.pipe_eq {k : Stroke ρ (Terminal τ)} {p : Pipe} (h : k.scene.pipes[k.index]? = some p) : k.pipe = p := by
  rw [List.getElem?_eq_getElem k.inScene] at h
  exact Option.some.inj h

theorem Terminal.Inked.stroke {s' : Scene ρ (Terminal τ)} {ks : List (Stroke ρ (Terminal τ))} {t : Terminal τ}
    (h : t.Inked ks s'.surface) {k : Stroke ρ (Terminal τ)} (hk : Scene.Stroked k.index s' k.scene) :
    t.Inked (ks ++ [k]) k.scene.surface := by
  obtain ⟨hsetup, hsetups, calls, hlog, htraces, hcolors⟩ := h
  obtain ⟨hsetup', -, -, p, text, attributes, refusal, cleared, hp, hattributes, hlog', hcleared, hrefusal⟩ := hk
  have hpipe := Stroke.pipe_eq hp
  refine ⟨hsetup.trans hsetup', fun k' hk' => ?_,
    refusal ++ .write p.y p.x text attributes :: (cleared ++ calls), ?_, ?_, ?_⟩
  · rcases List.mem_append.1 hk' with hk' | hk'
    · exact hsetups k' hk'
    · rw [List.mem_singleton.1 hk']
      exact hsetup.trans hsetup'
  · rw [hlog', hlog]
    simp
  · have hk : k.traces = .written p.y p.x attributes :: if k.scene.surface.window.refuses then [.refused] else [] := by
      rw [Stroke.traces, hpipe, hattributes, Option.getD_some]
    have hwipe : cleared.reverse.filterMap Call.trace? = [] := by rcases hcleared with rfl | rfl <;> rfl
    rw [List.flatMap_append, List.flatMap_singleton, ← htraces, hk, Window.refuses, hlog']
    rcases hrefusal with rfl | ⟨rfl, -⟩ <;> simp [hwipe, Call.trace?]
  · rcases hcleared with rfl | rfl <;> rcases hrefusal with rfl | ⟨rfl, -⟩ <;>
      simpa [Call.IsColorSetup] using hcolors

theorem Terminal.Inked.idle {ks : List (Stroke ρ (Terminal τ))} {t t' t'' : Terminal τ} (h : t.Inked ks t')
    (hidle : t'.Idle t'') : t.Inked ks t'' := by
  obtain ⟨hsetup, hsetups, calls, hlog, htraces, hcolors⟩ := h
  obtain ⟨hsetup', calls', hlog', hcalls'⟩ := hidle
  refine ⟨hsetup.trans hsetup', hsetups, calls' ++ calls, ?_, ?_, fun c hc => ?_⟩
  · rw [hlog', hlog, List.append_assoc]
  · have hnone : calls'.reverse.filterMap Call.trace? = [] :=
      List.filterMap_eq_nil_iff.2 fun c hc => (hcalls' c (List.mem_reverse.1 hc)).1
    rw [List.reverse_append, List.filterMap_append, htraces, hnone, List.append_nil]
  · exact (List.mem_append.1 hc).elim (fun hc => (hcalls' c hc).2) (hcolors c)

/-- What a run draws on a terminal are its strokes. -/
theorem Scene.Performed.inked {s' : Scene ρ (Terminal τ)} {ks : List (Stroke ρ (Terminal τ))} (h : s.Framed S)
    (hpalette : s.surface.palette ≠ []) (hks : Performed s ks s') : s.surface.Inked ks s'.surface := by
  have hframed {t : Scene ρ (Terminal τ)} {ks : List (Stroke ρ (Terminal τ))} (ht : Performed s ks t) : t.Framed S :=
    (framed_steady.of_performed h ht).1
  induction hks with
  | start => exact ⟨⟨rfl, rfl, rfl, rfl⟩, by simp, [], rfl, rfl, by simp⟩
  | stroke k before pipe step ih =>
    have hstroked := stepPipe_stroked (hframed before) (by rw [ih.setup.palette]; exact hpalette) pipe
    rw [← step] at hstroked
    exact ih.stroke hstroked
  | interlude before between ih => exact ih.idle (between.idle (hframed before))

end Strokes

end Pipework
