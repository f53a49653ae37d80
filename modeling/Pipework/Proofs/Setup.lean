import Pipework.Proofs.Cursor

/-!
# Setups that fail

A setup hides the cursor first and registers the colours later. The second can fail where the first has not, and then
nothing puts the cursor back: what was found is forgotten with the terminal, and the animation ends without a scene
that could give it back. So the cursor stays hidden, as it would not after any frame (`setup_failure_hides_cursor`).
-/

namespace Pipework

open Act

variable {ρ τ : Type}

/-! ## Calls that traps may end -/

/-- The state of a window after a call that a trap has ended. -/
def Window.trapped (c : Call) (trap : Trap) (traps : List Trap) (w : Window τ) : Window τ :=
  { w with script := { w.script with traps, sprung := trap :: w.script.sprung }, log := c :: w.log }

def Window.untrapped (c : Call) (traps : List Trap) (w : Window τ) : Window τ :=
  { w with script := { w.script with traps }, log := c :: w.log }

namespace Window

variable {w : Window τ} {point : Point} {traps : List Trap} {trap : Trap}

theorem meet_of_none (h : Trap.spring point w.script.traps = (none, traps)) :
    meet point w = .ok () { w with script := { w.script with traps } } := by
  unfold meet inScript Act.on Script.meet
  rw [h]

theorem meet_of_some (h : Trap.spring point w.script.traps = (some trap, traps)) :
    meet point w = .error trap.fault
      { w with script := { w.script with traps, sprung := trap :: w.script.sprung } } := by
  unfold meet inScript Act.on Script.meet
  rw [h]

theorem setCursor_of_none {found : Int} (hcursor : w.cursor = some found)
    (h : Trap.spring .cursor w.script.traps = (none, traps)) (visibility : Int) :
    setCursor visibility w = .ok found { w.untrapped (.cursor visibility) traps with cursor := some visibility } := by
  have hmeet : meet .cursor (w.note (.cursor visibility)) = .ok () (w.untrapped (.cursor visibility) traps) :=
    meet_of_none h
  rw [setCursor, modify_bind, get_bind, show (w.note (.cursor visibility)).cursor = some found from hcursor]
  exact bind_of_ok hmeet

theorem startColors_of_none (h : Trap.spring .colors w.script.traps = (none, traps)) :
    startColors w = .ok () (w.untrapped .startColors traps) :=
  meet_of_none (w := w.note .startColors) h

theorem startColors_of_some (h : Trap.spring .colors w.script.traps = (some trap, traps)) :
    startColors w = .error trap.fault (w.trapped .startColors trap traps) :=
  meet_of_some (w := w.note .startColors) h

end Window

/-! ## Setting up -/

namespace Terminal

variable {t : Terminal τ} {traps left : List Trap} {trap : Trap} {found : Int}

/-- The terminal once its cursor is hidden and its keys are set up. -/
def hidden (traps : List Trap) (found : Int) (t : Terminal τ) : Terminal τ :=
  t.called [.cursor 0, .immediate true, .keypad true] traps t.window.script.sprung (some 0) (some found)

theorem setup_eq_setupColors (hcursor : t.window.cursor = some found)
    (h : Trap.spring .cursor t.window.script.traps = (none, traps)) :
    setup t = (setupColors >>= fun _ => note .clear) (t.hidden traps found) := by
  have hset : inWindow (Window.setCursor 0) t =
      .ok found { t with window := { t.window.untrapped (.cursor 0) traps with cursor := some 0 } } :=
    on_of_ok (Window.setCursor_of_none hcursor h 0)
  have hhide : hideCursor t =
      .ok () (t.called [.cursor 0] traps t.window.script.sprung (some 0) (some found)) :=
    bind_of_ok (tolerant_of_ok hset)
  exact bind_of_ok hhide

/-- Colours are set up, unless they are wanted, the window has some, and a trap ends their start. -/
theorem setupColors_of_spring (t : Terminal τ) :
    (∃ t', setupColors t = .ok () t' ∧
        ¬ (t.color ∧ t.window.colors ∧ (Trap.spring .colors t.window.script.traps).1.isSome)) ∨
      ∃ trap left, t.color ∧ t.window.colors ∧ Trap.spring .colors t.window.script.traps = (some trap, left) ∧
        setupColors t = .error trap.fault (t.called [.hasColors, .startColors] left
          (trap :: t.window.script.sprung) t.window.cursor t.cursor) := by
  rw [setupColors, bind_of_ok (wantsColors_eq t)]
  by_cases hcolors : (t.color && t.window.colors) = true
  · obtain ⟨hcolor, hwindow⟩ := Bool.and_eq_true_iff.1 hcolors
    rw [if_pos hcolors, if_pos hcolor]
    cases hspring : Trap.spring .colors t.window.script.traps with
    | mk trap left =>
      cases trap with
      | none =>
        have hstart : inWindow Window.startColors (t.noted [.hasColors]) = .ok () _ :=
          on_of_ok (Window.startColors_of_none hspring)
        exact .inl ⟨_, registerPalette_of_start hstart, by simp⟩
      | some trap =>
        have hstart : inWindow Window.startColors (t.noted [.hasColors]) = .error trap.fault _ :=
          on_of_error (Window.startColors_of_some hspring)
        exact .inr ⟨trap, left, hcolor, hwindow, rfl, bind_of_error hstart⟩
  · rw [if_neg hcolors]
    refine .inl ⟨_, rfl, ?_⟩
    rintro ⟨hcolor, hwindow, -⟩
    exact hcolors (Bool.and_eq_true_iff.2 ⟨hcolor, hwindow⟩)

/-- The calls of a setup up to the start of the colours. -/
def callsToColors : List Call := [.cursor 0, .immediate true, .keypad true, .hasColors, .startColors]

/-- The terminal that a setup leaves if a trap ends the start of the colours. -/
def colorless (trap : Trap) (left : List Trap) (found : Int) (t : Terminal τ) : Terminal τ :=
  t.called callsToColors left (trap :: t.window.script.sprung) (some 0) (some found)

theorem setup_of_hidden (hcursor : t.window.cursor = some found)
    (h : Trap.spring .cursor t.window.script.traps = (none, traps)) :
    (∃ t', setup t = .ok () t' ∧ ¬ (t.color ∧ t.window.colors ∧ (Trap.spring .colors traps).1.isSome)) ∨
      ∃ trap left, t.color ∧ t.window.colors ∧ Trap.spring .colors traps = (some trap, left) ∧
        setup t = .error trap.fault (t.colorless trap left found) := by
  rw [setup_eq_setupColors hcursor h]
  obtain ⟨t', hcolors, hnone⟩ | ⟨trap, left, hcolor, hwindow, hspring, hcolors⟩ :=
    setupColors_of_spring (t.hidden traps found)
  · exact .inl ⟨t'.noted [.clear], bind_of_ok hcolors, hnone⟩
  · exact .inr ⟨trap, left, hcolor, hwindow, hspring, bind_of_error hcolors⟩

end Terminal

/-! ## Animations whose setup fails -/

theorem Window.not_cursorBack {w w' : Window τ} {found : Int} (hcursor : w.cursor = some found)
    (hcalls : w'.calls = w.calls ++ Terminal.callsToColors) : ¬ w.CursorBack w' := by
  rintro ⟨-, calls, hback, -⟩
  rw [hcalls, hcursor] at hback
  have hlast := congrArg List.getLast? (List.append_cancel_left hback)
  change some Call.startColors = ((Call.cursor 0 :: calls) ++ [Call.cursor found]).getLast? at hlast
  rw [List.getLast?_concat] at hlast
  cases hlast

/-- What becomes of a window whose cursor was found, if a setup hides it and then fails. -/
structure Window.LeftHidden (w : Window τ) (found : Int) (w' : Window τ) : Prop where
  cursor : w'.cursor = some 0
  calls : w'.calls = w.calls ++ Terminal.callsToColors
  notBack : ¬ w.CursorBack w'
  /-- The cursor is as it was only if it was hidden before. -/
  same : w'.cursor = w.cursor ↔ found = 0

/--
With valid settings, on a window whose cursor can be hidden, the setup fails exactly if colours are wanted, the window
has some, and a trap ends their start. Then the animation ends in the same fault, and the cursor is left hidden.
-/
theorem setup_failure_hides_cursor [RandomSource ρ] [Time τ] {s : Settings} (valid : s.Valid) {window : Window τ}
    {found : Int} (hcursor : window.cursor = some found) {traps : List Trap}
    (hhidden : Trap.spring .cursor window.script.traps = (none, traps)) (pace : Pace τ) (source : Except Fault ρ)
    (most : Nat) :
    ∃ palette, s.palette.numbers? = some palette ∧
      ((∃ e t, Terminal.setup ⟨window, palette, s.bold, s.color, none⟩ = .error e t) ↔
        s.color ∧ window.colors ∧ (Trap.spring .colors traps).1.isSome) ∧
      ∀ e t, Terminal.setup ⟨window, palette, s.bold, s.color, none⟩ = .error e t →
        animate s pace source most window = .error e t.window ∧ window.LeftHidden found t.window := by
  obtain ⟨palette, hpalette, -⟩ := valid.numbers
  refine ⟨palette, hpalette, ?_⟩
  let t : Terminal τ := ⟨window, palette, s.bold, s.color, none⟩
  obtain ⟨t', hsetup, hnone⟩ | ⟨trap, left, hcolor, hwindow, hspring, hsetup⟩ :=
    Terminal.setup_of_hidden (t := t) hcursor hhidden
  · rw [hsetup]
    refine ⟨⟨?_, fun h => absurd h hnone⟩, ?_⟩
    · rintro ⟨e, t, ⟨⟩⟩
    · rintro e t ⟨⟩
  · have hanimate : animate s pace source most window = .error trap.fault (t.colorless trap left found).window := by
      unfold animate
      simp only [hpalette]
      rw [hsetup]
    have hcalls : (t.colorless trap left found).window.calls = window.calls ++ Terminal.callsToColors := by
      simp [Terminal.colorless, Terminal.called, Window.calls, t]
    rw [hsetup, hspring]
    refine ⟨⟨fun _ => ⟨hcolor, hwindow, rfl⟩, fun _ => ⟨_, _, rfl⟩⟩, ?_⟩
    rintro e t ⟨⟩
    refine ⟨hanimate, rfl, hcalls, Window.not_cursorBack hcursor hcalls, ?_⟩
    rw [hcursor]
    exact ⟨fun h => (Option.some.inj h).symm, fun h => congrArg some h.symm⟩

/-- A window that has colours but cannot start them, and whose cursor was visible. -/
theorem setup_failure_hides_cursor_colors :
    let s : Settings := { seed := .number 1 }
    let script : Script Float := {
      width := 4, height := 3, keys := [113], sizes := [], time := 0, costs := fun _ => 0
      traps := [⟨.colors, .terminal "start_color() returned ERR", 0⟩] }
    let window : Window Float := { script, cursor := some 1, colors := true }
    s.Valid ∧ window.cursor = some 1 ∧ Trap.spring .cursor script.traps = (none, script.traps) ∧
      ∃ e w, animate s s.pace (s.seed.source 0) 5 window = .error e w ∧ window.LeftHidden 1 w ∧
        w.cursor ≠ window.cursor := by
  intro s script window
  have valid : s.Valid := by decide +kernel
  have hcursor : window.cursor = some 1 := rfl
  have hhidden : Trap.spring .cursor window.script.traps = (none, script.traps) := rfl
  obtain ⟨palette, hpalette, hfails, hleft⟩ :=
    setup_failure_hides_cursor valid hcursor hhidden s.pace (s.seed.source 0) 5
  obtain ⟨e, t, hsetup⟩ := hfails.2 ⟨rfl, rfl, rfl⟩
  obtain ⟨hanimate, hhidden⟩ := hleft e t hsetup
  exact ⟨valid, rfl, rfl, e, t.window, hanimate, hhidden, fun h => absurd (hhidden.same.1 h) (by decide)⟩

end Pipework
