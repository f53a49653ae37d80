import Pipework.Proofs.Canvas
import Pipework.Proofs.Faultless

/-!
# How an animation opens

Before anything is drawn the terminal is set up, by a fixed list of calls (`setupCalls`) in which the colours of the
palette are registered if they are wanted and the window has colours. Only a trap can break this off. After it an
animation is the run of a scene, and all that it draws are the strokes of that run (`animate_played`).
-/

set_option linter.unusedSectionVars false

namespace Pipework

open Act

variable {ρ τ : Type}

/-! ## Calls that set a terminal up -/

/-- The calls that register colours, the first as pair one. -/
def pairCalls (palette : List Int) : List Call := palette.zipIdx.map fun (color, i) => .pair (i + 1) color (-1)

/-- The calls that set up colours, given whether they are wanted and whether the window has any. -/
def colorCalls (palette : List Int) (wanted colors : Bool) : List Call :=
  (if wanted then [.hasColors] else [])
  ++ (if wanted && colors then [.startColors, .defaultColors] ++ pairCalls palette else [])

/-- The calls that set a terminal up. -/
def setupCalls (palette : List Int) (wanted colors : Bool) : List Call :=
  [.cursor 0, .immediate true, .keypad true] ++ colorCalls palette wanted colors ++ [.clear]

theorem pairCalls_trace (palette : List Int) : (pairCalls palette).filterMap Call.trace? = [] := by
  simp [pairCalls, List.filterMap_map, Function.comp_def, Call.trace?]

theorem setupCalls_trace (palette : List Int) (wanted colors : Bool) :
    (setupCalls palette wanted colors).filterMap Call.trace? = [] := by
  match wanted, colors with
  | false, _ => rfl
  | true, false => rfl
  | true, true =>
    change (pairCalls palette ++ [Call.clear]).filterMap Call.trace? = []
    rw [List.filterMap_append, pairCalls_trace]
    rfl

/-- Some of these calls, up to one that a trap has ended; the second is made only in colour. -/
def BrokenOff (colored : Bool) (calls : List Call) : Prop :=
  calls = [.cursor 0] ∨ colored ∧ calls = [.cursor 0, .immediate true, .keypad true, .hasColors, .startColors]

namespace Terminal

/-- A terminal on which calls have been made that change no more of its window than the traps and the cursor. -/
def called (calls : List Call) (traps sprung : List Trap) (cursor found : Option Int) (t : Terminal τ) : Terminal τ :=
  { t with
    window := { t.window with
      script := { t.window.script with traps, sprung }, cursor, log := calls.reverse ++ t.window.log }
    cursor := found }

/-- A terminal on which calls have been recorded. -/
def noted (calls : List Call) (t : Terminal τ) : Terminal τ :=
  t.called calls t.window.script.traps t.window.script.sprung t.window.cursor t.cursor

theorem forM_note {ι : Type} (call : ι → Call) (l : List ι) (t : Terminal τ) :
    (l.forM fun i => note (call i)) t = .ok () (t.noted (l.map call)) := by
  induction l generalizing t with
  | nil => rfl
  | cons i l ih =>
    have hnote : note (call i) t = .ok () (t.noted [call i]) := rfl
    change (note (call i) >>= fun _ => l.forM fun i => note (call i)) t = _
    rw [bind_of_ok hnote, ih]
    simp [noted, called]

/-- Once colours are started, their registration is a call for each entry of the palette. -/
theorem registerPalette_of_start {t t' : Terminal τ} (h : inWindow Window.startColors t = .ok () t') :
    registerPalette t = .ok () (t'.noted ([.defaultColors] ++ pairCalls t'.palette)) := by
  have hpairs := forM_note (fun (color, i) => .pair (i + 1) color (-1)) t'.palette.zipIdx
    (t'.noted [.defaultColors])
  rw [registerPalette, bind_of_ok h]
  refine hpairs.trans ?_
  simp [noted, called, pairCalls]

theorem hideCursor_cases (t : Terminal τ) :
    ∃ traps sprung cursor found,
      (hideCursor t = .ok () (t.called [.cursor 0] traps sprung cursor found) ∧
        (t.window.Unhindered → traps = t.window.script.traps)) ∨
      (∃ e, hideCursor t = .error e (t.called [.cursor 0] traps sprung cursor found)) ∧ ¬ t.window.Unhindered := by
  obtain ⟨traps, sprung, cursor, ⟨⟨found, hset⟩ | hset, hsame⟩ | ⟨⟨e, hset⟩, hindered⟩⟩ :=
    t.window.setCursor_cases 0
  · exact ⟨traps, sprung, cursor, some found, .inl ⟨bind_of_ok (tolerant_of_ok (on_of_ok hset)), hsame⟩⟩
  · exact ⟨traps, sprung, cursor, none, .inl ⟨bind_of_ok (tolerant_of_refused (on_of_error hset)), hsame⟩⟩
  · by_cases he : ∃ details, e = .terminal details
    · obtain ⟨details, rfl⟩ := he
      exact ⟨traps, sprung, cursor, none, .inl ⟨bind_of_ok (tolerant_of_refused (on_of_error hset)),
        fun h => absurd h hindered⟩⟩
    · exact ⟨traps, sprung, cursor, t.cursor, .inr ⟨⟨e, bind_of_error (tolerant_of_error (on_of_error hset)
        fun details hdetails => he ⟨details, hdetails⟩)⟩, hindered⟩⟩

theorem registerPalette_cases (t : Terminal τ) :
    ∃ traps sprung,
      registerPalette t = .ok () (t.called ([.startColors, .defaultColors] ++ pairCalls t.palette) traps sprung
          t.window.cursor t.cursor) ∨
      (∃ e, registerPalette t = .error e (t.called [.startColors] traps sprung t.window.cursor t.cursor)) ∧
        ¬ t.window.Unhindered := by
  obtain ⟨traps, sprung, ⟨hmeet, -⟩ | ⟨⟨e, hmeet⟩, hindered⟩⟩ :=
    Window.meet_opening (.inr rfl) (t.window.note .startColors)
  · refine ⟨traps, sprung, .inl ?_⟩
    have hstart : inWindow Window.startColors t =
        .ok () (t.called [.startColors] traps sprung t.window.cursor t.cursor) := on_of_ok hmeet
    rw [registerPalette_of_start hstart]
    simp [noted, called]
  · refine ⟨traps, sprung, .inr ⟨⟨e, ?_⟩, hindered⟩⟩
    have hstart : inWindow Window.startColors t =
        .error e (t.called [.startColors] traps sprung t.window.cursor t.cursor) := on_of_error hmeet
    rw [registerPalette, bind_of_error hstart]

theorem wantsColors_eq (t : Terminal τ) :
    wantsColors t = .ok (t.color && t.window.colors) (t.noted (if t.color then [.hasColors] else [])) := by
  obtain ⟨window, palette, bold, color, cursor⟩ := t
  cases color <;> rfl

theorem setupColors_cases (t : Terminal τ) :
    ∃ traps sprung,
      setupColors t = .ok ()
        { t.called (colorCalls t.palette t.color t.window.colors) traps sprung t.window.cursor t.cursor with
          color := t.color && t.window.colors } ∨
      ((∃ e, setupColors t = .error e (t.called [.hasColors, .startColors] traps sprung t.window.cursor t.cursor)) ∧
        (t.color && t.window.colors)) ∧ ¬ t.window.Unhindered := by
  obtain ⟨window, palette, bold, color, cursor⟩ := t
  rw [setupColors, bind_of_ok (wantsColors_eq _)]
  cases hcolors : color && window.colors with
  | false => exact ⟨window.script.traps, window.script.sprung, .inl (by simp [noted, called, colorCalls, hcolors]; rfl)⟩
  | true =>
    obtain ⟨rfl, -⟩ := Bool.and_eq_true_iff.1 hcolors
    let asked : Terminal τ := noted [.hasColors] ⟨window, palette, bold, true, cursor⟩
    obtain ⟨traps, sprung, hregister | ⟨⟨e, hregister⟩, hindered⟩⟩ := registerPalette_cases asked
    · refine ⟨traps, sprung, .inl (hregister.trans ?_)⟩
      simp [noted, called, colorCalls, hcolors, asked]
    · refine ⟨traps, sprung, .inr ⟨⟨⟨e, hregister.trans ?_⟩, rfl⟩, hindered⟩⟩
      simp [noted, called, asked]

theorem setup_cases (window : Window τ) (palette : List Int) (bold color : Bool) :
    let t : Terminal τ := ⟨window, palette, bold, color, none⟩
    ∃ traps sprung cursor found,
      setup t = .ok () { t.called (setupCalls palette color window.colors) traps sprung cursor found with
        color := color && window.colors } ∨
      (∃ e calls, setup t = .error e (t.called calls traps sprung cursor found) ∧
        BrokenOff (color && window.colors) calls) ∧ ¬ window.Unhindered := by
  intro t
  obtain ⟨traps, sprung, cursor, found, ⟨hhide, hsame⟩ | ⟨⟨e, hhide⟩, hindered⟩⟩ := hideCursor_cases t
  · -- the terminal once polls are immediate and keys are read
    let ready : Terminal τ := t.called [.cursor 0, .immediate true, .keypad true] traps sprung cursor found
    have hsetup : setup t = (setupColors >>= fun _ => note .clear) ready := bind_of_ok hhide
    rw [hsetup]
    obtain ⟨traps', sprung', hcolors | ⟨⟨⟨e, hcolors⟩, hcolored⟩, hindered⟩⟩ := setupColors_cases ready
    · refine ⟨traps', sprung', cursor, found, .inl ?_⟩
      have hclear (t : Terminal τ) : note .clear t = .ok () (t.noted [.clear]) := rfl
      rw [bind_of_ok hcolors, hclear]
      simp [setupCalls, noted, called, ready, t]
    · refine ⟨traps', sprung', cursor, found, .inr ⟨⟨e, _, ?_, .inr ⟨hcolored, rfl⟩⟩, fun hw => ?_⟩⟩
      · rw [bind_of_error hcolors]
        simp [called, ready, t]
      · have hready : ready.window.Unhindered := by
          rw [Window.Unhindered, show ready.window.script.traps = window.script.traps from hsame hw]
          exact hw
        exact hindered hready
  · exact ⟨traps, sprung, cursor, found, .inr ⟨⟨e, [.cursor 0], bind_of_error hhide, .inl rfl⟩, hindered⟩⟩

end Terminal

/-! ## What follows -/

section Animate

variable [RandomSource ρ] [Time τ] {s : Settings} {source : Except Fault ρ} {window : Window τ}
  {first : Scene ρ (Terminal τ)}

/-- The scene that an animation starts with, if it comes to that. -/
def Staged (s : Settings) (source : Except Fault ρ) (window : Window τ) (first : Scene ρ (Terminal τ)) : Prop :=
  ∃ palette t g, s.palette.numbers? = some palette ∧
    Terminal.setup ⟨window, palette, s.bold, s.color, none⟩ = .ok () t ∧ source = .ok g ∧
    Scene.create s g t = .ok first

/-- What an animation draws: strokes of the run of the scene that it starts with, and nothing without one. -/
def Draws (s : Settings) (pace : Pace τ) (source : Except Fault ρ) (most : Nat) (window : Window τ)
    (ks : List (Stroke ρ (Terminal τ))) : Prop :=
  (∃ first, Staged s source window first ∧ Scene.Performed first ks (left (first.run pace none most))) ∨
    (∀ first, ¬ Staged s source window first) ∧ ks = []

theorem not_staged_of_source (e : Fault) : ¬ Staged s (.error e) window first := by
  rintro ⟨-, -, g, -, -, hsource, -⟩
  cases hsource

theorem not_staged_of_setup {palette : List Int} (hpalette : s.palette.numbers? = some palette) {e : Fault}
    {t : Terminal τ} (hsetup : Terminal.setup ⟨window, palette, s.bold, s.color, none⟩ = .error e t) :
    ¬ Staged s source window first := by
  rintro ⟨palette', t', g, hpalette', hsetup', -, -⟩
  cases hpalette.symm.trans hpalette'
  cases hsetup.symm.trans hsetup'

/-- Once its scene is staged, an animation is the run of that scene. -/
theorem Staged.animate_eq (h : Staged s source window first) (pace : Pace τ) (most : Nat) :
    animate s pace source most window = match first.run pace none most with
      | .error e last => .error e last.surface.window
      | .ok ticks last => .ok ticks last.surface.window := by
  obtain ⟨palette, t, g, hpalette, hsetup, rfl, hcreate⟩ := h
  unfold animate
  cases hrun : first.run pace none most <;> simp only [hpalette, hsetup, Except.bind, hcreate, hrun]

theorem Staged.left_animate (h : Staged s source window first) (pace : Pace τ) (most : Nat) :
    left (animate s pace source most window) = (left (first.run pace none most)).surface.window := by
  rw [h.animate_eq]
  cases first.run pace none most <;> rfl

/-- How an animation comes to its calls on a window: an opening, and then what its strokes leave. -/
structure Played (s : Settings) (pace : Pace τ) (source : Except Fault ρ) (most : Nat) (window : Window τ)
    (palette : List Int) (ks : List (Stroke ρ (Terminal τ))) (opening later : List Call) : Prop where
  draws : Draws s pace source most window ks
  calls : (left (animate s pace source most window)).calls = window.calls ++ (opening ++ later)
  opens : opening = setupCalls palette s.color window.colors ∨
    (BrokenOff (s.color && window.colors) opening ∧ ks = []) ∧ ¬ window.Unhindered
  traces : later.filterMap Call.trace? = ks.flatMap Stroke.traces
  later : ∀ c ∈ later, ¬ c.IsColorSetup
  scenes : ∀ k ∈ ks, k.scene.Framed s ∧
    (⟨window, palette, s.bold, s.color && window.colors, none⟩ : Terminal τ).SameSetup k.scene.surface

theorem Played.opening_trace {pace : Pace τ} {most : Nat} {palette : List Int} {ks : List (Stroke ρ (Terminal τ))}
    {opening later : List Call} (h : Played s pace source most window palette ks opening later) :
    opening.filterMap Call.trace? = [] := by
  rcases h.opens with hopening | ⟨⟨hopening | ⟨-, hopening⟩, -⟩, -⟩ <;> rw [hopening]
  · exact setupCalls_trace _ _ _
  · rfl
  · rfl

/-- What the scene is like that an animation starts with. -/
structure Scene.Opens (s : Settings) (window : Window τ) (palette : List Int) (first : Scene ρ (Terminal τ)) :
    Prop where
  framed : first.Framed s
  width : first.width = max 1 window.width
  height : first.height = max 1 window.height
  setup : (⟨window, palette, s.bold, s.color && window.colors, none⟩ : Terminal τ).SameSetup first.surface
  screen : window.script.SameScreen first.surface.window.script
  log : first.surface.window.log = (setupCalls palette s.color window.colors).reverse ++ window.log

variable {palette : List Int}

/-- Either a scene is staged, or setting up has been broken off, or there is nothing to draw from. -/
theorem staged_or (valid : s.Valid) (hpalette : s.palette.numbers? = some palette) (source : Except Fault ρ)
    (window : Window τ) :
    (∃ first, Staged s source window first ∧ first.Opens s window palette) ∨
      (∀ first, ¬ Staged s source window first) ∧ ∀ pace most, ∃ opening,
        (left (animate s pace source most window)).log = opening.reverse ++ window.log ∧
        (opening = setupCalls palette s.color window.colors ∨
          BrokenOff (s.color && window.colors) opening ∧ ¬ window.Unhindered) := by
  obtain ⟨traps, sprung, cursor, found, hsetup | ⟨⟨e, calls, hsetup, hcalls⟩, hindered⟩⟩ :=
    Terminal.setup_cases window palette s.bold s.color
  · cases source with
    | ok g =>
      let ready : Terminal τ := { Terminal.called (setupCalls palette s.color window.colors) traps sprung cursor found
        ⟨window, palette, s.bold, s.color, none⟩ with color := s.color && window.colors }
      obtain ⟨tables, pipes, g', hcreate, hframed⟩ := Scene.create_eq valid g ready
        (Terminal.roomy.width ready trivial) (Terminal.roomy.height ready trivial)
      have hstaged : Staged s (.ok g) window _ := ⟨palette, ready, g, hpalette, hsetup, rfl, hcreate⟩
      exact .inl ⟨_, hstaged, hframed, rfl, rfl, ⟨rfl, rfl, rfl, rfl⟩, ⟨rfl, rfl, rfl⟩, rfl⟩
    | error e =>
      refine .inr ⟨fun _ => not_staged_of_source e, fun pace most => ⟨_, ?_, .inl rfl⟩⟩
      unfold animate
      simp only [hpalette, hsetup, Except.bind, left]
      rfl
  · refine .inr ⟨fun _ => not_staged_of_setup hpalette hsetup, fun pace most => ⟨calls, ?_, .inr ⟨hcalls, hindered⟩⟩⟩
    unfold animate
    simp only [hpalette, hsetup, left]
    rfl

theorem Staged.unique {first' : Scene ρ (Terminal τ)} (h : Staged s source window first)
    (h' : Staged s source window first') : first = first' := by
  obtain ⟨palette, t, g, hpalette, hsetup, rfl, hcreate⟩ := h
  obtain ⟨palette', t', g', hpalette', hsetup', hsource, hcreate'⟩ := h'
  cases hpalette.symm.trans hpalette'
  cases hsource
  cases hsetup.symm.trans hsetup'
  exact Except.ok.inj (hcreate.symm.trans hcreate')

theorem Staged.opens (valid : s.Valid) (hpalette : s.palette.numbers? = some palette)
    (h : Staged s source window first) : first.Opens s window palette := by
  obtain ⟨first', hstaged, opens⟩ | ⟨hunstaged, -⟩ := staged_or valid hpalette source window
  · rw [h.unique hstaged]
    exact opens
  · exact absurd h (hunstaged first)

theorem Staged.played (valid : s.Valid) (hpalette : s.palette.numbers? = some palette)
    (h : Staged s source window first) {pace : Pace τ} {most : Nat} {ks : List (Stroke ρ (Terminal τ))}
    (hks : Scene.Performed first ks (left (first.run pace none most))) :
    ∃ later, Played s pace source most window palette ks (setupCalls palette s.color window.colors) later := by
  have opens := h.opens valid hpalette
  have hne : first.surface.palette ≠ [] := by
    obtain ⟨numbers, hnumbers, hne⟩ := valid.numbers
    rw [hpalette] at hnumbers
    cases hnumbers
    rw [opens.setup.palette]
    exact hne
  have hscenes := (Scene.framed_steady.of_performed opens.framed hks).2
  obtain ⟨-, hsetups, calls, hlog, htraces, hcalls⟩ := hks.inked opens.framed hne
  refine ⟨calls.reverse, .inl ⟨first, h, hks⟩, ?_, .inl rfl, htraces, fun c hc => hcalls c (List.mem_reverse.1 hc),
    fun k hk => ⟨(hscenes k hk).1, opens.setup.trans (hsetups k hk)⟩⟩
  rw [h.left_animate, Window.calls, hlog, opens.log]
  simp [Window.calls]

theorem animate_played (valid : s.Valid) (hpalette : s.palette.numbers? = some palette) (pace : Pace τ)
    (source : Except Fault ρ) (most : Nat) (window : Window τ) :
    ∃ ks opening later, Played s pace source most window palette ks opening later := by
  obtain ⟨first, hstaged, opens⟩ | ⟨hunstaged, hends⟩ := staged_or valid hpalette source window
  · obtain ⟨ks, hks⟩ := Scene.framed_steady.performs opens.framed pace none most
    obtain ⟨later, hplayed⟩ := hstaged.played valid hpalette hks
    exact ⟨ks, _, later, hplayed⟩
  · obtain ⟨opening, hlog, hopening⟩ := hends pace most
    refine ⟨[], opening, [], .inr ⟨hunstaged, rfl⟩, ?_, ?_, rfl, by simp, by simp⟩
    · rw [Window.calls, hlog]
      simp [Window.calls]
    · exact hopening.imp id fun h => ⟨⟨h.1, rfl⟩, h.2⟩

end Animate

end Pipework
