import Pipework.Program
import Pipework.Proofs.Roomy

/-!
# Animations that do not fail

With valid settings, and no traps in the surroundings, nothing fails in an animation but the making of its random
source. A window without traps refuses at most writes and changes of its cursor, which a terminal passes over;
the palette of valid settings has colours; and the scene is in frame at all times, whatever size the window has.
-/

namespace Pipework

open Act

variable {ρ τ α : Type}

/-! ## Scripts without traps -/

namespace Script

def Untrapped (t : Script τ) : Prop := t.traps = []

variable {t : Script τ}

theorem Untrapped.meet (h : t.Untrapped) (point : Point) : meet point t = .ok () t := by
  cases t
  cases h
  rfl

theorem takeKey_traps : t.takeKey.2.traps = t.traps := by
  unfold takeKey
  split
  · rfl
  · rfl
  · split <;> rfl

theorem Untrapped.poll (h : t.Untrapped) : Keeps (fun _ => False) Untrapped (poll t) := by
  have hkey : t.takeKey.2.Untrapped := by rw [Untrapped, takeKey_traps, h]
  rw [Script.poll, bind_of_ok (h.meet .poll)]
  exact hkey

variable [Time τ]

theorem Untrapped.refresh (h : t.Untrapped) : Keeps (fun _ => False) Untrapped (refresh t) := by
  rw [Script.refresh, bind_of_ok (h.meet .refresh)]
  exact h

theorem Untrapped.sleep (h : t.Untrapped) (d : τ) : Keeps (fun _ => False) Untrapped (sleep d t) := by
  have hslept : ({ t with sleepLog := d :: t.sleepLog } : Script τ).Untrapped := h
  rw [Script.sleep, modify_bind, bind_of_ok (hslept.meet .sleep)]
  exact hslept

end Script

/-! ## Windows without traps -/

namespace Window

def Untrapped (w : Window τ) : Prop := w.script.Untrapped

variable {w : Window τ}

theorem Untrapped.inScript {act : Act (Script τ) α} (h : Keeps (fun _ => False) Script.Untrapped (act w.script)) :
    Keeps (fun _ => False) Untrapped (inScript act w) :=
  ends_on.2 h

theorem Untrapped.meet (h : w.Untrapped) (point : Point) : meet point w = .ok () w := by
  rw [Window.meet, Window.inScript, on_of_ok (Script.Untrapped.meet h point)]

theorem Untrapped.setCursor (h : w.Untrapped) (visibility : Int) :
    Keeps (fun e => ∃ details, e = .terminal details) Untrapped (setCursor visibility w) := by
  have hnoted : (w.note (.cursor visibility)).Untrapped := h
  rw [Window.setCursor, modify_bind, get_bind]
  cases (w.note (.cursor visibility)).cursor with
  | none => exact ⟨⟨_, rfl⟩, hnoted⟩
  | some before =>
    dsimp only
    rw [bind_of_ok (hnoted.meet .cursor)]
    exact hnoted

theorem Untrapped.write (h : w.Untrapped) (y x : Int) (text : String) (attributes : Nat) :
    Keeps (fun e => ∃ details, e = .terminal details) Untrapped (write y x text attributes w) := by
  have hnoted : (w.note (.write y x text attributes)).Untrapped := h
  rw [Window.write, modify_bind, bind_of_ok (hnoted.meet .put), get_bind]
  split
  · exact ⟨⟨_, rfl⟩, hnoted⟩
  · exact hnoted

theorem Untrapped.startColors (h : w.Untrapped) : Keeps (fun _ => False) Untrapped (startColors w) := by
  have hnoted : (w.note .startColors).Untrapped := h
  rw [Window.startColors, modify_bind, hnoted.meet .colors]
  exact hnoted

theorem Untrapped.refresh [Time τ] (h : w.Untrapped) : Keeps (fun _ => False) Untrapped (refresh w) := by
  have hrefresh : Keeps (fun _ => False) Untrapped (Window.inScript Script.refresh w) :=
    Untrapped.inScript (Script.Untrapped.refresh h)
  exact hrefresh.bind fun _ _ hw => hw

end Window

/-! ## Terminals on them -/

namespace Terminal

/-- No trap waits for a call on the window, and there are colours to choose from. -/
structure Sound (t : Terminal τ) : Prop where
  untrapped : t.window.Untrapped
  palette : t.palette ≠ []

variable {t : Terminal τ}

theorem Sound.inWindow {F : Fault → Prop} {act : Act (Window τ) α} (h : t.Sound)
    (hact : Keeps F Window.Untrapped (act t.window)) : Keeps F Sound (inWindow act t) :=
  ends_on.2 (Ends.mono hact (fun _ _ hw => ⟨hw, h.palette⟩) fun _ _ he => ⟨he.1, he.2, h.palette⟩)

theorem Sound.note (h : t.Sound) (c : Call) : Keeps (fun _ => False) Sound (note c t) := ⟨h.untrapped, h.palette⟩

theorem Sound.hideCursor (h : t.Sound) : Keeps (fun _ => False) Sound (hideCursor t) := by
  have hset := keeps_tolerant (h.inWindow (h.untrapped.setCursor 0))
  exact hset.bind fun found t ht => ⟨ht.untrapped, ht.palette⟩

theorem Sound.registerPalette (h : t.Sound) : Keeps (fun _ => False) Sound (registerPalette t) := by
  have hstart := h.inWindow h.untrapped.startColors
  refine hstart.bind fun _ t ht => ?_
  refine (ht.note .defaultColors).bind fun _ t ht => ?_
  rw [get_bind]
  exact Keeps.forM (fun (color, i) t ht => ht.note _) ht

theorem Sound.setupColors (h : t.Sound) : Keeps (fun _ => False) Sound (setupColors t) := by
  have hwants : Keeps (fun _ => False) Sound (wantsColors t) := by
    rw [wantsColors, get_bind]
    split
    · exact (h.note .hasColors).bind fun _ t ht => ht
    · exact h
  refine hwants.bind fun wanted t ht => ?_
  split
  · exact ht.registerPalette
  · exact ⟨ht.untrapped, ht.palette⟩

theorem Sound.setup (h : t.Sound) : Keeps (fun _ => False) Sound (setup t) := by
  refine h.hideCursor.bind fun _ t ht => ?_
  refine (ht.note (.immediate true)).bind fun _ t ht => ?_
  refine (ht.note (.keypad true)).bind fun _ t ht => ?_
  exact ht.setupColors.bind fun _ t ht => ht.note .clear

theorem Sound.write (h : t.Sound) (x y : Int) (text : String) (color : Int) :
    Keeps (fun _ => False) Sound (write x y text color t) := by
  obtain ⟨attributes, hattributes⟩ := exists_attributes h.palette color
  rw [Terminal.write, get_bind, hattributes]
  exact keeps_discard.2 (keeps_tolerant (h.inWindow (h.untrapped.write y x text attributes)))

theorem Sound.restore (h : t.Sound) : Keeps (fun _ => False) Sound (restore t) := by
  rw [Terminal.restore, get_bind]
  cases t.cursor with
  | none => exact h
  | some visibility => exact keeps_discard.2 (keeps_tolerant (h.inWindow (h.untrapped.setCursor visibility)))

theorem sound_roomy [Time τ] : Surface.Roomy (fun _ => False) (Sound (τ := τ)) where
  width t _ := Int.le_max_left 1 t.window.width
  height t _ := Int.le_max_left 1 t.window.height
  size _ h := h
  put _ m h := h.write m.x m.y m.glyph.toString m.color
  clear _ h := ⟨h.untrapped, h.palette⟩
  refresh _ h := h.inWindow h.untrapped.refresh
  poll _ h := h.inWindow (Window.Untrapped.inScript (Script.Untrapped.poll h.untrapped))
  restore _ h := h.restore
  now _ h := h
  sleep _ d h := h.inWindow (Window.Untrapped.inScript (Script.Untrapped.sleep h.untrapped d))

end Terminal

/-! ## Animations -/

theorem Settings.Valid.numbers {s : Settings} (h : s.Valid) :
    ∃ numbers, s.palette.numbers? = some numbers ∧ numbers ≠ [] := by
  obtain ⟨colors, hcolors⟩ := h.colors
  have hpos := Palette.colors?_length_pos hcolors
  refine ⟨colors.map Color.number, by rw [Palette.numbers?, hcolors]; rfl, ?_⟩
  rw [Ne, List.map_eq_nil_iff]
  exact List.ne_nil_of_length_pos hpos

variable [RandomSource ρ] [Time τ]

/-- With valid settings the terminal of a window without traps is set up, and a scene, once made, runs. -/
theorem animate_eq {s : Settings} (valid : s.Valid) {pace : Pace τ} (hpace : ∃ delay, pace.delay? = some delay)
    {window : Window τ} (h : window.Untrapped) (most : Nat) :
    (∀ source : ρ, ∃ ticks w, animate s pace (.ok source) most window = .ok ticks w) ∧
      ∀ e, ∃ w, animate s pace (.error e : Except Fault ρ) most window = .error e w := by
  obtain ⟨palette, hpalette, hcolors⟩ := valid.numbers
  have hsound : Terminal.Sound (⟨window, palette, s.bold, s.color, none⟩ : Terminal τ) := ⟨h, hcolors⟩
  obtain ⟨_, t, hsetup, ht⟩ := hsound.setup.exists_ok
  have hwidth := Terminal.sound_roomy.width t ht
  have hheight := Terminal.sound_roomy.height t ht
  constructor
  · intro source
    obtain ⟨tables, pipes, g, hcreate, hframed⟩ := Scene.create_eq valid source t hwidth hheight
    have hrun := (Scene.roomy_lasting Terminal.sound_roomy).run ⟨hframed, ht⟩ (.inr hpace) none most
    obtain ⟨ticks, scene, hrun, -⟩ := hrun.exists_ok
    refine ⟨ticks, scene.surface.window, ?_⟩
    unfold animate
    simp only [hpalette, hsetup, Except.bind, hcreate, hrun]
  · intro e
    refine ⟨t.window, ?_⟩
    unfold animate
    simp only [hpalette, hsetup, Except.bind]

/-- With valid settings and no traps an animation fails in one case only, if its seed was left blank. -/
theorem animate_succeeds_iff {s : Settings} (valid : s.Valid) {window : Window Float} (h : window.Untrapped)
    (entropy : Int) (most : Nat) :
    ((∃ ticks w, animate s s.pace (s.seed.source entropy) most window = .ok ticks w) ↔ s.seed ≠ .blank) ∧
      (s.seed = .blank → ∃ w, animate s s.pace (s.seed.source entropy) most window = .error (.blank .seed) w) := by
  obtain ⟨hok, herror⟩ := animate_eq (ρ := Twister) valid valid.delay h most
  cases hseed : s.seed with
  | any => exact ⟨⟨fun _ => Seed.noConfusion, fun _ => hok _⟩, fun hblank => Seed.noConfusion hblank⟩
  | number n => exact ⟨⟨fun _ => Seed.noConfusion, fun _ => hok _⟩, fun hblank => Seed.noConfusion hblank⟩
  | blank =>
    obtain ⟨w, hfails⟩ := herror (.blank .seed)
    refine ⟨⟨fun hsucceeds => ?_, fun hblank => absurd rfl hblank⟩, fun _ => ⟨w, hfails⟩⟩
    obtain ⟨ticks, w', hsucceeds⟩ := hsucceeds
    exact absurd (hfails.symm.trans hsucceeds) (by simp)

/-- A window of one cell, and settings that are valid but for a seed left blank, which no rule forbids. -/
theorem animate_fails_blank_seed :
    let S : Settings := { custom := some "xxxxxxxxxxxxxxxx", color := false, seed := .blank }
    let script : Script Float := {
      width := 1, height := 1, keys := [113], sizes := [], time := 0, costs := fun _ => 0, traps := [] }
    let window : Window Float := { script, cursor := some 1, colors := true }
    S.Valid ∧ window.Untrapped ∧
      ∃ w, animate S S.pace (S.seed.source 0) 5 window = .error (.blank .seed) w := by
  intro S script window
  have valid : S.Valid := by decide +kernel
  have huntrapped : window.Untrapped := rfl
  exact ⟨valid, huntrapped, (animate_succeeds_iff valid huntrapped 0 5).2 rfl⟩

end Pipework
