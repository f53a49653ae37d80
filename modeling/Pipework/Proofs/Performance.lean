import Pipework.Proofs.Opening

/-!
# Performances

On an unhindered window nothing breaks off the setting up of a terminal, and nothing the giving back: a trap can spring
only within a frame. A write that a trap refuses is passed over, so a run ends by the first trap that does anything
else (`Trap.decides`), if not by itself. Until then it leaves the cursor as it was hidden, and records no further call
about it (`Terminal.Held`). How an animation ends on such a window is all said by `Concluded`.
-/

set_option linter.unusedSectionVars false

namespace Pipework

open Act

variable {ρ τ α : Type}

/-! ## Traps -/

/-- A refusal to write is passed over; what else a trap does decides how a run ends. -/
def Trap.decides : Trap → Bool
  | ⟨.put, .terminal _, _⟩ => false
  | _ => true

theorem Trap.not_decides_iff {trap : Trap} :
    ¬ trap.decides ↔ trap.point = .put ∧ ∃ details, trap.fault = .terminal details := by
  obtain ⟨point, fault, after⟩ := trap
  cases point <;> cases fault <;> simp [decides]

theorem Trap.spring_points (point : Point) (traps : List Trap) :
    (∀ trap, (spring point traps).1 = some trap → trap.point = point) ∧
      ∀ trap ∈ (spring point traps).2, ∃ trap' ∈ traps, trap.point = trap'.point := by
  induction traps with
  | nil => simp [spring]
  | cons first traps ih =>
    obtain ⟨hsprung, hleft⟩ := ih
    have hlater (first' : Trap) (h : first'.point = first.point) :
        ∀ trap ∈ first' :: (spring point traps).2, ∃ trap' ∈ first :: traps, trap.point = trap'.point := by
      intro trap htrap
      rcases List.mem_cons.1 htrap with rfl | htrap
      · exact ⟨first, List.mem_cons_self, h⟩
      · obtain ⟨trap', htrap', hpoint⟩ := hleft trap htrap
        exact ⟨trap', List.mem_cons_of_mem _ htrap', hpoint⟩
    rw [spring]
    split
    · next hpoint =>
      split
      · refine ⟨fun trap htrap => ?_, fun trap htrap => ⟨trap, List.mem_cons_of_mem _ htrap, rfl⟩⟩
        cases htrap
        exact hpoint
      · exact ⟨hsprung, hlater _ rfl⟩
    · exact ⟨hsprung, hlater first rfl⟩

namespace Script

/-- No trap waits for a call outside the frames of a run. -/
def Unhindered (t : Script τ) : Prop := ∀ trap ∈ t.traps, trap.point ≠ .cursor ∧ trap.point ≠ .colors

/-- The traps that have sprung after the `old` ones have decided nothing. -/
structure Undecided (old : List Trap) (t : Script τ) : Prop where
  unhindered : t.Unhindered
  sprung : ∃ passed, t.sprung = passed ++ old ∧ ∀ trap ∈ passed, ¬ trap.decides

/-- The latest trap that has sprung after the `old` ones is the first to decide, with the fault `e`. -/
structure Decided (old : List Trap) (e : Fault) (t : Script τ) : Prop where
  unhindered : t.Unhindered
  sprung : ∃ trap passed, t.sprung = trap :: passed ++ old ∧ trap.decides ∧ trap.fault = e ∧
    ∀ trap ∈ passed, ¬ trap.decides

variable {old : List Trap} {t : Script τ}

/-- A call may spring a trap that waits for it, and the trap decides or not. -/
theorem Undecided.meet (h : t.Undecided old) (point : Point) :
    Ends (fun _ => Undecided old) (fun e t => ∃ trap : Trap, trap.point = point ∧ trap.fault = e ∧
      (¬ trap.decides ∧ t.Undecided old ∨ trap.decides ∧ t.Decided old e)) (meet point t) := by
  obtain ⟨hunhindered, passed, hsprung, hpassed⟩ := h
  obtain ⟨hpoint, hleft⟩ := Trap.spring_points point t.traps
  have hunhindered' : ∀ trap ∈ (Trap.spring point t.traps).2, trap.point ≠ .cursor ∧ trap.point ≠ .colors := by
    intro trap htrap
    obtain ⟨trap', htrap', hsame⟩ := hleft trap htrap
    rw [hsame]
    exact hunhindered trap' htrap'
  unfold Script.meet
  split
  · next trap traps heq =>
    rw [heq] at hpoint hunhindered'
    refine ⟨trap, hpoint trap rfl, rfl, ?_⟩
    by_cases hdecides : trap.decides
    · exact .inr ⟨hdecides, hunhindered', trap, passed, by rw [hsprung]; rfl, hdecides, rfl, hpassed⟩
    · refine .inl ⟨hdecides, hunhindered', trap :: passed, by rw [hsprung]; rfl, fun trap' htrap' => ?_⟩
      rcases List.mem_cons.1 htrap' with rfl | htrap'
      · exact hdecides
      · exact hpassed trap' htrap'
  · next traps heq =>
    rw [heq] at hunhindered'
    exact ⟨hunhindered', passed, hsprung, hpassed⟩

/-- A trap at a write decides unless it is a refusal. -/
theorem Undecided.meet_put (h : t.Undecided old) :
    Ends (fun _ => Undecided old) (fun e t => (∃ details, e = .terminal details) ∧ t.Undecided old ∨
      (∀ details, e ≠ .terminal details) ∧ t.Decided old e) (Script.meet .put t) := by
  refine (h.meet .put).mono (fun _ _ ht => ht) ?_
  rintro e t ⟨trap, hpoint, rfl, ⟨hpasses, ht⟩ | ⟨hdecides, ht⟩⟩
  · exact .inl ⟨(Trap.not_decides_iff.1 hpasses).2, ht⟩
  · refine .inr ⟨fun details hdetails => ?_, ht⟩
    exact Trap.not_decides_iff.2 ⟨hpoint, details, hdetails⟩ hdecides

theorem Undecided.meet_other (h : t.Undecided old) {point : Point} (hpoint : point ≠ .put) :
    Ends (fun _ => Undecided old) (Decided old) (Script.meet point t) := by
  refine (h.meet point).mono (fun _ _ ht => ht) ?_
  rintro e t ⟨trap, rfl, -, ⟨hpasses, -⟩ | ⟨-, ht⟩⟩
  · exact absurd (Trap.not_decides_iff.1 hpasses).1 hpoint
  · exact ht

theorem takeKey_elsewhere (t : Script τ) :
    ∃ keys sizes width height, t.takeKey.2 = { t with keys, sizes, width, height } := by
  unfold takeKey
  split
  · exact ⟨_, _, _, _, rfl⟩
  · exact ⟨_, _, _, _, rfl⟩
  · split <;> exact ⟨_, _, _, _, rfl⟩

theorem Undecided.poll (h : t.Undecided old) : Ends (fun _ => Undecided old) (Decided old) (poll t) := by
  refine (h.meet_other (by decide)).bind fun _ t ht => ?_
  obtain ⟨keys, sizes, width, height, htake⟩ := t.takeKey_elsewhere
  change t.takeKey.2.Undecided old
  rw [htake]
  exact ⟨ht.unhindered, ht.sprung⟩

variable [Time τ]

theorem Undecided.refresh (h : t.Undecided old) : Ends (fun _ => Undecided old) (Decided old) (refresh t) :=
  (h.meet_other (by decide)).bind fun _ _ ht => ⟨ht.unhindered, ht.sprung⟩

theorem Undecided.sleep (h : t.Undecided old) (d : τ) :
    Ends (fun _ => Undecided old) (Decided old) (sleep d t) := by
  have hslept : ({ t with sleepLog := d :: t.sleepLog } : Script τ).Undecided old := ⟨h.unhindered, h.sprung⟩
  rw [Script.sleep, modify_bind]
  exact (hslept.meet_other (by decide)).bind fun _ _ ht => ⟨ht.unhindered, ht.sprung⟩

end Script

/-! ## Hidden cursors -/

def Call.IsCursor : Call → Prop
  | cursor _ => True
  | _ => False

/-- The cursor is hidden if it can be, and no call since has been about it. -/
structure Window.Hidden (found : Option Int) (log : List Call) (w : Window τ) : Prop where
  cursor : w.cursor = found.map fun _ => 0
  calls : ∃ calls, w.log = calls ++ log ∧ ∀ c ∈ calls, ¬ c.IsCursor

namespace Window

variable {found : Option Int} {log : List Call} {w : Window τ} {Q : Script τ → Prop} {E : Fault → Script τ → Prop}

theorem Hidden.note (h : w.Hidden found log) {c : Call} (hc : ¬ c.IsCursor) : (w.note c).Hidden found log := by
  obtain ⟨hcursor, calls, hlog, hcalls⟩ := h
  refine ⟨hcursor, c :: calls, congrArg (c :: ·) hlog, fun c' hc' => ?_⟩
  rcases List.mem_cons.1 hc' with rfl | hc'
  · exact hc
  · exact hcalls c' hc'

theorem Hidden.inScript {act : Act (Script τ) α} (h : w.Hidden found log)
    (hact : Ends (fun _ => Q) E (act w.script)) :
    Ends (fun _ w => w.Hidden found log ∧ Q w.script) (fun e w => w.Hidden found log ∧ E e w.script)
      (inScript act w) :=
  ends_on.2 (hact.mono (fun _ _ ht => ⟨⟨h.cursor, h.calls⟩, ht⟩) fun _ _ he => ⟨⟨h.cursor, h.calls⟩, he⟩)

variable {old : List Trap}

/-- Whether a trap or the edge of the window refuses a write, it is passed over. -/
theorem Hidden.write (h : w.Hidden found log) (ht : w.script.Undecided old) (y x : Int) (text : String)
    (attributes : Nat) :
    Ends (fun _ w => w.Hidden found log ∧ w.script.Undecided old)
      (fun e w => (∃ details, e = .terminal details) ∧ w.Hidden found log ∧ w.script.Undecided old ∨
        (∀ details, e ≠ .terminal details) ∧ w.Hidden found log ∧ w.script.Decided old e)
      (write y x text attributes w) := by
  have hnoted := h.note (c := .write y x text attributes) id
  have hmeet : Ends (fun _ w => w.Hidden found log ∧ w.script.Undecided old)
      (fun e w => (∃ details, e = .terminal details) ∧ w.Hidden found log ∧ w.script.Undecided old ∨
        (∀ details, e ≠ .terminal details) ∧ w.Hidden found log ∧ w.script.Decided old e)
      (meet .put (w.note (.write y x text attributes))) := by
    refine (hnoted.inScript ht.meet_put).mono (fun _ _ hw => hw) ?_
    rintro e w ⟨hw, ⟨hrefusal, ht⟩ | ⟨hother, ht⟩⟩
    · exact .inl ⟨hrefusal, hw, ht⟩
    · exact .inr ⟨hother, hw, ht⟩
  rw [Window.write, modify_bind]
  refine hmeet.bind fun _ w hw => ?_
  rw [get_bind]
  split
  · exact .inl ⟨⟨_, rfl⟩, hw.1.note id, hw.2⟩
  · exact hw

theorem Hidden.refresh [Time τ] (h : w.Hidden found log) (ht : w.script.Undecided old) :
    Ends (fun _ w => w.Hidden found log ∧ w.script.Undecided old)
      (fun e w => w.Hidden found log ∧ w.script.Decided old e) (refresh w) :=
  (h.inScript ht.refresh).bind fun _ _ hw => ⟨hw.1.note id, hw.2⟩

theorem Unhindered.setCursor (h : w.Unhindered) (visibility : Int) :
    (setCursor visibility).tolerant w =
      .ok w.cursor { w with cursor := w.cursor.map fun _ => visibility, log := .cursor visibility :: w.log } := by
  obtain ⟨script, cursor, colors, corner, log⟩ := w
  cases cursor with
  | none =>
    have hrefused : setCursor visibility (⟨script, none, colors, corner, log⟩ : Window τ) =
        .error cursorRefused ⟨script, none, colors, corner, .cursor visibility :: log⟩ := rfl
    exact tolerant_of_refused hrefused
  | some before =>
    let noted : Window τ := ⟨script, some before, colors, corner, .cursor visibility :: log⟩
    have hmeet : meet .cursor noted = .ok () noted := meet_of_forall_ne fun trap htrap => (h trap htrap).1
    refine tolerant_of_ok ?_
    rw [Window.setCursor, modify_bind, get_bind]
    exact bind_of_ok hmeet

end Window

/-! ## Terminals that hold the cursor -/

namespace Terminal

/-- A terminal that has hidden the cursor and knows how it was, with colours to choose from. -/
structure Held (found : Option Int) (log : List Call) (t : Terminal τ) : Prop where
  remembers : t.cursor = found
  window : t.window.Hidden found log
  palette : t.palette ≠ []

variable {found : Option Int} {log : List Call} {old : List Trap} {t : Terminal τ}

theorem Held.inWindow {Q : Window τ → Prop} {E : Fault → Window τ → Prop} {act : Act (Window τ) α}
    (h : t.Held found log) (hact : Ends (fun _ w => w.Hidden found log ∧ Q w)
      (fun e w => w.Hidden found log ∧ E e w) (act t.window)) :
    Ends (fun _ t => t.Held found log ∧ Q t.window) (fun e t => t.Held found log ∧ E e t.window)
      (inWindow act t) :=
  ends_on.2 (hact.mono (fun _ _ hw => ⟨⟨h.remembers, hw.1, h.palette⟩, hw.2⟩)
    fun _ _ he => ⟨⟨h.remembers, he.1, h.palette⟩, he.2⟩)

theorem Held.write (h : t.Held found log) (ht : t.window.script.Undecided old) (x y : Int) (text : String)
    (color : Int) :
    Ends (fun _ t => t.Held found log ∧ t.window.script.Undecided old)
      (fun e t => t.Held found log ∧ t.window.script.Decided old e) (write x y text color t) := by
  obtain ⟨attributes, hattributes⟩ := exists_attributes h.palette color
  rw [Terminal.write, get_bind, hattributes]
  dsimp only
  rw [ends_discard, Terminal.inWindow, tolerant_on]
  exact h.inWindow (Q := fun w => w.script.Undecided old) (E := fun e w => w.script.Decided old e)
    (h.window.write ht y x text attributes).tolerant

/-- While the terminal holds the cursor, a run on it ends by the first trap that decides. -/
theorem held_enduring [Time τ] : Surface.Enduring
    (fun t : Terminal τ => t.Held found log ∧ t.window.script.Undecided old)
    fun e t => t.Held found log ∧ t.window.script.Decided old e where
  width t _ := roomy.width t trivial
  height t _ := roomy.height t trivial
  size _ h := h
  put _ m h := h.1.write h.2 m.x m.y m.glyph.toString m.color
  clear _ h := ⟨⟨h.1.remembers, h.1.window.note id, h.1.palette⟩, h.2⟩
  refresh _ h := h.1.inWindow (h.1.window.refresh h.2)
  poll _ h := h.1.inWindow (h.1.window.inScript h.2.poll)
  now _ h := h
  sleep _ d h := h.1.inWindow (h.1.window.inScript (h.2.sleep d))

/-- The terminal once it has put the cursor back. -/
def givenBack (t : Terminal τ) : Terminal τ :=
  { t with window := { t.window with cursor := t.cursor, log := t.cursor.toList.map Call.cursor ++ t.window.log } }

theorem changeCursor (h : t.window.Unhindered) (visibility : Int) :
    (inWindow (Window.setCursor visibility)).tolerant t = .ok t.window.cursor
      { t with window := { t.window with
        cursor := t.window.cursor.map fun _ => visibility, log := .cursor visibility :: t.window.log } } := by
  rw [inWindow, tolerant_on]
  exact on_of_ok (h.setCursor visibility)

theorem Held.restore (h : t.Held found log) (ht : t.window.Unhindered) : restore t = .ok () t.givenBack := by
  have hset := changeCursor ht
  obtain ⟨⟨script, shown, colors, corner, calls⟩, palette, bold, color, cursor⟩ := t
  obtain ⟨rfl, ⟨hshown, -⟩, -⟩ := h
  obtain rfl : shown = cursor.map fun _ => 0 := hshown
  rw [Terminal.restore, get_bind]
  cases cursor with
  | none => rfl
  | some visibility => exact bind_of_ok (f := fun _ => pure ()) (hset visibility)

/-! ## Setting up -/

theorem hideCursor_eq (h : t.window.Unhindered) :
    hideCursor t = .ok () (t.called [.cursor 0] t.window.script.traps t.window.script.sprung
      (t.window.cursor.map fun _ => 0) t.window.cursor) :=
  bind_of_ok (changeCursor h 0)

theorem registerPalette_eq (h : t.window.Unhindered) :
    registerPalette t = .ok () (t.noted ([.startColors, .defaultColors] ++ pairCalls t.palette)) := by
  have hmeet : Window.meet .colors (t.window.note .startColors) = .ok () (t.window.note .startColors) :=
    Window.meet_of_forall_ne fun trap htrap => (h trap htrap).2
  have hstart : inWindow Window.startColors t = .ok () (t.noted [.startColors]) := on_of_ok hmeet
  rw [registerPalette_of_start hstart]
  simp [noted, called]

theorem setupColors_eq (h : t.window.Unhindered) :
    setupColors t = .ok () { t.noted (colorCalls t.palette t.color t.window.colors) with
      color := t.color && t.window.colors } := by
  obtain ⟨window, palette, bold, color, cursor⟩ := t
  rw [setupColors, bind_of_ok (wantsColors_eq _)]
  cases hcolors : color && window.colors with
  | false =>
    change EStateM.Result.ok () _ = .ok () _
    simp [noted, called, colorCalls, hcolors]
  | true =>
    obtain ⟨rfl, -⟩ := Bool.and_eq_true_iff.1 hcolors
    let asked : Terminal τ := noted [.hasColors] ⟨window, palette, bold, true, cursor⟩
    refine (registerPalette_eq (t := asked) h).trans ?_
    simp [noted, called, colorCalls, hcolors, asked]

theorem setup_eq {window : Window τ} (h : window.Unhindered) (palette : List Int) (bold color : Bool) :
    let t : Terminal τ := ⟨window, palette, bold, color, none⟩
    setup t = .ok () { t.called (setupCalls palette color window.colors) window.script.traps window.script.sprung
      (window.cursor.map fun _ => 0) window.cursor with color := color && window.colors } := by
  intro t
  let ready : Terminal τ := t.called [.cursor 0, .immediate true, .keypad true] window.script.traps
    window.script.sprung (window.cursor.map fun _ => 0) window.cursor
  have hsetup : setup t = (setupColors >>= fun _ => note .clear) ready := bind_of_ok (hideCursor_eq (t := t) h)
  have hclear (t : Terminal τ) : note .clear t = .ok () (t.noted [.clear]) := rfl
  rw [hsetup, bind_of_ok (setupColors_eq (t := ready) h), hclear]
  simp [setupCalls, noted, called, ready, t]

end Terminal

/-! ## How an animation ends -/

section Animate

variable [RandomSource ρ] [Time τ]

/--
How an animation ends on a window that had `found` for its cursor, once `log` has been recorded and the `old` traps
have sprung: it goes on, or the cursor is put back, once a frame has stopped the run or a trap was the first to decide.
-/
inductive Concluded (found : Option Int) (log : List Call) (old : List Trap) (plan : Scene.Plan τ) (most : Nat)
    (first : Scene ρ (Terminal τ)) : EStateM.Result Fault (Window τ) (Option Nat) → Prop where
  | goesOn {t : Terminal τ} (undecided : t.window.script.Undecided old) (passes : first.Passes plan 0 most) :
      Concluded found log old plan most first (.ok none t.window)
  | stopped {t : Terminal τ} {ticks : Nat} (held : t.Held found log) (undecided : t.window.script.Undecided old)
      (within : ticks ≤ most) (least : IsLeast {k | first.StopsAt plan k} ticks) :
      Concluded found log old plan most first (.ok (some ticks) t.givenBack.window)
  | interrupted {t : Terminal τ} {ticks : Nat} {message : String} (held : t.Held found log)
      (decided : t.window.script.Decided old (.interrupt message)) :
      Concluded found log old plan most first (.ok (some ticks) t.givenBack.window)
  | failed {t : Terminal τ} {e : Fault} (held : t.Held found log) (loud : ∀ message, e ≠ .interrupt message)
      (decided : t.window.script.Decided old e) :
      Concluded found log old plan most first (.error e t.givenBack.window)

variable {S : Settings} {found : Option Int} {log : List Call} {old : List Trap} {plan : Scene.Plan τ} {most : Nat}
  {first : Scene ρ (Terminal τ)}

theorem Scene.close_eq {s : Scene ρ (Terminal τ)} (held : s.surface.Held found log)
    (h : s.surface.window.Unhindered) :
    close s = .ok () { s with running := false, surface := s.surface.givenBack } := by
  have hrestore : Surface.restore s.surface = .ok () s.surface.givenBack := held.restore h
  rw [close, stop, modify_bind]
  exact on_of_ok hrestore

theorem Scene.RunEnds.concluded : ∀ {r : EStateM.Result Fault (Scene ρ (Terminal τ)) (Option Nat)},
    RunEnds (fun s => s.Framed S ∧ s.surface.Held found log ∧ s.surface.window.script.Undecided old)
      (fun e s => s.surface.Held found log ∧ s.surface.window.script.Decided old e) plan most first r →
    Concluded found log old plan most first (match r with
      | .error e last => .error e last.surface.window
      | .ok ticks last => .ok ticks last.surface.window) := by
  intro r h
  cases h with
  | goesOn holds passes => exact .goesOn holds.2.2 passes
  | stopped holds within least =>
    obtain ⟨-, held, undecided⟩ := holds
    rw [bind_of_ok (close_eq held undecided.unhindered)]
    exact .stopped held undecided within least
  | interrupted holds =>
    obtain ⟨held, decided⟩ := holds
    rw [bind_of_ok (close_eq held decided.unhindered)]
    exact .interrupted held decided
  | failed loud holds =>
    obtain ⟨held, decided⟩ := holds
    rw [bind_of_ok (close_eq held decided.unhindered)]
    exact .failed held loud decided

variable {window : Window τ} {palette : List Int}

/-- An animation with a source to draw from runs until it is stopped, or until a trap decides. -/
theorem animate_concluded (valid : S.Valid) (h : window.Unhindered) (hpalette : S.palette.numbers? = some palette)
    {pace : Pace τ} (hrate : (pace.rate == 0) = false) (g : ρ) (most : Nat) :
    ∃ first, Staged S (.ok g) window first ∧
      Concluded window.cursor ((setupCalls palette S.color window.colors).reverse ++ window.log)
        window.script.sprung (first.planned pace none) most (first.started pace)
        (animate S pace (.ok g) most window) := by
  let ready : Terminal τ :=
    { Terminal.called (setupCalls palette S.color window.colors) window.script.traps window.script.sprung
        (window.cursor.map fun _ => 0) window.cursor ⟨window, palette, S.bold, S.color, none⟩ with
      color := S.color && window.colors }
  have hsetup : Terminal.setup ⟨window, palette, S.bold, S.color, none⟩ = .ok () ready :=
    Terminal.setup_eq h palette S.bold S.color
  obtain ⟨tables, pipes, g', hcreate, hframed⟩ := Scene.create_eq valid g ready
    (Terminal.roomy.width ready trivial) (Terminal.roomy.height ready trivial)
  have hstaged : Staged S (.ok g) window _ := ⟨palette, ready, g, hpalette, hsetup, rfl, hcreate⟩
  have hnonempty : palette ≠ [] := by
    obtain ⟨numbers, hnumbers, hne⟩ := valid.numbers
    cases hpalette.symm.trans hnumbers
    exact hne
  have held : ready.Held window.cursor ((setupCalls palette S.color window.colors).reverse ++ window.log) :=
    ⟨rfl, ⟨rfl, [], rfl, by simp⟩, hnonempty⟩
  have undecided : ready.window.script.Undecided window.script.sprung := ⟨h, [], rfl, by simp⟩
  refine ⟨_, hstaged, ?_⟩
  rw [hstaged.animate_eq]
  exact (Terminal.held_enduring.scene.run ⟨hframed, held, undecided⟩ hrate none most).concluded

/-- Without a source to draw from an animation ends as soon as the terminal is set up, and the cursor stays hidden. -/
theorem animate_sourceless (h : window.Unhindered) (hpalette : S.palette.numbers? = some palette) (pace : Pace τ)
    (e : Fault) (most : Nat) :
    animate S pace (.error e : Except Fault ρ) most window = .error e { window with
      cursor := window.cursor.map fun _ => 0
      log := (setupCalls palette S.color window.colors).reverse ++ window.log } := by
  unfold animate
  simp only [hpalette, Terminal.setup_eq h palette S.bold S.color, Except.bind]
  rfl

end Animate

theorem Seed.source_of_ne_blank {seed : Seed} (h : seed ≠ .blank) (entropy : Int) :
    ∃ g, seed.source entropy = .ok g := by
  cases seed with
  | any => exact ⟨_, rfl⟩
  | number n => exact ⟨_, rfl⟩
  | blank => exact absurd rfl h

theorem animate_cases {s : Settings} (valid : s.Valid) {window : Window Float} (h : window.Unhindered) (entropy : Int)
    (most : Nat) :
    ∃ palette, let log := (setupCalls palette s.color window.colors).reverse ++ window.log
      (s.seed = .blank ∧ animate s s.pace (s.seed.source entropy) most window =
        .error (.blank .seed) { window with cursor := window.cursor.map fun _ => 0, log }) ∨
      (s.seed ≠ .blank ∧ ∃ first, Staged s (s.seed.source entropy) window first ∧
        Concluded window.cursor log window.script.sprung (first.planned s.pace none) most (first.started s.pace)
          (animate s s.pace (s.seed.source entropy) most window)) := by
  obtain ⟨palette, hpalette, -⟩ := valid.numbers
  have hrate : (s.pace.rate == 0) = false := Settings.beq_zero_of_isPositive ((Settings.valid_iff s).1 valid).2.1
  refine ⟨palette, ?_⟩
  by_cases hblank : s.seed = .blank
  · have hbroken := animate_sourceless (ρ := Twister) h hpalette s.pace (.blank .seed) most
    exact .inl ⟨hblank, hblank ▸ hbroken⟩
  · obtain ⟨g, hsource⟩ := Seed.source_of_ne_blank hblank entropy
    have hconcluded := animate_concluded valid h hpalette hrate g most
    exact .inr ⟨hblank, hsource ▸ hconcluded⟩

end Pipework
