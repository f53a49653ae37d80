import Pipework.Proofs.Performance
import Pipework.Proofs.Reading

/-!
# How the program ends

What ends the program is one of few things, looked for in this order: a command line that gives no settings, an output
that is no terminal, the first trap that decides while the terminal is taken over, a seed that was left blank, and
last the frame that stops the run. The exit status and the messages are settled by which it is (`Ends`). Nothing is
asked of the system around the program before the first two are past.
-/

set_option linter.unusedSectionVars false

namespace Pipework

open Act

/-! ## The first trap that decides -/

namespace Script

variable {τ : Type} {old : List Trap} {e : Fault} {t t' : Script τ}

theorem meet_ok_sprung {point : Point} (h : meet point t = .ok () t') : t'.sprung = t.sprung := by
  unfold meet at h
  split at h <;> cases h
  rfl

theorem Undecided.find? (h : t.Undecided old) :
    ∃ sprung : List Trap, t.sprung = sprung.reverse ++ old ∧ sprung.find? Trap.decides = none := by
  obtain ⟨-, passed, hsprung, hpassed⟩ := h
  refine ⟨passed.reverse, by rw [hsprung, List.reverse_reverse], ?_⟩
  rw [List.find?_eq_none]
  intro trap htrap
  exact hpassed trap (List.mem_reverse.1 htrap)

theorem Decided.find? (h : t.Decided old e) :
    ∃ (sprung : List Trap) (trap : Trap), t.sprung = sprung.reverse ++ old ∧
      sprung.find? Trap.decides = some trap ∧ trap.fault = e := by
  obtain ⟨-, trap, passed, hsprung, hdecides, hfault, hpassed⟩ := h
  refine ⟨passed.reverse ++ [trap], trap, by simp [hsprung], ?_, hfault⟩
  have hnone : passed.reverse.find? Trap.decides = none := by
    rw [List.find?_eq_none]
    intro trap' htrap'
    exact hpassed trap' (List.mem_reverse.1 htrap')
  rw [List.find?_append, hnone, Option.none_or, List.find?_cons_of_pos hdecides]

end Script

theorem CommandLine.valid_of_read {arguments : List String} {s : Settings} (h : read arguments = .ok s) :
    s.Valid := by
  unfold read at h
  split at h
  · cases h
  · obtain ⟨d, -, hfinish⟩ := bind_eq_ok_iff.1 h
    unfold Draft.finish at hfinish
    split at hfinish
    · cases hstop : d.form.stop? with
      | none =>
        rw [finish_of_stop?_eq_none hstop] at hfinish
        cases hfinish
        exact Form.valid_of_stop?_eq_none hstop
      | some stop =>
        rw [finish_of_stop? hstop] at hfinish
        cases hfinish
    · cases hfinish

namespace Program

/-! ## Reports -/

/-- The program has ended without asking anything of the system around it, and has left the window alone. -/
structure Report.Untouched {τ : Type} (window : Window τ) (r : Report τ) : Prop where
  requests : r.requests = []
  window : r.window = window

/-- The program has ended by a fault of its animation. -/
def Report.EndedBy {τ : Type} (r : Report τ) : Fault → Prop
  | .terminal details => r.ending = .returned 1 ∧ r.errors = terminalComplaint details
  | .interrupt _ => r.ending = .returned 0 ∧ r.errors = ""
  | .terminate => r.ending = .exited 0 ∧ r.errors = ""
  | e => r.ending = .failed e ∧ r.errors = ""

/-- The program has ended, or would go on, and no trap has decided which. -/
structure Report.EndedQuietly (s : Settings) (entropy : Int) (most : Nat) (window : Window Float) (r : Report Float) :
    Prop where
  errors : r.errors = ""
  blank : s.seed = .blank → r.ending = .failed (.blank .seed)
  /-- Either a frame stops the run, by a key or because the timeout has passed, or none does. -/
  runs : s.seed ≠ .blank → ∃ opened first, Window.meet .wrapper window = .ok () opened ∧
    Staged s (s.seed.source entropy) opened first ∧
    (r.ending = .returned 0 ∧ (∃ k ≤ most, (first.started s.pace).StopsAt (first.planned s.pace none) k) ∨
      r.ending = .unfinished ∧ (first.started s.pace).Passes (first.planned s.pace none) 0 most)

/-- The program has taken the terminal over, and ended by the first trap that decided, if one did. -/
structure Report.Performed (s : Settings) (entropy : Int) (most : Nat) (window : Window Float) (r : Report Float) :
    Prop where
  requests : r.requests = [.onTerminate, .takeTerminal]
  output : r.output = ""
  ending : ∃ sprung : List Trap, r.window.script.sprung = sprung.reverse ++ window.script.sprung ∧
    match sprung.find? Trap.decides with
    | some trap => r.EndedBy trap.fault
    | none => r.EndedQuietly s entropy most window

/-- How the program ends, given its arguments, whether its output is a terminal, and the window it would get. -/
structure Report.Ends (arguments : List String) (isTerminal : Bool) (entropy : Int) (most : Nat)
    (window : Window Float) (r : Report Float) : Prop where
  exits : ∀ exit, CommandLine.Exits arguments exit →
    r.ending = .exited exit.status ∧ r.output = exit.output ∧ r.errors = exit.errors ∧ r.Untouched window
  fails : ∀ fault, CommandLine.Fails arguments fault →
    r.ending = .failed fault ∧ r.output = "" ∧ r.errors = "" ∧ r.Untouched window
  refuses : ∀ s, CommandLine.read arguments = .ok s → isTerminal = false →
    r.ending = .returned 1 ∧ r.output = "" ∧ r.errors = needsTerminal ∧ r.Untouched window
  performs : ∀ s, CommandLine.read arguments = .ok s → isTerminal = true → r.Performed s entropy most window

/-- What the program makes of the way in which its animation ended. -/
def reported : EStateM.Result Fault (Window Float) (Option Nat) → Report Float
  | .ok ticks window =>
    { ending := (ending (.ok ticks)).1, errors := (ending (.ok ticks)).2
      requests := [.onTerminate, .takeTerminal], window }
  | .error e window =>
    { ending := (ending (.error e)).1, errors := (ending (.error e)).2
      requests := [.onTerminate, .takeTerminal], window }

theorem reported_endedBy (e : Fault) (window : Window Float) : (reported (.error e window)).EndedBy e := by
  cases e <;> exact ⟨rfl, rfl⟩

variable {s : Settings} {entropy : Int} {most : Nat} {window : Window Float}

theorem run_of_read {arguments : List String} (h : CommandLine.read arguments = .ok s) :
    run arguments true entropy most window = reported ((do
      Window.meet .wrapper
      animate s s.pace (s.seed.source entropy) most : Act (Window Float) (Option Nat)) window) := by
  unfold run
  simp only [h, Bool.not_true, Bool.false_eq_true, if_false]
  generalize ((do
      Window.meet .wrapper
      animate s s.pace (s.seed.source entropy) most : Act (Window Float) (Option Nat)) window) = r
  cases r <;> rfl

/-! ## Performances -/

section Performances

variable {r : EStateM.Result Fault (Window Float) (Option Nat)}

theorem reported_performed {sprung : List Trap}
    (hsprung : (left r).script.sprung = sprung.reverse ++ window.script.sprung)
    (hends : match sprung.find? Trap.decides with
      | some trap => (reported r).EndedBy trap.fault
      | none => (reported r).EndedQuietly s entropy most window) :
    (reported r).Performed s entropy most window := by
  cases r <;> exact ⟨rfl, rfl, sprung, hsprung, hends⟩

theorem performed_of_decided {e : Fault} (h : (left r).script.Decided window.script.sprung e)
    (hends : (reported r).EndedBy e) : (reported r).Performed s entropy most window := by
  obtain ⟨sprung, trap, hsprung, hfirst, rfl⟩ := h.find?
  refine reported_performed hsprung ?_
  rw [hfirst]
  exact hends

theorem performed_of_undecided (h : (left r).script.Undecided window.script.sprung)
    (hends : (reported r).EndedQuietly s entropy most window) : (reported r).Performed s entropy most window := by
  obtain ⟨sprung, hsprung, hnone⟩ := h.find?
  refine reported_performed hsprung ?_
  rw [hnone]
  exact hends

theorem performed_of_concluded {found : Option Int} {log : List Call} {opened : Window Float}
    {first : Scene Twister (Terminal Float)} (hseed : s.seed ≠ .blank)
    (hopened : Window.meet .wrapper window = .ok () opened)
    (hstaged : Staged s (s.seed.source entropy) opened first)
    (h : Concluded found log window.script.sprung (first.planned s.pace none) most (first.started s.pace) r) :
    (reported r).Performed s entropy most window := by
  cases h with
  | goesOn undecided passes =>
    refine performed_of_undecided undecided ⟨rfl, fun hblank => absurd hblank hseed, fun _ => ?_⟩
    exact ⟨opened, first, hopened, hstaged, .inr ⟨rfl, passes⟩⟩
  | @stopped t ticks held undecided within least =>
    have hscript : (left (.ok (some ticks) t.givenBack.window : EStateM.Result Fault _ _)).script.Undecided
        window.script.sprung := undecided
    refine performed_of_undecided hscript ⟨rfl, fun hblank => absurd hblank hseed, fun _ => ?_⟩
    exact ⟨opened, first, hopened, hstaged, .inl ⟨rfl, ticks, within, least.1⟩⟩
  | @interrupted t ticks message held decided =>
    have hscript : (left (.ok (some ticks) t.givenBack.window : EStateM.Result Fault _ _)).script.Decided
        window.script.sprung (.interrupt message) := decided
    exact performed_of_decided hscript ⟨rfl, rfl⟩
  | @failed t e held loud decided =>
    have hscript : (left (.error e t.givenBack.window : EStateM.Result Fault _ (Option Nat))).script.Decided
        window.script.sprung e := decided
    exact performed_of_decided hscript (reported_endedBy e _)

end Performances

theorem meet_wrapper_cases (h : window.Unhindered) :
    (∃ opened : Window Float, Window.meet .wrapper window = .ok () opened ∧ opened.Unhindered ∧
        opened.script.sprung = window.script.sprung) ∨
      ∃ e w, Window.meet .wrapper window = .error e w ∧ w.script.Decided window.script.sprung e := by
  have hundecided : window.script.Undecided window.script.sprung := ⟨h, [], rfl, by simp⟩
  have hmeet := hundecided.meet_other (show Point.wrapper ≠ .put by decide)
  cases hr : Script.meet .wrapper window.script with
  | ok _ script =>
    rw [hr] at hmeet
    have hopened : Window.meet .wrapper window = .ok () { window with script } := by
      rw [Window.meet, Window.inScript, on_of_ok hr]
    exact .inl ⟨_, hopened, hmeet.unhindered, Script.meet_ok_sprung hr⟩
  | error e script =>
    rw [hr] at hmeet
    have hbroken : Window.meet .wrapper window = .error e { window with script } := by
      rw [Window.meet, Window.inScript, on_of_error hr]
    exact .inr ⟨e, _, hbroken, hmeet⟩

theorem run_performed {arguments : List String} (h : window.Unhindered) (hread : CommandLine.read arguments = .ok s)
    (entropy : Int) (most : Nat) :
    (run arguments true entropy most window).Performed s entropy most window := by
  have valid := CommandLine.valid_of_read hread
  rw [run_of_read hread]
  obtain ⟨opened, hopened, hunhindered, hsprung⟩ | ⟨e, w, hbroken, hdecided⟩ := meet_wrapper_cases h
  · rw [bind_of_ok hopened]
    obtain ⟨palette, ⟨hblank, hbroken⟩ | ⟨hseed, first, hstaged, hconcluded⟩⟩ :=
      animate_cases valid hunhindered entropy most
    · rw [hbroken]
      refine performed_of_undecided ⟨hunhindered, [], hsprung, by simp⟩ ⟨rfl, fun _ => rfl, fun hne => ?_⟩
      exact absurd hblank hne
    · rw [hsprung] at hconcluded
      exact performed_of_concluded hseed hopened hstaged hconcluded
  · rw [bind_of_error hbroken]
    exact performed_of_decided hdecided (reported_endedBy e w)

/--
The program ends as its command line asks if that gives no settings, and with a complaint if its output is no
terminal, both before anything is asked of the system around it. Otherwise it ends by the first trap that decides, if
one does: one that waits for a write and refuses it does not.
-/
theorem run_ends (arguments : List String) (isTerminal : Bool) (entropy : Int) (most : Nat) {window : Window Float}
    (h : window.Unhindered) :
    (run arguments isTerminal entropy most window).Ends arguments isTerminal entropy most window where
  exits := by
    rintro exit ⟨stop, hread, hexit⟩
    have hrun : run arguments isTerminal entropy most window =
        { ending := .exited exit.status, output := exit.output, errors := exit.errors, window } := by
      simp only [run, hread, hexit]
    rw [hrun]
    exact ⟨rfl, rfl, rfl, rfl, rfl⟩
  fails := by
    rintro fault ⟨stop, hread, hexit⟩
    have hrun : run arguments isTerminal entropy most window = { ending := .failed fault, window } := by
      simp only [run, hread, hexit]
    rw [hrun]
    exact ⟨rfl, rfl, rfl, rfl, rfl⟩
  refuses := by
    rintro s hread rfl
    have hrun : run arguments false entropy most window =
        { ending := .returned 1, errors := needsTerminal, window } := by
      simp only [run, hread, Bool.not_false, if_true]
    rw [hrun]
    exact ⟨rfl, rfl, rfl, rfl, rfl⟩
  performs := by
    rintro s hread rfl
    exact run_performed h hread entropy most

/-- A write is refused, and a later sleep is interrupted. Without any traps a seed of two dashes breaks the program. -/
theorem run_ends_interrupted :
    let script : Script Float := {
      width := 4, height := 3, keys := [-1, 410, -1], sizes := [(2, 5)], time := 0, costs := fun _ => 1
      traps := [⟨.put, .terminal "put", 1⟩, ⟨.sleep, .interrupt "sleep", 2⟩] }
    let window : Window Float := { script, cursor := some 1, colors := true }
    let untrapped : Window Float := { window with script := { script with traps := [] } }
    window.Unhindered ∧ (run ["-p", "2"] true 7 10 window).Ends ["-p", "2"] true 7 10 window ∧
      untrapped.Unhindered ∧ (run ["--seed=--"] true 7 10 untrapped).ending = .failed (.blank .seed) := by
  intro script window untrapped
  have hunhindered : window.Unhindered := by simp [Window.Unhindered, window, script]
  have huntrapped : untrapped.Unhindered := by simp [Window.Unhindered, untrapped]
  refine ⟨hunhindered, run_ends ["-p", "2"] true 7 10 hunhindered, huntrapped, ?_⟩
  have hspelled : CommandLine.Spelled (["--seed=--"].map String.toList) [⟨.seed, some CommandLine.dashes⟩] :=
    .use (.nameEquals CommandLine.Opt.seed.begunBy_long) (.value rfl) .nil
  have hread := hspelled.read_eq
    (by simp [CommandLine.Request.Converts, CommandLine.Request.reads, CommandLine.Request.text?])
  obtain ⟨sprung, hsprung, hends⟩ := ((run_ends ["--seed=--"] true 7 10 huntrapped).performs _ hread rfl).ending
  have hnone : (run ["--seed=--"] true 7 10 untrapped).window.script.sprung = [] :=
    List.isEmpty_iff.1 (by decide +kernel)
  rw [hnone] at hsprung
  obtain rfl : sprung = [] := List.reverse_eq_nil_iff.1 (List.append_eq_nil_iff.1 hsprung.symm).1
  exact hends.blank rfl

end Program

end Pipework
