import Mathlib.Algebra.Ring.Nat
import Mathlib.Data.List.DropRight
import Pipework.Proofs.Chronicle
import Pipework.Proofs.Putting
import Pipework.Random.Scripted

/-!
# The character budget

What each task asks of a surface is settled by the task alone (`Chapter.KeepsBudget`). A tick asks for puts, for a
clear right before each put for which the limit leaves no room, and at last for a refresh; a resize asks for the size
and for a clear, a reset by itself for a clear, and any other task for neither puts nor clears. So along a chronicle a
scene counts the puts since the last clear, its resets are the clears of ticks and resets, and the puts since the last
resize fix both (`stays_within_budget`).
-/

set_option linter.unusedSectionVars false

namespace Pipework

open Act

/-! ## Ticks -/

namespace Scene

variable {ρ σ τ : Type} [RandomSource ρ] [Surface σ] [Clock σ τ] {S : Settings} {I : σ → Prop}
  {s s' t : Scene ρ (WatchedSurface σ)}

/--
The tick from `s` comes to a step before which the limit is reached, when `older` has been asked for. There it resets
the canvas, which asks for a clear.
-/
def ResetsAt (s : Scene ρ (WatchedSurface σ)) (older : List Sight) : Prop :=
  ∃ i t r, (List.range i).forM stepPipe s = .ok () t ∧ t.surface.log = older ++ s.surface.log ∧ t.isFull = true ∧
    reset t = .ok () r ∧ r.surface.log = .cleared :: t.surface.log

/-- The tick from `s` has come to `t`, still without a refresh, and has asked for `new`. -/
structure Begun (S : Settings) (s : Scene ρ (WatchedSurface σ)) (new : List Sight) (t : Scene ρ (WatchedSurface σ)) :
    Prop where
  framed : t.Framed S
  counted : t.record.Counted S.limit
  log : t.surface.log = new ++ s.surface.log
  putting : Putting S.limit s.surface.log new
  resets : t.resets = s.resets + clearsIn new
  byReset : ∀ older, .cleared :: older <:+ new → s.ResetsAt older

namespace Begun

variable {new : List Sight} {mark : Mark} {fault : Option Fault} {i : Nat}

theorem refl (hs : s.Framed S) (counted : s.record.Counted S.limit) : Begun S s [] s where
  framed := hs
  counted := counted
  log := rfl
  putting := .start
  resets := rfl
  byReset older hsuffix := by simp at hsuffix

theorem isFull_iff (h : Begun S s new t) :
    t.isFull = true ↔ S.limit ≠ 0 ∧ S.limit ≤ glyphsOn (new ++ s.surface.log) := by
  have hdrawn : t.drawn = glyphsOn t.surface.log := h.counted.drawn
  rw [← h.log, ← hdrawn, ← h.framed.settings]
  simp [isFull]

/-- A step asks for one put, after a clear if the limit is reached. Only resets are asked for clears. -/
theorem put (h : Begun S s new t) (hsteps : (List.range i).forM stepPipe s = .ok () t) (hs' : s'.Framed S)
    (counted : s'.record.Counted S.limit)
    (hlog : s'.record.log = ⟨.put mark, fault⟩ :: (t.record.withRoom S.limit).log)
    (hresets : s'.record.resets = (t.record.withRoom S.limit).resets) : ∃ new', Begun S s new' s' := by
  have hfull := h.isFull_iff
  rw [← record_withRoom h.framed] at hlog hresets
  unfold withRoom at hlog hresets
  split at hlog
  · next full =>
    rw [if_pos full] at hresets
    refine ⟨⟨.put mark, fault⟩ :: .cleared :: new, hs', counted, ?_, h.putting.wipe (hfull.1 full) mark fault, ?_, ?_⟩
    · exact hlog.trans (congrArg (⟨.put mark, fault⟩ :: .cleared :: ·) h.log)
    · rw [clearsIn_put, clearsIn_cleared, ← Nat.add_assoc, ← h.resets]
      exact hresets
    · intro older hsuffix
      rcases List.suffix_cons_iff.1 (cleared_suffix_of_put hsuffix) with heq | hsuffix
      · cases heq
        obtain ⟨pipes, g, hreset, -⟩ := reset_eq h.framed
        exact ⟨i, t, _, hsteps, h.log, full, hreset, rfl⟩
      · exact h.byReset older hsuffix
  · next full =>
    rw [if_neg full] at hresets
    refine ⟨⟨.put mark, fault⟩ :: new, hs', counted, ?_, h.putting.put (mt hfull.2 full) mark fault, ?_, ?_⟩
    · exact hlog.trans (congrArg (⟨.put mark, fault⟩ :: ·) h.log)
    · rw [clearsIn_put, ← h.resets]
      exact hresets
    · exact fun older hsuffix => h.byReset older (cleared_suffix_of_put hsuffix)

theorem stepPipe (h : Begun S s new t) (hsteps : (List.range i).forM stepPipe s = .ok () t) (hi : i < t.pipes.length) :
    Ends (fun _ t => ∃ new, Begun S s new t) (fun _ t => ∃ new, Begun S s new t) (Scene.stepPipe i t) := by
  obtain ⟨p, entering, pipes, g, hstep, hframed, -⟩ := stepPipe_eq h.framed hi
  have hroom : (t.withRoom.withPipes pipes g).record = t.record.withRoom S.limit := record_withRoom h.framed
  have hdrawn := draw_record (p.mark entering) (t.withRoom.withPipes pipes g)
  obtain ⟨drawn, hleft⟩ := left_draw (p.mark entering) (t.withRoom.withPipes pipes g)
  have hframed' : (left (Scene.stepPipe i t)).Framed S := by
    rw [hstep, hleft]
    exact hframed.elsewhere
  rw [← hstep, hroom] at hdrawn
  refine (hdrawn.and (ends_left.2 hframed')).mono (fun _ t' ht => ?_) fun e t' ht => ?_
  · have hcounted : t'.record.Counted S.limit := ht.1 ▸ h.counted.drew (p.mark entering)
    exact h.put hsteps ht.2 hcounted (congrArg Record.log ht.1) (congrArg Record.resets ht.1 :)
  · have hcounted : t'.record.Counted S.limit := ht.1 ▸ h.counted.missed (p.mark entering) e
    exact h.put hsteps ht.2 hcounted (congrArg Record.log ht.1) (congrArg Record.resets ht.1 :)

theorem steps (hs : s.Framed S) (counted : s.record.Counted S.limit) :
    Ends (fun _ t => ∃ new, Begun S s new t) (fun _ t => ∃ new, Begun S s new t)
      ((List.range s.pipes.length).forM Scene.stepPipe s) := by
  let Come (i : Nat) (t : Scene ρ (WatchedSurface σ)) : Prop :=
    (List.range i).forM Scene.stepPipe s = .ok () t ∧ ∃ new, Begun S s new t
  have hcome : Ends (fun _ => Come s.pipes.length) (fun _ t => ∃ new, Begun S s new t)
      ((List.range s.pipes.length).forM Scene.stepPipe s) := by
    refine Ends.forM_range (I := Come) (fun i hi t ht => ?_) ⟨rfl, [], .refl hs counted⟩
    obtain ⟨hsteps, new, hbegun⟩ := ht
    have hlength : t.pipes.length = s.pipes.length := hbegun.framed.length_pipes.trans hs.length_pipes.symm
    have hnext := hbegun.stepPipe hsteps (hlength ▸ hi)
    cases hstep : Scene.stepPipe i t with
    | ok _ t' =>
      rw [hstep] at hnext
      refine ⟨?_, hnext⟩
      rw [forM_stepPipe_succ, bind_of_ok hsteps, hstep]
    | error e t' =>
      rw [hstep] at hnext
      exact hnext
  exact hcome.mono (fun _ _ ht => ht.2) fun _ _ ht => ht

end Begun

/-- A tick that is not broken off before asks for a refresh at last. -/
theorem left_tick (hs : s.Framed S) (counted : s.record.Counted S.limit) :
    ∃ t new refreshes, Begun S s new t ∧ (∀ v ∈ refreshes, v.ask = .refresh) ∧
      (left (tick s)).surface.log = refreshes ++ new ++ s.surface.log ∧ (left (tick s)).resets = t.resets := by
  have hsteps := Begun.steps hs counted
  rw [tick, get_bind]
  cases hforM : (List.range s.pipes.length).forM stepPipe s with
  | ok _ t =>
    rw [hforM] at hsteps
    obtain ⟨new, hbegun⟩ := hsteps
    obtain ⟨inner, fault, hrefresh⟩ := WatchedSurface.left_watching .refresh Surface.refresh t.surface
    have hleft : left (onSurface Surface.refresh t) =
        { t with surface := ⟨inner, ⟨.refresh, fault⟩ :: t.surface.log⟩ } := hrefresh ▸ left_on
    rw [bind_of_ok hforM, hleft]
    exact ⟨t, new, [⟨.refresh, fault⟩], hbegun, by simp, congrArg (⟨.refresh, fault⟩ :: ·) hbegun.log, rfl⟩
  | error e t =>
    rw [hforM] at hsteps
    obtain ⟨new, hbegun⟩ := hsteps
    rw [bind_of_error hforM]
    exact ⟨t, new, [], hbegun, by simp, hbegun.log, rfl⟩

end Scene

/-! ## Chapters -/

open Scene

variable {ρ σ τ : Type} [RandomSource ρ] [Surface σ] [Clock σ τ] {S : Settings} {I : σ → Prop}

namespace Chapter

/-- What was asked for in a chapter, the latest first. -/
def asked (c : Chapter ρ (WatchedSurface σ)) : List Sight :=
  c.after.surface.log.take (c.after.surface.log.length - c.before.surface.log.length)

def puts (c : Chapter ρ (WatchedSurface σ)) : Nat := putsIn c.asked

/-- The clears in a chapter that count: all but that of a resize. -/
def resets (c : Chapter ρ (WatchedSurface σ)) : Nat := if c.task = .resize then 0 else clearsIn c.asked

/-- What a tick asks for. -/
structure Ticks (limit : Int) (c : Chapter ρ (WatchedSurface σ)) : Prop where
  asks : ∀ v ∈ c.asked, v.isPut = true ∨ v = .cleared ∨ v.ask = .refresh
  /-- A clear is that of a reset, after exactly as many puts as the limit says, and right before the next put. -/
  clears : ∀ older, .cleared :: older <:+ c.asked →
    0 < limit ∧ (glyphsOn (older ++ c.before.surface.log) : Int) = limit ∧
      (∃ mark fault, ⟨.put mark, fault⟩ :: .cleared :: older <:+ c.asked) ∧ c.before.ResetsAt older
  unlimited : limit = 0 → .cleared ∉ c.asked
  resets : c.after.resets = c.before.resets + clearsIn c.asked

/-- What a task asks for, and what it counts. -/
def KeepsBudget (limit : Int) (c : Chapter ρ (WatchedSurface σ)) : Prop :=
  c.after.surface.log = c.asked ++ c.before.surface.log ∧
    match c.task with
    | .tick => c.Ticks limit
    | .resize =>
      (∃ width height, c.asked = [.cleared, ⟨.size width height, none⟩]) ∧ c.after.drawn = 0 ∧
        c.after.resets = c.before.resets
    | .reset => c.asked = [.cleared] ∧ c.after.drawn = 0 ∧ c.after.resets = c.before.resets + 1
    | .other => (∀ v ∈ c.asked, v.ask.IsQuiet) ∧ c.after.drawn = c.before.drawn ∧ c.after.resets = c.before.resets

variable {limit : Int} {c : Chapter ρ (WatchedSurface σ)} {new refreshes : List Sight} {t : Scene ρ (WatchedSurface σ)}

theorem asked_eq (hlog : c.after.surface.log = new ++ c.before.surface.log) : c.asked = new := by
  rw [asked, hlog, List.length_append, Nat.add_sub_cancel]
  exact List.take_left

/-! ### Ticks -/

theorem ticks_of_begun (hlimit : 0 ≤ S.limit) (h : Begun S c.before new t)
    (hrefreshes : ∀ v ∈ refreshes, v.ask = .refresh) (hasked : c.asked = refreshes ++ new)
    (hresets : c.after.resets = t.resets) : c.Ticks S.limit := by
  have hquiet : ∀ v ∈ refreshes, v.ask.IsQuiet := fun v hv => (hrefreshes v hv).symm ▸ trivial
  have within (hpos : 0 < S.limit) : WithinLimit S.limit (new ++ c.before.surface.log) :=
    h.log ▸ h.counted.within hpos
  have hcleared (older : List Sight) (holder : .cleared :: older <:+ refreshes ++ new) :=
    cleared_suffix_of_quiet hquiet holder
  refine { asks := ?_, clears := ?_, unlimited := ?_, resets := ?_ }
  · intro v hv
    rcases List.mem_append.1 (hasked ▸ hv) with hv | hv
    · exact .inr (.inr (hrefreshes v hv))
    · exact (h.putting.asks v hv).imp_right .inl
  · intro older holder
    rw [hasked] at holder ⊢
    obtain ⟨hpos, hglyphs, mark, fault, hput⟩ := h.putting.clears hlimit within (hcleared older holder)
    exact ⟨hpos, hglyphs, ⟨mark, fault, hput.trans (List.suffix_append _ _)⟩, h.byReset older (hcleared older holder)⟩
  · intro hzero hv
    obtain ⟨newer, older, hsplit⟩ := List.append_of_mem hv
    have holder : .cleared :: older <:+ refreshes ++ new := hasked ▸ hsplit ▸ List.suffix_append _ _
    obtain ⟨hpos, -⟩ := h.putting.clears hlimit within (hcleared older holder)
    omega
  · rw [hresets, h.resets, hasked, clearsIn_append_of_quiet hquiet]

/-! ### Other tasks -/

theorem keepsBudget_of_quiet (new : List Sight) (htask : c.task = .other)
    (hlog : c.after.surface.log = new ++ c.before.surface.log) (hquiet : ∀ v ∈ new, v.ask.IsQuiet)
    (hdrawn : c.after.drawn = c.before.drawn) (hresets : c.after.resets = c.before.resets) : c.KeepsBudget limit := by
  have hasked := asked_eq hlog
  unfold KeepsBudget
  rw [htask, hasked]
  exact ⟨hlog, hquiet, hdrawn, hresets⟩

theorem keepsBudget_of_onSurface {α : Type} (ask : Ask) (hask : ask.IsQuiet) {act : Act σ α}
    {s : Scene ρ (WatchedSurface σ)} :
    KeepsBudget limit ⟨.other, s, left (onSurface (WatchedSurface.watching ask act) s)⟩ := by
  obtain ⟨inner, fault, hleft⟩ := WatchedSurface.left_watching ask act s.surface
  have hscene : left (onSurface (WatchedSurface.watching ask act) s) =
      { s with surface := ⟨inner, ⟨ask, fault⟩ :: s.surface.log⟩ } := hleft ▸ left_on
  rw [hscene]
  exact keepsBudget_of_quiet [⟨ask, fault⟩] rfl rfl (List.forall_mem_singleton.2 hask) rfl rfl

theorem keepsBudget_of_leads (room : Surface.Roomy (fun _ => True) I) (hlimit : 0 ≤ S.limit)
    {task : Task} {s s' : Scene ρ (WatchedSurface σ)} (hs : Recorded S I (Record.Counted S.limit) s)
    (leads : task.Leads s s') : KeepsBudget S.limit ⟨task, s, s'⟩ := by
  obtain ⟨hframed, ht, hcounted⟩ := hs
  cases leads with
  | tick =>
    obtain ⟨t, new, refreshes, hbegun, hrefreshes, hlog, hresets⟩ := left_tick hframed hcounted
    have hasked := asked_eq (c := ⟨.tick, s, left (tick s)⟩) hlog
    exact ⟨hasked ▸ hlog, ticks_of_begun hlimit hbegun hrefreshes hasked hresets⟩
  | resize =>
    obtain ⟨pipes, g, hresize, -⟩ := resize_eq hframed.toReady (room.width _ ht) (room.height _ ht)
    have hlog : (s.resized pipes g).surface.log =
      [.cleared, ⟨.size (s.resized pipes g).width (s.resized pipes g).height, none⟩] ++ s.surface.log := rfl
    have hasked := asked_eq (c := ⟨.resize, s, s.resized pipes g⟩) hlog
    rw [hresize]
    exact ⟨hasked ▸ hlog, ⟨_, _, hasked⟩, rfl, rfl⟩
  | reset =>
    obtain ⟨pipes, g, hreset, -⟩ := reset_eq hframed
    have hlog : (s.wiped.withPipes pipes g).surface.log = [.cleared] ++ s.surface.log := rfl
    have hasked := asked_eq (c := ⟨.reset, s, s.wiped.withPipes pipes g⟩) hlog
    rw [hreset]
    exact ⟨hasked ▸ hlog, hasked, rfl, rfl⟩
  | spawn =>
    obtain ⟨pipes, g, hspawn, -⟩ := spawn_eq hframed.toReady
    rw [hspawn]
    exact keepsBudget_of_quiet [] rfl rfl (by simp) rfl rfl
  | poll => exact keepsBudget_of_onSurface .poll trivial
  | now => exact keepsBudget_of_quiet [] rfl rfl (by simp) rfl rfl
  | running => exact keepsBudget_of_quiet [] rfl rfl (by simp) rfl rfl
  | sleep => exact keepsBudget_of_onSurface .sleep trivial
  | restore => exact keepsBudget_of_onSurface .restore trivial

theorem KeepsBudget.resets_eq (h : c.KeepsBudget limit) : c.after.resets = c.before.resets + c.resets := by
  obtain ⟨-, hadds⟩ := h
  unfold Chapter.resets
  cases htask : c.task with
  | tick =>
    rw [htask] at hadds
    exact hadds.resets
  | resize =>
    rw [htask] at hadds
    exact hadds.2.2
  | reset =>
    rw [htask] at hadds
    rw [hadds.1]
    exact hadds.2.2
  | other =>
    rw [htask] at hadds
    have hclears := clearsIn_append_of_quiet hadds.1 []
    rw [List.append_nil] at hclears
    rw [if_neg nofun, hclears]
    exact hadds.2.2

theorem balances_of_leads {task : Task} {s s' : Scene ρ (WatchedSurface σ)} (hpos : 0 < S.limit) (hs : s.Framed S)
    (counted : s.record.Counted S.limit) (leads : task.Leads s s') (hresize : task ≠ .resize) (hreset : task ≠ .reset)
    (kept : KeepsBudget S.limit ⟨task, s, s'⟩) : Balances S.limit s.surface.log (asked ⟨task, s, s'⟩) := by
  cases htask : task with
  | tick =>
    subst htask
    cases leads
    obtain ⟨t, new, refreshes, hbegun, hrefreshes, hlog, -⟩ := left_tick hs counted
    have within : WithinLimit S.limit (new ++ s.surface.log) := hbegun.log ▸ hbegun.counted.within hpos
    have hquiet : ∀ v ∈ refreshes, v.ask.IsQuiet := fun v hv => (hrefreshes v hv).symm ▸ trivial
    rw [asked_eq (c := ⟨.tick, s, left (tick s)⟩) hlog]
    exact (hbegun.putting.balances hpos within).quiet hquiet
  | resize => exact absurd htask hresize
  | reset => exact absurd htask hreset
  | other =>
    subst htask
    have hbalances := (balances_nil S.limit s.surface.log).quiet kept.2.1
    rw [List.append_nil] at hbalances
    exact hbalances

end Chapter

/-! ## Whole chronicles -/

def sinceResize (chapters : List (Chapter ρ (WatchedSurface σ))) : List (Chapter ρ (WatchedSurface σ)) :=
  chapters.rtakeWhile fun c => c.task ≠ .resize

def putsOver (chapters : List (Chapter ρ (WatchedSurface σ))) : Nat := (chapters.map Chapter.puts).sum

def resetsOver (chapters : List (Chapter ρ (WatchedSurface σ))) : Nat := (chapters.map Chapter.resets).sum

section Concat

variable (chapters : List (Chapter ρ (WatchedSurface σ))) (c : Chapter ρ (WatchedSurface σ))

theorem putsOver_concat : putsOver (chapters ++ [c]) = putsOver chapters + putsIn c.asked := by
  simp [putsOver, Chapter.puts]

theorem resetsOver_concat : resetsOver (chapters ++ [c]) = resetsOver chapters + c.resets := by
  simp [resetsOver]

theorem sinceResize_concat_of_eq (h : c.task = .resize) : sinceResize (chapters ++ [c]) = [] :=
  List.rtakeWhile_concat_neg _ _ _ (by simp [h])

theorem sinceResize_concat_of_ne (h : c.task ≠ .resize) :
    sinceResize (chapters ++ [c]) = sinceResize chapters ++ [c] :=
  List.rtakeWhile_concat_pos _ _ _ (by simp [h])

end Concat

namespace Scene

variable {chapters : List (Chapter ρ (WatchedSurface σ))} {c : Chapter ρ (WatchedSurface σ)} {limit : Int}
  {s s' : Scene ρ (WatchedSurface σ)}

/--
The puts in some chapters are those on the canvas and those that the resets have wiped, as many as the limit says each.
If the latest put succeeded then there is a glyph on the canvas.
-/
structure Settled (limit : Int) (chapters : List (Chapter ρ (WatchedSurface σ)))
    (s : Scene ρ (WatchedSurface σ)) : Prop where
  sum : (putsOver chapters : Int) = resetsOver chapters * limit + glyphsOn s.surface.log
  latest : ∀ v, latestPut s.surface.log = some v → v.fault = none → 0 < putsOver chapters → 0 < glyphsOn s.surface.log

namespace Settled

theorem start (h : glyphsOn s.surface.log = 0) : Settled limit [] s where
  sum := by simp [putsOver, resetsOver, h]
  latest _ _ _ hputs := absurd hputs (Nat.lt_irrefl 0)

theorem concat (h : Settled limit chapters c.before) (hresize : c.task ≠ .resize)
    (hlog : c.after.surface.log = c.asked ++ c.before.surface.log)
    (balances : Balances limit c.before.surface.log c.asked) :
    Settled limit (chapters ++ [c]) c.after where
  sum := by
    have hearlier := h.sum
    have hsum := balances.sum
    rw [putsOver_concat, resetsOver_concat, Chapter.resets, if_neg hresize, hlog]
    push_cast
    rw [Int.add_mul]
    omega
  latest v hv hdone hputs := by
    rw [putsOver_concat] at hputs
    rw [hlog] at hv ⊢
    rcases balances.latest v hv hdone with hglyphs | ⟨hnone, hv, hsame⟩
    · exact hglyphs
    · rw [hsame]
      exact h.latest v hv hdone (by omega)

theorem closedForm (h : Settled limit chapters s) (hpos : 0 < limit) (within : WithinLimit limit s.surface.log)
    {v : Sight} (hv : latestPut s.surface.log = some v) (hdone : v.fault = none) (hputs : 0 < putsOver chapters) :
    (glyphsOn s.surface.log : Int) = (putsOver chapters - 1) % limit + 1 ∧
      (resetsOver chapters : Int) = (putsOver chapters - 1) / limit := by
  have hsum := h.sum
  have hle := within _ (List.suffix_refl _)
  have hglyphs := h.latest v hv hdone hputs
  have hsplit : ((glyphsOn s.surface.log : Int) - 1) + limit * resetsOver chapters = putsOver chapters - 1 := by
    rw [hsum, Int.mul_comm]
    omega
  -- quotient and remainder are unique
  obtain ⟨hdiv, hmod⟩ := (Int.ediv_emod_unique hpos).2 ⟨hsplit, by omega, by omega⟩
  refine ⟨?_, hdiv.symm⟩
  rw [hmod]
  omega

end Settled

/-- A scene after a chronicle whose chapters keep to the budget. -/
structure Balanced (S : Settings) (I : σ → Prop) (chapters : List (Chapter ρ (WatchedSurface σ)))
    (s : Scene ρ (WatchedSurface σ)) : Prop where
  recorded : Recorded S I (Record.Counted S.limit) s
  kept : ∀ c ∈ chapters, c.KeepsBudget S.limit
  resets : s.resets = resetsOver chapters
  settled : 0 < S.limit → (∀ c ∈ sinceResize chapters, c.task ≠ .reset) → Settled S.limit (sinceResize chapters) s

theorem Balanced.concat (room : Surface.Roomy (fun _ => True) I) (hlimit : 0 ≤ S.limit)
    (h : Balanced S I chapters c.before) (leads : c.task.Leads c.before c.after) :
    Balanced S I (chapters ++ [c]) c.after := by
  have lasting : Lasting S (fun _ => True) (Recorded (ρ := ρ) S I (Record.Counted S.limit)) :=
    recorded_lasting room (Record.counted_kept S.limit)
  have hafter : Recorded S I (Record.Counted S.limit) c.after :=
    lasting.leads (fun s hs => ⟨hs.1.wiped, room.clear _ hs.2.1, hs.2.2.wiped⟩) leads h.recorded
  have hkept : c.KeepsBudget S.limit := Chapter.keepsBudget_of_leads room hlimit h.recorded leads
  have hresets : c.after.resets = resetsOver (chapters ++ [c]) := by
    rw [hkept.resets_eq, resetsOver_concat, h.resets]
  refine { recorded := hafter, resets := hresets, settled := fun hpos hnone => ?_,
           kept := List.forall_mem_append.2 ⟨h.kept, List.forall_mem_singleton.2 hkept⟩ }
  by_cases hresize : c.task = .resize
  · rw [sinceResize_concat_of_eq chapters c hresize]
    have hdrawn : c.after.drawn = 0 := by
      obtain ⟨-, hadds⟩ := hkept
      rw [hresize] at hadds
      exact hadds.2.1
    exact .start (hafter.2.2.drawn.symm.trans hdrawn)
  · rw [sinceResize_concat_of_ne chapters c hresize] at hnone ⊢
    obtain ⟨hearlier, hreset⟩ := List.forall_mem_append.1 hnone
    have hbalances := Chapter.balances_of_leads hpos h.recorded.1 h.recorded.2.2 leads hresize
      (hreset c List.mem_cons_self) hkept
    exact (h.settled hpos hearlier).concat hresize hkept.1 hbalances

theorem Chronicle.balanced {first : Scene ρ (WatchedSurface σ)} (h : first.Chronicle chapters s)
    (room : Surface.Roomy (fun _ => True) I) (hlimit : 0 ≤ S.limit) (start : Balanced S I [] first) :
    Balanced S I chapters s := by
  induction h with
  | start => exact start
  | concat earlier leads ih => exact ih.concat room hlimit leads

/-- A scene keeps to the limit, and counts what was asked for in the chapters that led to it. -/
structure WithinBudget (limit : Int) (chapters : List (Chapter ρ (WatchedSurface σ)))
    (s : Scene ρ (WatchedSurface σ)) : Prop where
  drawn : s.drawn = glyphsOn s.surface.log
  within : 0 < limit → WithinLimit limit s.surface.log
  resets : s.resets = resetsOver chapters
  /-- If the latest put succeeded, the puts since the last resize fix what is drawn, and how many resets there were. -/
  closedForm : 0 < limit → (∀ c ∈ sinceResize chapters, c.task ≠ .reset) → ∀ v, latestPut s.surface.log = some v →
    v.fault = none → 0 < putsOver (sinceResize chapters) →
      (s.drawn : Int) = (putsOver (sinceResize chapters) - 1) % limit + 1 ∧
        (resetsOver (sinceResize chapters) : Int) = (putsOver (sinceResize chapters) - 1) / limit

theorem Balanced.withinBudget (h : Balanced S I chapters s) : s.WithinBudget S.limit chapters where
  drawn := h.recorded.2.2.drawn
  within := h.recorded.2.2.within
  resets := h.resets
  closedForm hpos hnone v hv hdone hputs := by
    have hdrawn : s.drawn = glyphsOn s.surface.log := h.recorded.2.2.drawn
    rw [hdrawn]
    exact (h.settled hpos hnone).closedForm hpos (h.recorded.2.2.within hpos) hv hdone hputs

end Scene

/--
With valid settings and a roomy surface there is a scene to start with. Every chronicle that begins there ends with a
scene within the budget, and each of its chapters keeps to it; and whatever is done with the scene, a chronicle tells
it, with resets by themselves only if there are some among the deeds.
-/
theorem stays_within_budget [Time τ] (room : Surface.Roomy (fun _ => True) I) (valid : S.Valid) (source : ρ)
    {surface : σ} (h : I surface) :
    ∃ s : Scene ρ (WatchedSurface σ), create S source ⟨surface, []⟩ = .ok s ∧
      (∀ chapters s', s.Chronicle chapters s' →
        s'.WithinBudget S.limit chapters ∧ ∀ c ∈ chapters, c.KeepsBudget S.limit) ∧
      ∀ deeds : List (Deed τ), s.Recounts (.reset ∈ deeds) (s.after deeds) := by
  obtain ⟨tables, pipes, g, hcreate, hframed⟩ := create_eq valid source
    (⟨surface, []⟩ : WatchedSurface σ) (room.width surface h) (room.height surface h)
  refine ⟨_, hcreate, fun chapters s' hchronicle => ?_, fun deeds => (Recounts.refl _).after id⟩
  have hbalanced := hchronicle.balanced room valid.limit_nonneg {
    recorded := ⟨hframed, room.size surface h, Record.counted_start _ _⟩
    kept := by simp
    resets := rfl
    settled := fun _ _ => .start rfl }
  exact ⟨hbalanced.withinBudget, hbalanced.kept⟩

/-- Three pipes with a limit of two, so that ticks have several resets, on a surface that fails now and then. -/
theorem stays_within_budget_faulty :
    let S : Settings := { pipes := 3, limit := 2 }
    let script : Script Float := {
      width := 4, height := 3, keys := [410, -1, 113], sizes := [(2, 5)], time := 0, costs := fun _ => 1
      traps := [⟨.put, .failure "put", 4⟩, ⟨.refresh, .terminal "refresh", 2⟩] }
    let deeds : List (Deed Float) := [.tick, .tick, .run ⟨75, none⟩ (some 3) 10, .resize, .tick]
    S.Valid ∧ script.HasCells ∧ .reset ∉ deeds ∧
      ∃ s : Scene Scripted (WatchedSurface (Script Float)),
        create S (Scripted.ofLists [0, 0.75] [3, 1, 2]) ⟨script, []⟩ = .ok s ∧
          ∃ chapters, s.Chronicle chapters (s.after deeds) ∧ (s.after deeds).WithinBudget S.limit chapters ∧
            ∀ c ∈ chapters, c.KeepsBudget S.limit ∧ c.task ≠ .reset := by
  intro S script deeds
  have valid : S.Valid := by decide +kernel
  have hcells : script.HasCells := by simp [Script.HasCells, script]
  have hreset : .reset ∉ deeds := by simp [deeds]
  obtain ⟨s, hcreate, hbudget, hrecounts⟩ :=
    stays_within_budget Script.hasCells_roomy valid (Scripted.ofLists [0, 0.75] [3, 1, 2]) hcells
  obtain ⟨chapters, hchronicle, hresets⟩ := hrecounts deeds
  obtain ⟨hwithin, hkept⟩ := hbudget chapters _ hchronicle
  refine ⟨valid, hcells, hreset, s, hcreate, chapters, hchronicle, hwithin, fun c hc => ?_⟩
  exact ⟨hkept c hc, mt (hresets c hc) hreset⟩

end Pipework
