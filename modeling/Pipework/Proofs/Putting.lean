import Pipework.Proofs.Watched

/-!
# Puts and clears

What a log says of the canvas is which puts succeeded since the last clear. The steps of a tick ask for puts, each
after a clear if the limit is reached by then (`Putting`). So the puts of a tick are on the canvas, or have been wiped
as many at a time as the limit says (`Putting.sum`). A record that counts what is on the canvas goes on doing so,
whatever is noted in it (`Record.counted_kept`).
-/

namespace Pipework

/-! ## Logs -/

def Sight.cleared : Sight := ⟨.clear, none⟩

def Sight.isPut : Sight → Bool
  | ⟨.put _, _⟩ => true
  | _ => false

def Sight.isDrawn : Sight → Bool
  | ⟨.put _, none⟩ => true
  | _ => false

def Sight.isClear : Sight → Bool
  | ⟨.clear, _⟩ => true
  | _ => false

/-- The puts that succeeded since the last clear of a log, whose latest entry is the first. -/
def glyphsOn : List Sight → Nat
  | [] => 0
  | ⟨.put _, none⟩ :: log => glyphsOn log + 1
  | ⟨.clear, _⟩ :: _ => 0
  | _ :: log => glyphsOn log

def putsIn (log : List Sight) : Nat := log.countP Sight.isDrawn

def clearsIn (log : List Sight) : Nat := log.countP Sight.isClear

/-- The latest put that was asked for, whether or not it succeeded. -/
def latestPut (log : List Sight) : Option Sight := log.find? Sight.isPut

/-- No stretch between clears has more puts than the limit says. -/
def WithinLimit (limit : Int) (log : List Sight) : Prop := ∀ older, older <:+ log → (glyphsOn older : Int) ≤ limit

variable {limit : Int} {log old new : List Sight}

theorem WithinLimit.suffix {older : List Sight} (h : WithinLimit limit log) (hsuffix : older <:+ log) :
    WithinLimit limit older :=
  fun _ hsuffix' => h _ (hsuffix'.trans hsuffix)

theorem WithinLimit.cons (h : WithinLimit limit log) {v : Sight} (hv : (glyphsOn (v :: log) : Int) ≤ limit) :
    WithinLimit limit (v :: log) := by
  intro older hsuffix
  rcases List.suffix_cons_iff.1 hsuffix with rfl | hsuffix
  · exact hv
  · exact h older hsuffix

theorem glyphsOn_quiet {ask : Ask} (h : ask.IsQuiet) (fault : Option Fault) (log : List Sight) :
    glyphsOn (⟨ask, fault⟩ :: log) = glyphsOn log := by
  cases ask <;> first | rfl | exact h.elim

theorem cleared_suffix_of_put {mark : Mark} {fault : Option Fault} {older : List Sight}
    (h : .cleared :: older <:+ ⟨.put mark, fault⟩ :: log) : .cleared :: older <:+ log := by
  rcases List.suffix_cons_iff.1 h with heq | h
  · cases heq
  · exact h

section Quiet

variable {quiet : List Sight} (h : ∀ v ∈ quiet, v.ask.IsQuiet)

include h

theorem glyphsOn_append_of_quiet (log : List Sight) : glyphsOn (quiet ++ log) = glyphsOn log := by
  induction quiet with
  | nil => rfl
  | cons v quiet ih =>
    rw [List.cons_append, glyphsOn_quiet (h v List.mem_cons_self)]
    exact ih fun v hv => h v (List.mem_cons_of_mem _ hv)

theorem countP_append_of_quiet {p : Sight → Bool} (hp : ∀ ask fault, ask.IsQuiet → p ⟨ask, fault⟩ = false)
    (log : List Sight) : (quiet ++ log).countP p = log.countP p := by
  have hnone : quiet.countP p = 0 := List.countP_eq_zero.2 fun v hv => by simp [hp v.ask v.fault (h v hv)]
  rw [List.countP_append, hnone, Nat.zero_add]

theorem clearsIn_append_of_quiet (log : List Sight) : clearsIn (quiet ++ log) = clearsIn log := by
  refine countP_append_of_quiet h (fun ask fault hask => ?_) log
  cases ask <;> first | rfl | exact hask.elim

theorem putsIn_append_of_quiet (log : List Sight) : putsIn (quiet ++ log) = putsIn log := by
  refine countP_append_of_quiet h (fun ask fault hask => ?_) log
  cases ask <;> first | rfl | exact hask.elim

theorem latestPut_append_of_quiet (log : List Sight) : latestPut (quiet ++ log) = latestPut log := by
  have hputs : ∀ v ∈ quiet, ¬ v.isPut = true := by
    rintro ⟨ask, fault⟩ hv hput
    cases ask <;> first | exact (h _ hv).elim | exact absurd hput nofun
  rw [latestPut, List.find?_append, List.find?_eq_none.2 hputs, Option.none_or, latestPut]

theorem cleared_suffix_of_quiet {older : List Sight} (hsuffix : .cleared :: older <:+ quiet ++ log) :
    .cleared :: older <:+ log := by
  induction quiet with
  | nil => exact hsuffix
  | cons v quiet ih =>
    rcases List.suffix_cons_iff.1 hsuffix with heq | hsuffix
    · cases heq
      exact (h .cleared List.mem_cons_self).elim
    · exact ih (fun v hv => h v (List.mem_cons_of_mem _ hv)) hsuffix

end Quiet

@[simp] theorem glyphsOn_put (mark : Mark) (fault : Option Fault) (log : List Sight) :
    glyphsOn (⟨.put mark, fault⟩ :: log) = glyphsOn log + if fault.isNone then 1 else 0 := by
  cases fault <;> rfl

@[simp] theorem putsIn_put (mark : Mark) (fault : Option Fault) (log : List Sight) :
    putsIn (⟨.put mark, fault⟩ :: log) = putsIn log + if fault.isNone then 1 else 0 := by
  cases fault with
  | none => exact List.countP_cons_of_pos rfl
  | some e => exact List.countP_cons_of_neg nofun

@[simp] theorem clearsIn_put (mark : Mark) (fault : Option Fault) (log : List Sight) :
    clearsIn (⟨.put mark, fault⟩ :: log) = clearsIn log := by
  simp [clearsIn, Sight.isClear]

@[simp] theorem glyphsOn_cleared (log : List Sight) : glyphsOn (.cleared :: log) = 0 := rfl

@[simp] theorem putsIn_cleared (log : List Sight) : putsIn (.cleared :: log) = putsIn log := by
  simp [putsIn, Sight.isDrawn, Sight.cleared]

@[simp] theorem clearsIn_cleared (log : List Sight) : clearsIn (.cleared :: log) = clearsIn log + 1 :=
  List.countP_cons_of_pos rfl

/-! ## What the steps of a tick ask for -/

/-- Puts one after another, each right after a clear if the log `old` and they have reached the limit. -/
inductive Putting (limit : Int) (old : List Sight) : List Sight → Prop where
  | start : Putting limit old []
  | put {new : List Sight} (earlier : Putting limit old new) (room : ¬ (limit ≠ 0 ∧ limit ≤ glyphsOn (new ++ old)))
      (mark : Mark) (fault : Option Fault) : Putting limit old (⟨.put mark, fault⟩ :: new)
  | wipe {new : List Sight} (earlier : Putting limit old new) (full : limit ≠ 0 ∧ limit ≤ glyphsOn (new ++ old))
      (mark : Mark) (fault : Option Fault) : Putting limit old (⟨.put mark, fault⟩ :: .cleared :: new)

namespace Putting

theorem asks (h : Putting limit old new) : ∀ v ∈ new, v.isPut = true ∨ v = .cleared := by
  induction h with
  | start => simp
  | put earlier room mark fault ih => exact List.forall_mem_cons.2 ⟨.inl rfl, ih⟩
  | wipe earlier full mark fault ih =>
    exact List.forall_mem_cons.2 ⟨.inl rfl, List.forall_mem_cons.2 ⟨.inr rfl, ih⟩⟩

theorem latest (h : Putting limit old new) : new = [] ∨ ∃ mark fault older, new = ⟨.put mark, fault⟩ :: older := by
  cases h with
  | start => exact .inl rfl
  | put earlier room mark fault => exact .inr ⟨mark, fault, _, rfl⟩
  | wipe earlier full mark fault => exact .inr ⟨mark, fault, _, rfl⟩

theorem full_eq {older : List Sight} (hlimit : 0 ≤ limit) (within : 0 < limit → WithinLimit limit older)
    (hfull : limit ≠ 0 ∧ limit ≤ glyphsOn older) : 0 < limit ∧ (glyphsOn older : Int) = limit := by
  have hpos : 0 < limit := by omega
  have hle := within hpos older (List.suffix_refl _)
  omega

/-- Clears come after exactly as many puts as the limit says, and right before the next put. -/
theorem clears (h : Putting limit old new) (hlimit : 0 ≤ limit) (within : 0 < limit → WithinLimit limit (new ++ old))
    {older : List Sight} (hsuffix : .cleared :: older <:+ new) :
    0 < limit ∧ (glyphsOn (older ++ old) : Int) = limit ∧
      ∃ mark fault, ⟨.put mark, fault⟩ :: .cleared :: older <:+ new := by
  induction h with
  | start => simp at hsuffix
  | @put new earlier room mark fault ih =>
    have within' (hpos : 0 < limit) : WithinLimit limit (new ++ old) := (within hpos).suffix (List.suffix_cons _ _)
    obtain ⟨hpos, hglyphs, mark', fault', hput⟩ := ih within' (cleared_suffix_of_put hsuffix)
    exact ⟨hpos, hglyphs, mark', fault', hput.trans (List.suffix_cons _ _)⟩
  | @wipe new earlier full mark fault ih =>
    have hnew : new ++ old <:+ ⟨.put mark, fault⟩ :: .cleared :: new ++ old := ⟨[⟨.put mark, fault⟩, .cleared], rfl⟩
    have within' (hpos : 0 < limit) : WithinLimit limit (new ++ old) := (within hpos).suffix hnew
    rcases List.suffix_cons_iff.1 (cleared_suffix_of_put hsuffix) with heq | hsuffix
    · cases heq
      obtain ⟨hpos, hglyphs⟩ := full_eq hlimit within' full
      exact ⟨hpos, hglyphs, mark, fault, List.suffix_refl _⟩
    · obtain ⟨hpos, hglyphs, mark', fault', hput⟩ := ih within' hsuffix
      exact ⟨hpos, hglyphs, mark', fault', hput.trans ⟨[⟨.put mark, fault⟩, .cleared], rfl⟩⟩

/-- Each clear has wiped as many puts as the limit says. -/
theorem sum (h : Putting limit old new) (hpos : 0 < limit) (within : WithinLimit limit (new ++ old)) :
    (glyphsOn old : Int) + putsIn new = clearsIn new * limit + glyphsOn (new ++ old) := by
  induction h with
  | start => simp [putsIn, clearsIn]
  | put earlier room mark fault ih =>
    have hsum := ih (within.suffix (List.suffix_cons _ _))
    simp only [List.cons_append, glyphsOn_put, putsIn_put, clearsIn_put]
    push_cast
    omega
  | @wipe new earlier full mark fault ih =>
    have within' : WithinLimit limit (new ++ old) := within.suffix ⟨[⟨.put mark, fault⟩, .cleared], rfl⟩
    have hsum := ih within'
    obtain ⟨-, hglyphs⟩ := full_eq (Int.le_of_lt hpos) (fun _ => within') full
    simp only [List.cons_append, glyphsOn_put, putsIn_put, clearsIn_put, glyphsOn_cleared, putsIn_cleared,
      clearsIn_cleared]
    push_cast
    rw [Int.add_mul]
    omega

end Putting

/--
What was on the canvas and the puts in `new` are on it now, but for those that the clears in `new` have wiped, as many
as the limit says each. If the latest put succeeded it is on the canvas, or `new` has nothing to do with it.
-/
structure Balances (limit : Int) (old new : List Sight) : Prop where
  sum : (glyphsOn old : Int) + putsIn new = clearsIn new * limit + glyphsOn (new ++ old)
  latest : ∀ v, latestPut (new ++ old) = some v → v.fault = none →
    0 < glyphsOn (new ++ old) ∨ putsIn new = 0 ∧ latestPut old = some v ∧ glyphsOn (new ++ old) = glyphsOn old

theorem balances_nil (limit : Int) (old : List Sight) : Balances limit old [] where
  sum := by simp [putsIn, clearsIn]
  latest _ hv _ := .inr ⟨rfl, hv, rfl⟩

theorem Putting.balances (h : Putting limit old new) (hpos : 0 < limit) (within : WithinLimit limit (new ++ old)) :
    Balances limit old new where
  sum := h.sum hpos within
  latest v hv hdone := by
    rcases h.latest with rfl | ⟨mark, fault, older, rfl⟩
    · exact .inr ⟨rfl, hv, rfl⟩
    · cases hv
      obtain rfl : fault = none := hdone
      exact .inl (Nat.succ_pos _)

theorem Balances.quiet (h : Balances limit old new) {quiet : List Sight} (hquiet : ∀ v ∈ quiet, v.ask.IsQuiet) :
    Balances limit old (quiet ++ new) where
  sum := by
    rw [putsIn_append_of_quiet hquiet, clearsIn_append_of_quiet hquiet, List.append_assoc,
      glyphsOn_append_of_quiet hquiet]
    exact h.sum
  latest := by
    rw [putsIn_append_of_quiet hquiet, List.append_assoc, glyphsOn_append_of_quiet hquiet,
      latestPut_append_of_quiet hquiet]
    exact h.latest

/-! ## Records that count -/

namespace Record

/-- A record counts what is on the canvas, which is never more than the limit says. -/
structure Counted (limit : Int) (r : Record) : Prop where
  drawn : r.drawn = glyphsOn r.log
  within : 0 < limit → WithinLimit limit r.log

variable {r : Record}

theorem Counted.note (h : r.Counted limit) {v : Sight} (hv : glyphsOn (v :: r.log) = glyphsOn r.log) :
    (r.note v).Counted limit where
  drawn := h.drawn.trans hv.symm
  within hpos := by
    apply (h.within hpos).cons
    rw [hv]
    exact h.within hpos r.log (List.suffix_refl _)

theorem Counted.wiped (h : r.Counted limit) : r.wiped.Counted limit where
  drawn := rfl
  within hpos := (h.within hpos).cons (Int.le_of_lt hpos)

theorem Counted.withRoom (h : r.Counted limit) : (r.withRoom limit).Counted limit :=
  withRoom_of_wiped h h.wiped limit

theorem room_withRoom (r : Record) (hpos : 0 < limit) : ((r.withRoom limit).drawn : Int) < limit := by
  unfold withRoom
  split
  · exact hpos
  · omega

theorem Counted.drew (h : r.Counted limit) (mark : Mark) : ((r.withRoom limit).drew mark).Counted limit where
  drawn := congrArg (· + 1) h.withRoom.drawn
  within hpos := by
    apply (h.withRoom.within hpos).cons
    have hroom := r.room_withRoom hpos
    rw [h.withRoom.drawn] at hroom
    simp only [glyphsOn_put, Option.isNone_none, if_true]
    omega

theorem Counted.missed (h : r.Counted limit) (mark : Mark) (e : Fault) :
    ((r.withRoom limit).note ⟨.put mark, some e⟩).Counted limit :=
  h.withRoom.note (by simp)

theorem Counted.resized (h : r.Counted limit) (width height : Int) : (r.resized width height).Counted limit where
  drawn := rfl
  within hpos := by
    have hread : WithinLimit limit (⟨.size width height, none⟩ :: r.log) :=
      (h.within hpos).cons (h.within hpos r.log (List.suffix_refl _))
    exact hread.cons (Int.le_of_lt hpos)

theorem counted_start (width height : Int) : (start width height).Counted limit where
  drawn := rfl
  within hpos := by
    intro older hsuffix
    rcases List.suffix_cons_iff.1 hsuffix with rfl | hsuffix
    · exact Int.le_of_lt hpos
    · obtain rfl := List.suffix_nil.1 hsuffix
      exact Int.le_of_lt hpos

theorem counted_kept (limit : Int) : Kept limit (Counted limit) where
  quiet r _ fault hask h := h.note (glyphsOn_quiet hask fault r.log)
  drew _ mark _ h := h.drew mark
  missed _ mark e _ h := h.missed mark e
  resized _ width height h := h.resized width height

end Record

end Pipework
