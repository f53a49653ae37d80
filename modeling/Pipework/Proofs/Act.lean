import Pipework.Act

/-!
# Reasoning about acts

`Ends Q E r` says of the end `r` of an act that a result satisfies `Q` and a fault satisfies `E`, each together
with the state that it leaves. Its rules follow the way acts are put together: one after another
(`ends_bind`), on a part of the state (`ends_on`), and for each entry of a list (`Ends.forM`), where what one
entry keeps the whole list keeps. `Keeps F P r` is the case of one property `P` for results and faults.
-/

namespace Pipework.Act

variable {σ τ α β : Type}

/-! ## Ends -/

/-- How an act may end: in a result with `Q`, or in a fault with `E`. -/
def Ends (Q : α → σ → Prop) (E : Fault → σ → Prop) : EStateM.Result Fault σ α → Prop
  | .ok a s => Q a s
  | .error e s => E e s

def left : EStateM.Result Fault σ α → σ
  | .ok _ s => s
  | .error _ s => s

variable {Q Q' : α → σ → Prop} {E E' : Fault → σ → Prop} {P : σ → Prop} {r : EStateM.Result Fault σ α} {s : σ}

theorem Ends.mono (h : Ends Q E r) (hQ : ∀ a s, Q a s → Q' a s) (hE : ∀ e s, E e s → E' e s) : Ends Q' E' r := by
  cases r with
  | ok a s => exact hQ a s h
  | error e s => exact hE e s h

theorem ends_left : Ends (fun _ => P) (fun _ => P) r ↔ P (left r) := by
  cases r <;> rfl

theorem left_on {part : σ → τ} {replace : σ → τ → σ} {act : Act τ α} :
    left (Act.on part replace act s) = replace s (left (act (part s))) := by
  unfold Act.on
  cases act (part s) <;> rfl

theorem left_tolerant {act : Act σ α} : left (act.tolerant s) = left (act s) := by
  unfold tolerant
  split <;> simp [*, left]

theorem left_discard {act : Act σ α} : left ((discard act : Act σ Unit) s) = left (act s) := by
  change left (EStateM.map _ act s) = _
  unfold EStateM.map
  cases act s <;> rfl

theorem Ends.exists_ok (h : Ends Q (fun _ _ => False) r) : ∃ a s, r = .ok a s ∧ Q a s := by
  cases r with
  | ok a s => exact ⟨a, s, rfl, h⟩
  | error e s => exact h.elim

theorem ends_of_ok (h : ∀ a s, r = .ok a s → Q a s) : Ends Q (fun _ _ => True) r := by
  cases r with
  | ok a s => exact h a s rfl
  | error e s => trivial

theorem Ends.and (h : Ends Q E r) (h' : Ends Q' E' r) :
    Ends (fun a s => Q a s ∧ Q' a s) (fun e s => E e s ∧ E' e s) r := by
  cases r with
  | ok a s => exact ⟨h, h'⟩
  | error e s => exact ⟨h, h'⟩

/-! ## Acts one after another -/

variable {act : Act σ α} {f : α → Act σ β} {R : β → σ → Prop}

theorem bind_of_ok {a : α} {s' : σ} (h : act s = .ok a s') : (act >>= f) s = f a s' := by
  change EStateM.bind act f s = _
  rw [EStateM.bind, h]

theorem bind_of_error {e : Fault} {s' : σ} (h : act s = .error e s') : (act >>= f) s = .error e s' := by
  change EStateM.bind act f s = _
  rw [EStateM.bind, h]

theorem get_bind {f : σ → Act σ β} : (get >>= f) s = f s s := rfl

theorem modify_bind {g : σ → σ} {f : PUnit → Act σ β} : (modify g >>= f) s = f ⟨⟩ (g s) := rfl

theorem ends_bind : Ends R E ((act >>= f) s) ↔ Ends (fun a s => Ends R E (f a s)) E (act s) := by
  cases h : act s with
  | ok a s' => rw [bind_of_ok h]; rfl
  | error e s' => rw [bind_of_error h]; rfl

theorem Ends.bind (h : Ends (fun _ => P) E (act s)) (hf : ∀ a s, P s → Ends R E (f a s)) :
    Ends R E ((act >>= f) s) :=
  ends_bind.2 (h.mono hf fun _ _ he => he)

theorem ends_on {part : σ → τ} {replace : σ → τ → σ} {act : Act τ α} :
    Ends Q E (Act.on part replace act s) ↔
      Ends (fun a t => Q a (replace s t)) (fun e t => E e (replace s t)) (act (part s)) := by
  unfold Act.on
  cases act (part s) <;> rfl

theorem on_of_ok {part : σ → τ} {replace : σ → τ → σ} {act : Act τ α} {a : α} {t : τ}
    (h : act (part s) = .ok a t) : Act.on part replace act s = .ok a (replace s t) := by
  rw [Act.on, h]

theorem on_of_error {part : σ → τ} {replace : σ → τ → σ} {act : Act τ α} {e : Fault} {t : τ}
    (h : act (part s) = .error e t) : Act.on part replace act s = .error e (replace s t) := by
  rw [Act.on, h]

theorem tolerant_of_ok {act : Act σ α} {a : α} {s' : σ} (h : act s = .ok a s') : act.tolerant s = .ok (some a) s' := by
  rw [tolerant, h]

theorem tolerant_of_refused {act : Act σ α} {details : String} {s' : σ} (h : act s = .error (.terminal details) s') :
    act.tolerant s = .ok none s' := by
  rw [tolerant, h]

theorem tolerant_of_error {act : Act σ α} {e : Fault} {s' : σ} (h : act s = .error e s')
    (he : ∀ details, e ≠ .terminal details) : act.tolerant s = .error e s' := by
  rw [tolerant, h]
  cases e with
  | terminal details => exact absurd rfl (he details)
  | _ => rfl

theorem tolerant_on {part : σ → τ} {replace : σ → τ → σ} {act : Act τ α} :
    (Act.on part replace act).tolerant s = Act.on part replace act.tolerant s := by
  cases hr : act (part s) with
  | ok a t => rw [tolerant_of_ok (on_of_ok hr), on_of_ok (tolerant_of_ok hr)]
  | error e t =>
    by_cases he : ∃ details, e = .terminal details
    · obtain ⟨details, rfl⟩ := he
      rw [tolerant_of_refused (on_of_error hr), on_of_ok (tolerant_of_refused hr)]
    · have he' (details : String) : e ≠ .terminal details := fun h => he ⟨details, h⟩
      rw [tolerant_of_error (on_of_error hr) he', on_of_error (tolerant_of_error hr he')]

/-! ## Acts that keep a property -/

/-- Whichever way the act ends, `P` holds, and only faults with `F` end it. -/
def Keeps (F : Fault → Prop) (P : σ → Prop) (r : EStateM.Result Fault σ α) : Prop :=
  Ends (fun _ => P) (fun e s => F e ∧ P s) r

variable {F : Fault → Prop}

theorem Keeps.left (h : Keeps F P r) : P (left r) :=
  ends_left.1 (Ends.mono h (fun _ _ hs => hs) fun _ _ he => he.2)

theorem keeps_of_left (h : P (left r)) : Keeps (fun _ => True) P r :=
  Ends.mono (ends_left.2 h) (fun _ _ hs => hs) fun _ _ hs => ⟨trivial, hs⟩

theorem Keeps.exists_ok (h : Keeps (fun _ => False) P r) : ∃ a s, r = .ok a s ∧ P s :=
  (Ends.mono h (fun _ _ hs => hs) fun _ _ he => he.1).exists_ok

theorem Keeps.also {P' : σ → Prop} (h : Keeps (fun _ => False) P r) (h' : Keeps F P' r) :
    Keeps (fun _ => False) (fun s => P s ∧ P' s) r :=
  (Ends.and h h').mono (fun _ _ hs => hs) fun _ _ he => he.1.1.elim

theorem Keeps.bind (h : Keeps F P (act s)) (hf : ∀ a s, P s → Keeps F P (f a s)) :
    Keeps F P ((act >>= f) s) :=
  Ends.bind h hf

/-- Where refusals are passed over, only other faults end the act. -/
theorem Ends.tolerant {act : Act σ α}
    (h : Ends (fun _ => P) (fun e s => (∃ details, e = .terminal details) ∧ P s ∨
      (∀ details, e ≠ .terminal details) ∧ E e s) (act s)) : Ends (fun _ => P) E (act.tolerant s) := by
  cases hr : act s with
  | ok a s' =>
    rw [hr] at h
    rw [tolerant_of_ok hr]
    exact h
  | error e s' =>
    rw [hr] at h
    obtain ⟨⟨details, rfl⟩, hs'⟩ | ⟨he, hs'⟩ := h
    · rw [tolerant_of_refused hr]
      exact hs'
    · rw [tolerant_of_error hr he]
      exact hs'

theorem ends_discard {act : Act σ α} : Ends (fun _ => P) E ((discard act : Act σ Unit) s) ↔ Ends (fun _ => P) E (act s) := by
  change Ends _ E (EStateM.map _ act s) ↔ _
  unfold EStateM.map
  cases act s <;> rfl

theorem keeps_discard : Keeps F P (discard act s) ↔ Keeps F P (act s) := ends_discard

theorem keeps_tolerant (h : Keeps (fun e => ∃ details, e = .terminal details) P (act s)) :
    Keeps (fun _ => False) P (act.tolerant s) :=
  Ends.tolerant (Ends.mono h (fun _ _ hs => hs) fun _ _ he => .inl he)

/-! ## Acts for each entry of a list -/

/-- What the act for an entry keeps, if it counts the entries done, the acts for all entries keep. -/
theorem Ends.forM_range {I : Nat → σ → Prop} {f : Nat → Act σ Unit} {n : Nat}
    (step : ∀ i < n, ∀ s, I i s → Ends (fun _ => I (i + 1)) E (f i s)) (start : I 0 s) :
    Ends (fun _ => I n) E ((List.range n).forM f s) := by
  -- the induction is on the entries left, so the range has to start anywhere
  suffices ∀ m k s, k + m = n → I k s → Ends (fun _ => I n) E ((List.range' k m).forM f s) by
    rw [List.range_eq_range']
    exact this n 0 s (Nat.zero_add n) start
  intro m
  induction m with
  | zero =>
    intro k s hk hs
    obtain rfl : k = n := hk
    exact hs
  | succ m ih =>
    intro k s hk hs
    rw [List.range'_succ]
    refine ends_bind.2 ((step k (by omega) s hs).mono (fun _ s' hs' => ?_) fun _ _ he => he)
    exact ih (k + 1) s' (by omega) hs'

theorem Ends.forM {I : σ → Prop} {f : Nat → Act σ Unit} {n : Nat}
    (step : ∀ i < n, ∀ s, I s → Ends (fun _ => I) E (f i s)) (start : I s) :
    Ends (fun _ => I) E ((List.range n).forM f s) :=
  Ends.forM_range (I := fun _ => I) step start

theorem Keeps.forM {ι : Type} {f : ι → Act σ Unit} {l : List ι} (step : ∀ i s, P s → Keeps F P (f i s)) (hs : P s) :
    Keeps F P (l.forM f s) := by
  induction l generalizing s with
  | nil => exact hs
  | cons i l ih => exact (step i s hs).bind fun _ s hs => ih hs

end Pipework.Act
