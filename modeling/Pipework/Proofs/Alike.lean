import Pipework.Proofs.Act

/-!
# Acts that end alike

`Alike Q R` compares the ends of two acts, each on a state of its own: both have results that go together by
`Q`, or both end in the same fault, and either way the states that they leave go together by `R`. The rules
follow the way acts are put together, as those for a single act do.
-/

namespace Pipework.Act

variable {σ σ' τ τ' α α' β β' : Type}

/-- Both acts have results with `Q`, or both end in one fault; they leave states with `R`. -/
def Alike (Q : α → α' → Prop) (R : σ → σ' → Prop) :
    EStateM.Result Fault σ α → EStateM.Result Fault σ' α' → Prop
  | .ok a s, .ok a' s' => Q a a' ∧ R s s'
  | .error e s, .error e' s' => e = e' ∧ R s s'
  | .ok .., .error .. => False
  | .error .., .ok .. => False

variable {Q : α → α' → Prop} {P : β → β' → Prop} {R : σ → σ' → Prop} {V : τ → τ' → Prop}
  {r : EStateM.Result Fault σ α} {r' : EStateM.Result Fault σ' α'} {s : σ} {s' : σ'}

theorem alike_self (r : EStateM.Result Fault σ α) : Alike Eq Eq r r := by
  cases r <;> exact ⟨rfl, rfl⟩

theorem alike_of_keeps {I : σ → Prop} {I' : σ' → Prop} (h : Keeps (fun _ => False) I r)
    (h' : Keeps (fun _ => False) I' r') : Alike (fun _ _ => True) (fun s s' => I s ∧ I' s') r r' := by
  obtain ⟨_, s, rfl, hs⟩ := h.exists_ok
  obtain ⟨_, s', rfl, hs'⟩ := h'.exists_ok
  exact ⟨trivial, hs, hs'⟩

theorem alike_diagonal {I : σ → Prop} {r : EStateM.Result Fault σ α} :
    Alike (fun _ _ => True) (fun s s' => s = s' ∧ I s) r r ↔ I (Act.left r) := by
  cases r <;> simp [Alike, Act.left]

theorem Alike.left (h : Alike Q R r r') : R (left r) (left r') := by
  cases r <;> cases r' <;> first | exact h.2 | exact h.elim

theorem Alike.mono {Q' : α → α' → Prop} {R' : σ → σ' → Prop} (h : Alike Q R r r') (hQ : ∀ a a', Q a a' → Q' a a')
    (hR : ∀ s s', R s s' → R' s s') : Alike Q' R' r r' := by
  cases r <;> cases r'
  · exact ⟨hQ _ _ h.1, hR _ _ h.2⟩
  · exact h.elim
  · exact h.elim
  · exact ⟨h.1, hR _ _ h.2⟩

theorem Alike.also {V : σ → σ' → Prop} (h : Alike Q R r r') (hV : V (Act.left r) (Act.left r')) :
    Alike Q (fun s s' => R s s' ∧ V s s') r r' := by
  cases r <;> cases r'
  · exact ⟨h.1, h.2, hV⟩
  · exact h.elim
  · exact h.elim
  · exact ⟨h.1, h.2, hV⟩

/-- More may be known between the acts than after them. -/
theorem Alike.bind_of {R' : σ → σ' → Prop} {act : Act σ α} {act' : Act σ' α'} {f : α → Act σ β} {f' : α' → Act σ' β'}
    (h : Alike Q R (act s) (act' s')) (hR : ∀ s s', R s s' → R' s s')
    (hf : ∀ a a' s s', Q a a' → R s s' → Alike P R' (f a s) (f' a' s')) :
    Alike P R' ((act >>= f) s) ((act' >>= f') s') := by
  cases hr : act s with
  | ok a t =>
    cases hr' : act' s' with
    | ok a' t' =>
      rw [hr, hr'] at h
      rw [bind_of_ok hr, bind_of_ok hr']
      exact hf a a' t t' h.1 h.2
    | error e t' =>
      rw [hr, hr'] at h
      exact h.elim
  | error e t =>
    cases hr' : act' s' with
    | ok a' t' =>
      rw [hr, hr'] at h
      exact h.elim
    | error e' t' =>
      rw [hr, hr'] at h
      rw [bind_of_error hr, bind_of_error hr']
      exact ⟨h.1, hR _ _ h.2⟩

theorem Alike.bind {act : Act σ α} {act' : Act σ' α'} {f : α → Act σ β} {f' : α' → Act σ' β'}
    (h : Alike Q R (act s) (act' s')) (hf : ∀ a a' s s', Q a a' → R s s' → Alike P R (f a s) (f' a' s')) :
    Alike P R ((act >>= f) s) ((act' >>= f') s') :=
  h.bind_of (fun _ _ h => h) hf

theorem Alike.on {part : σ → τ} {replace : σ → τ → σ} {part' : σ' → τ'} {replace' : σ' → τ' → σ'} {act : Act τ α}
    {act' : Act τ' α'} (h : Alike Q V (act (part s)) (act' (part' s')))
    (hR : ∀ t t', V t t' → R (replace s t) (replace' s' t')) :
    Alike Q R (Act.on part replace act s) (Act.on part' replace' act' s') := by
  unfold Act.on
  cases hr : act (part s) <;> cases hr' : act' (part' s') <;> rw [hr, hr'] at h
  · exact ⟨h.1, hR _ _ h.2⟩
  · exact h.elim
  · exact h.elim
  · exact ⟨h.1, hR _ _ h.2⟩

theorem Alike.tolerant {act : Act σ α} {act' : Act σ' α'} (h : Alike Q R (act s) (act' s')) :
    Alike (Option.Rel Q) R (act.tolerant s) (act'.tolerant s') := by
  unfold Act.tolerant
  cases hr : act s <;> cases hr' : act' s' <;> rw [hr, hr'] at h
  · exact ⟨.some h.1, h.2⟩
  · exact h.elim
  · exact h.elim
  · next e _ _ _ =>
    obtain ⟨rfl, hR⟩ := h
    cases e with
    | terminal details => exact ⟨.none, hR⟩
    | _ => exact ⟨rfl, hR⟩

theorem Alike.discard {act : Act σ α} {act' : Act σ' α'} (h : Alike Q R (act s) (act' s')) :
    Alike (fun _ _ => True) R (discard act s) (discard act' s') := by
  change Alike _ R (EStateM.map _ act s) (EStateM.map _ act' s')
  unfold EStateM.map
  cases hr : act s <;> cases hr' : act' s' <;> rw [hr, hr'] at h
  · exact ⟨trivial, h.2⟩
  · exact h.elim
  · exact h.elim
  · exact h

theorem Alike.forM {ι : Type} {f : ι → Act σ Unit} {f' : ι → Act σ' Unit} {l : List ι}
    (step : ∀ i ∈ l, ∀ s s', R s s' → Alike (fun _ _ => True) R (f i s) (f' i s')) (hs : R s s') :
    Alike (fun _ _ => True) R (l.forM f s) (l.forM f' s') := by
  induction l generalizing s s' with
  | nil => exact ⟨trivial, hs⟩
  | cons i l ih =>
    obtain ⟨hi, hl⟩ := List.forall_mem_cons.1 step
    exact (hi s s' hs).bind fun _ _ _ _ _ hs => ih hl hs

end Pipework.Act
