import Mathlib.Data.List.Infix
import Mathlib.Data.List.TakeWhile
import Pipework.CommandLine.Reader

/-!
# How options are spelled

A use of an option is spelled by its letter, or by any beginning of its long name that no other option shares, and
a text may be attached to it (`Use.SpelledBy`). It asks for one request, or for the requests of a group of letters
of which only the last may take a value (`Use.AsksFor`). The words of a command line are read in just this way
(`ofText_eq_use_iff`, `requests_eq_ok_iff`).
-/

namespace Pipework.CommandLine

/-- The option is the only one whose long name begins so. -/
def Opt.BegunBy (o : Opt) (name : List Char) : Prop := ∀ o' : Opt, name <+: o'.long ↔ o' = o

/-- The arguments that spell a use. -/
inductive Use.SpelledBy : Use → List Char → Prop where
  | name {o : Opt} {name : List Char} (h : o.BegunBy name) : SpelledBy ⟨o, false, none⟩ name
  | nameEquals {o : Opt} {name value : List Char} (h : o.BegunBy name) :
      SpelledBy ⟨o, false, some value⟩ (name ++ '=' :: value)
  | letter {o : Opt} {c : Char} (hc : o.letter? = some c) : SpelledBy ⟨o, true, none⟩ ['-', c]
  | letterEquals {o : Opt} {c : Char} {value : List Char} (hc : o.letter? = some c) :
      SpelledBy ⟨o, true, some value⟩ ('-' :: c :: '=' :: value)
  | letterJoined {o : Opt} {c d : Char} {cs : List Char} (hc : o.letter? = some c) (hd : d ≠ '=') :
      SpelledBy ⟨o, true, some (d :: cs)⟩ ('-' :: c :: d :: cs)

/-- The requests that a use asks for, and the option among them that waits for its value. -/
inductive Use.AsksFor : Use → List Request → Option Opt → Prop where
  | flag {o : Opt} {byLetter : Bool} (ho : ¬ o.takesValue) : AsksFor ⟨o, byLetter, none⟩ [⟨o, none⟩] none
  | awaiting {o : Opt} {byLetter : Bool} (ho : o.takesValue) : AsksFor ⟨o, byLetter, none⟩ [] (some o)
  | value {o : Opt} {byLetter : Bool} {text : List Char} (ho : o.takesValue) :
      AsksFor ⟨o, byLetter, some text⟩ [⟨o, some text⟩] none
  | letter {o o' : Opt} {c : Char} {rs : List Request} {next : Option Opt} (ho : ¬ o.takesValue)
      (hc : o'.letter? = some c) (rest : AsksFor ⟨o', true, none⟩ rs next) :
      AsksFor ⟨o, true, some [c]⟩ (⟨o, none⟩ :: rs) next
  | letters {o o' : Opt} {c d : Char} {cs : List Char} {rs : List Request} {next : Option Opt}
      (ho : ¬ o.takesValue) (hc : o'.letter? = some c) (rest : AsksFor ⟨o', true, some (d :: cs)⟩ rs next) :
      AsksFor ⟨o, true, some (c :: d :: cs)⟩ (⟨o, none⟩ :: rs) next

/-! ## Names and letters -/

namespace Opt

theorem ofLetter?_eq_some_iff {o : Opt} {c : Char} : ofLetter? c = some o ↔ o.letter? = some c := by
  constructor
  · intro h
    simpa using List.find?_some h
  · intro h
    cases o <;> cases h <;> rfl

theorem short?_eq_some_iff {o : Opt} {text : List Char} :
    o.short? = some text ↔ ∃ c, o.letter? = some c ∧ text = ['-', c] := by
  rw [short?, Option.map_eq_some_iff]
  simp only [eq_comm]

theorem find?_long (o : Opt) : all.find? (·.long = o.long) = some o := by
  cases o <;> decide

theorem equals_not_mem_long (o : Opt) : '=' ∉ o.long := by
  cases o <;> decide

theorem mem_all (o : Opt) : o ∈ all := by
  cases o <;> decide

theorem find?_short {o : Opt} {c : Char} (hc : o.letter? = some c) :
    all.find? (·.short? = some ['-', c]) = some o := by
  cases o <;> cases hc <;> decide

theorem filter_short {o : Opt} {c : Char} (hc : o.letter? = some c) :
    all.filter (·.short? = some ['-', c]) = [o] := by
  cases o <;> cases hc <;> decide

theorem filter_all_eq (o : Opt) : all.filter (· = o) = [o] := by
  cases o <;> decide

theorem long_ne (o : Opt) (c : Char) : o.long ≠ ['-', c] := by
  cases o <;> simp [long, name]

theorem letter?_ne_dash (o : Opt) : o.letter? ≠ some '-' := by
  cases o <;> decide

theorem letter?_ne_equals (o : Opt) : o.letter? ≠ some '=' := by
  cases o <;> decide

theorem begunBy_long (o : Opt) : o.BegunBy o.long := by
  intro o'
  cases o <;> cases o' <;> decide

variable {o : Opt} {name : List Char}

theorem BegunBy.isPrefix (h : o.BegunBy name) : name <+: o.long := (h o).2 rfl

theorem BegunBy.equals_not_mem (h : o.BegunBy name) : '=' ∉ name := fun hmem =>
  o.equals_not_mem_long (h.isPrefix.subset hmem)

/-- Two dashes begin all names, so a beginning that tells options apart has more. -/
theorem BegunBy.eq_dashes (h : o.BegunBy name) : ∃ c cs, name = '-' :: '-' :: c :: cs := by
  have hshort (hname : name <+: dashes) : False := by
    have hhelp := (h .help).1 (hname.trans ⟨_, rfl⟩)
    have hseed := (h .seed).1 (hname.trans ⟨_, rfl⟩)
    exact absurd (hhelp.trans hseed.symm) (by decide)
  obtain ⟨rest, hrest⟩ := h.isPrefix
  rcases name with _ | ⟨a, _ | ⟨b, _ | ⟨c, cs⟩⟩⟩
  · exact (hshort List.nil_prefix).elim
  · cases hrest
    exact (hshort ⟨['-'], rfl⟩).elim
  · cases hrest
    exact (hshort List.prefix_rfl).elim
  · have ha := congrArg List.head? hrest
    have hb := congrArg (fun l => l.tail.head?) hrest
    cases ha
    cases hb
    exact ⟨c, cs, rfl⟩

theorem filter_isPrefixOf_eq_iff : all.filter (fun o => name.isPrefixOf o.long) = [o] ↔ o.BegunBy name := by
  constructor
  · intro h o'
    rw [← List.isPrefixOf_iff_prefix]
    have hmem : o' ∈ all.filter (fun o => name.isPrefixOf o.long) ↔ o' = o := by rw [h, List.mem_singleton]
    rwa [List.mem_filter, and_iff_right o'.mem_all] at hmem
  · intro h
    rw [← filter_all_eq o]
    refine List.filter_congr fun o' _ => ?_
    rw [Bool.eq_iff_iff, List.isPrefixOf_iff_prefix, decide_eq_true_eq]
    exact h o'

instance : Decidable (o.BegunBy name) := decidable_of_iff _ filter_isPrefixOf_eq_iff

end Opt

/-! ## Equals signs -/

theorem splitEquals_of_not_mem {text : List Char} (h : '=' ∉ text) : splitEquals text = (text, none) := by
  have hdrop : text.dropWhile (· ≠ '=') = [] := by
    rw [List.dropWhile_eq_nil_iff]
    intro c hc
    simpa using fun heq : c = '=' => h (heq ▸ hc)
  rw [splitEquals, hdrop]

theorem splitEquals_append {name : List Char} (h : '=' ∉ name) (value : List Char) :
    splitEquals (name ++ '=' :: value) = (name, some value) := by
  have hname : ∀ c ∈ name, decide (c ≠ '=') = true := by
    intro c hc
    simpa using fun heq : c = '=' => h (heq ▸ hc)
  rw [splitEquals, List.dropWhile_append_of_pos hname, List.takeWhile_append_of_pos hname]
  simp

theorem exists_splitEquals (text : List Char) :
    ('=' ∉ text ∧ splitEquals text = (text, none)) ∨
      ∃ name value, '=' ∉ name ∧ text = name ++ '=' :: value ∧ splitEquals text = (name, some value) := by
  by_cases h : '=' ∈ text
  · obtain ⟨name, value, rfl, hname⟩ := List.eq_append_cons_of_mem h
    exact .inr ⟨name, value, hname, rfl, splitEquals_append hname value⟩
  · exact .inl ⟨h, splitEquals_of_not_mem h⟩

/-! ## Uses -/

theorem inFull?_long (o : Opt) (attached : Option (List Char)) :
    inFull? o.long attached = some ⟨o, false, attached⟩ := by
  rw [inFull?, Opt.find?_long]

theorem inFull?_letter {o : Opt} {c : Char} (hc : o.letter? = some c) (attached : Option (List Char)) :
    inFull? ['-', c] attached = some ⟨o, true, attached⟩ := by
  have hlong : Opt.all.find? (·.long = ['-', c]) = none := by
    rw [List.find?_eq_none]
    intro o' _
    simpa using o'.long_ne c
  rw [inFull?, hlong, Opt.find?_short hc]
  rfl

theorem inFull?_eq_some {text : List Char} {attached : Option (List Char)} {u : Use}
    (h : inFull? text attached = some u) :
    (∃ o : Opt, text = o.long ∧ u = ⟨o, false, attached⟩) ∨
      ∃ (o : Opt) (c : Char), o.letter? = some c ∧ text = ['-', c] ∧ u = ⟨o, true, attached⟩ := by
  unfold inFull? at h
  split at h
  · next o hfind =>
    have hlong := List.find?_some hfind
    rw [decide_eq_true_eq] at hlong
    exact .inl ⟨o, hlong.symm, (Option.some.inj h).symm⟩
  · obtain ⟨o, hfind, rfl⟩ := Option.map_eq_some_iff.1 h
    have hshort := List.find?_some hfind
    rw [decide_eq_true_eq] at hshort
    obtain ⟨c, hc, rfl⟩ := Opt.short?_eq_some_iff.1 hshort
    exact .inr ⟨o, c, hc, rfl, rfl⟩

theorem inFull?_eq_none {text : List Char} (hlong : ∀ o : Opt, text ≠ o.long) (hletter : ∀ c, text ≠ ['-', c])
    (attached : Option (List Char)) : inFull? text attached = none := by
  rw [Option.eq_none_iff_forall_ne_some]
  intro u hu
  rcases inFull?_eq_some hu with ⟨o, htext, -⟩ | ⟨o, c, -, htext, -⟩
  · exact hlong o htext
  · exact hletter c htext

theorem spelled?_eq_some_iff {text : List Char} {u : Use} :
    spelled? text = some u ↔ inFull? text none = some u ∨ inFull? text none = none ∧
      ∃ name value, splitEquals text = (name, some value) ∧ inFull? name (some value) = some u := by
  unfold spelled?
  cases inFull? text none with
  | some u' => simp
  | none =>
    rcases exists_splitEquals text with ⟨-, hsplit⟩ | ⟨name, value, -, -, hsplit⟩ <;> simp [hsplit]

theorem candidates_name {o : Opt} {name text : List Char} {attached : Option (List Char)} (h : o.BegunBy name)
    (hsplit : splitEquals text = (name, attached)) (htext : dashes.isPrefixOf text) :
    candidates text = [⟨o, false, attached⟩] := by
  rw [candidates, hsplit]
  simp only [htext, if_true, Opt.filter_isPrefixOf_eq_iff.2 h, List.map_cons, List.map_nil]

theorem ofText_of_spelled? {text : List Char} {u : Use} (hlooks : looksLikeOption text)
    (h : spelled? text = some u) : Word.ofText text = .ok (.use u) := by
  rw [Word.ofText, hlooks, h]
  rfl

theorem ofText_of_candidates {text : List Char} {u : Use} (hlooks : looksLikeOption text)
    (hnone : spelled? text = none) (h : candidates text = [u]) : Word.ofText text = .ok (.use u) := by
  rw [Word.ofText, hlooks, hnone, h]
  rfl

section Names

variable {o : Opt} {name : List Char}

theorem Opt.BegunBy.inFull?_eq_none (h : o.BegunBy name) (hne : name ≠ o.long) (attached : Option (List Char)) :
    inFull? name attached = none := by
  refine CommandLine.inFull?_eq_none (fun o' hname => ?_) (fun c hname => ?_) attached
  · obtain rfl := (h o').1 (hname ▸ List.prefix_rfl)
    exact hne hname
  · obtain ⟨c', cs, hdashes⟩ := h.eq_dashes
    rw [hname] at hdashes
    cases hdashes

theorem ofText_name (h : o.BegunBy name) : Word.ofText name = .ok (.use ⟨o, false, none⟩) := by
  obtain ⟨c, cs, hdashes⟩ := h.eq_dashes
  have hlooks : looksLikeOption name := by rw [hdashes]; rfl
  have hsplit := splitEquals_of_not_mem h.equals_not_mem
  by_cases hfull : name = o.long
  · rw [hfull] at hlooks ⊢
    exact ofText_of_spelled? hlooks (spelled?_eq_some_iff.2 (.inl (inFull?_long o none)))
  · refine ofText_of_candidates hlooks ?_ (candidates_name h hsplit (by rw [hdashes]; rfl))
    rw [spelled?, h.inFull?_eq_none hfull, hsplit]

theorem ofText_nameEquals (h : o.BegunBy name) (value : List Char) :
    Word.ofText (name ++ '=' :: value) = .ok (.use ⟨o, false, some value⟩) := by
  obtain ⟨c, cs, hdashes⟩ := h.eq_dashes
  have hlooks : looksLikeOption (name ++ '=' :: value) := by rw [hdashes]; rfl
  have hsplit := splitEquals_append h.equals_not_mem value
  have hfull : inFull? (name ++ '=' :: value) none = none := by
    refine inFull?_eq_none (fun o' htext => ?_) (fun c' htext => ?_) none
    · exact o'.equals_not_mem_long (htext ▸ List.mem_append_right name List.mem_cons_self)
    · rw [hdashes] at htext
      cases htext
  by_cases hname : name = o.long
  · refine ofText_of_spelled? hlooks (spelled?_eq_some_iff.2 (.inr ⟨hfull, name, value, hsplit, ?_⟩))
    rw [hname, inFull?_long]
  · refine ofText_of_candidates hlooks ?_ (candidates_name h hsplit (by rw [hdashes]; rfl))
    rw [spelled?, hfull, hsplit]
    exact h.inFull?_eq_none hname (some value)

end Names

section Letters

variable {o : Opt} {c : Char}

theorem splitEquals_letter (hc : o.letter? = some c) (value : List Char) :
    splitEquals ('-' :: c :: '=' :: value) = (['-', c], some value) := by
  have hname : '=' ∉ ['-', c] := by
    rintro (_ | ⟨_, _ | ⟨_, ⟨⟩⟩⟩)
    exact o.letter?_ne_equals hc
  exact splitEquals_append hname value

theorem inFull?_letter_cons (hc : o.letter? = some c) (d : Char) (cs : List Char) :
    inFull? ('-' :: c :: d :: cs) none = none := by
  refine inFull?_eq_none (fun o' htext => ?_) (fun c' htext => by cases htext) none
  have hsecond := congrArg (fun l => l.tail.head?) htext
  cases hsecond
  exact o.letter?_ne_dash hc

theorem spelled?_letter (hc : o.letter? = some c) : spelled? ['-', c] = some ⟨o, true, none⟩ :=
  spelled?_eq_some_iff.2 (.inl (inFull?_letter hc none))

theorem spelled?_letterEquals (hc : o.letter? = some c) (value : List Char) :
    spelled? ('-' :: c :: '=' :: value) = some ⟨o, true, some value⟩ :=
  spelled?_eq_some_iff.2 (.inr ⟨inFull?_letter_cons hc '=' value, ['-', c], value, splitEquals_letter hc value,
    inFull?_letter hc (some value)⟩)

theorem spelled?_letterJoined (hc : o.letter? = some c) {d : Char} (hd : d ≠ '=') (cs : List Char) :
    spelled? ('-' :: c :: d :: cs) = none := by
  rw [Option.eq_none_iff_forall_ne_some]
  intro u hu
  rcases spelled?_eq_some_iff.1 hu with hfull | ⟨-, name, value, hsplit, hfull⟩
  · rw [inFull?_letter_cons hc] at hfull
    cases hfull
  · rcases exists_splitEquals ('-' :: c :: d :: cs) with ⟨-, hsplit'⟩ | ⟨name', value', -, htext, hsplit'⟩
    · rw [hsplit] at hsplit'
      cases hsplit'
    · rw [hsplit] at hsplit'
      cases hsplit'
      rcases inFull?_eq_some hfull with ⟨o', rfl, -⟩ | ⟨o', c', -, rfl, -⟩
      · have hsecond := congrArg (fun l => l.tail.head?) htext
        cases hsecond
        exact o.letter?_ne_dash hc
      · cases htext
        exact hd rfl

theorem candidates_letterJoined (hc : o.letter? = some c) (d : Char) (cs : List Char) :
    candidates ('-' :: c :: d :: cs) = [⟨o, true, some (d :: cs)⟩] := by
  have hdashes : dashes.isPrefixOf ('-' :: c :: d :: cs) = false := by
    rw [Bool.eq_false_iff, Ne, List.isPrefixOf_iff_prefix]
    rintro ⟨rest, hrest⟩
    cases hrest
    exact o.letter?_ne_dash hc
  rw [candidates, hdashes]
  exact congrArg (List.map fun o => (⟨o, true, some (d :: cs)⟩ : Use)) (Opt.filter_short hc)

end Letters

theorem spelledBy_of_spelled? {text : List Char} {u : Use} (h : spelled? text = some u) : u.SpelledBy text := by
  rcases spelled?_eq_some_iff.1 h with hfull | ⟨-, name, value, hsplit, hfull⟩
  · rcases inFull?_eq_some hfull with ⟨o, rfl, rfl⟩ | ⟨o, c, hc, rfl, rfl⟩
    · exact .name o.begunBy_long
    · exact .letter hc
  · rcases exists_splitEquals text with ⟨-, hsplit'⟩ | ⟨name', value', -, rfl, hsplit'⟩
    · rw [hsplit] at hsplit'
      cases hsplit'
    · rw [hsplit] at hsplit'
      cases hsplit'
      rcases inFull?_eq_some hfull with ⟨o, rfl, rfl⟩ | ⟨o, c, hc, rfl, rfl⟩
      · exact .nameEquals o.begunBy_long
      · exact .letterEquals hc

theorem spelledBy_of_candidates {text : List Char} {u : Use} (hnone : spelled? text = none)
    (h : candidates text = [u]) : u.SpelledBy text := by
  unfold candidates at h
  dsimp only at h
  split at h
  · -- a beginning of a name
    obtain ⟨o, hfilter, rfl⟩ := List.map_eq_singleton_iff.1 h
    have hbegun := Opt.filter_isPrefixOf_eq_iff.1 hfilter
    rcases exists_splitEquals text with ⟨-, hsplit⟩ | ⟨name, value, -, rfl, hsplit⟩
    · rw [hsplit] at hbegun ⊢
      exact .name hbegun
    · rw [hsplit] at hbegun ⊢
      exact .nameEquals hbegun
  · -- a letter, with a text that has no equals sign before it, for that would be spelled in full
    obtain ⟨o, hfilter, rfl⟩ := List.map_eq_singleton_iff.1 h
    have hmem : o ∈ Opt.all.filter (·.short? = some (text.take 2)) := by
      rw [hfilter]
      exact List.mem_singleton_self o
    rw [List.mem_filter, decide_eq_true_eq] at hmem
    obtain ⟨c, hc, htake⟩ := Opt.short?_eq_some_iff.1 hmem.2
    obtain ⟨rest, rfl⟩ : ∃ rest, text = '-' :: c :: rest :=
      ⟨text.drop 2, by rw [← List.take_append_drop 2 text, htake]; rfl⟩
    rcases rest with _ | ⟨d, cs⟩
    · rw [spelled?_letter hc] at hnone
      cases hnone
    · by_cases hd : d = '='
      · rw [hd, spelled?_letterEquals hc] at hnone
        cases hnone
      · exact .letterJoined hc hd

/-- The arguments that are read as a use are those that spell it. -/
theorem ofText_eq_use_iff {text : List Char} {u : Use} :
    Word.ofText text = .ok (.use u) ↔ u.SpelledBy text := by
  constructor
  · intro h
    unfold Word.ofText at h
    split at h
    · cases h
    · split at h
      · next u' hspelled =>
        cases h
        exact spelledBy_of_spelled? hspelled
      · next hnone =>
        split at h
        · next u' hcandidates =>
          cases h
          exact spelledBy_of_candidates hnone hcandidates
        · split at h <;> cases h
        · cases h
  · intro h
    cases h with
    | name h => exact ofText_name h
    | nameEquals h => exact ofText_nameEquals h _
    | letter hc => exact ofText_of_spelled? rfl (spelled?_letter hc)
    | letterEquals hc => exact ofText_of_spelled? rfl (spelled?_letterEquals hc _)
    | letterJoined hc hd =>
      exact ofText_of_candidates rfl (spelled?_letterJoined hc hd _) (candidates_letterJoined hc _ _)

/-! ## Requests -/

theorem alone_asksFor (o : Opt) (byLetter : Bool) :
    (⟨o, byLetter, none⟩ : Use).AsksFor (alone o).1 (alone o).2 := by
  unfold alone
  split
  · next ho => exact .awaiting ho
  · next ho => exact .flag ho

theorem cluster_cons_eq_ok_iff {o : Opt} {c : Char} {cs : List Char} {rs : List Request} {next : Option Opt} :
    cluster o (c :: cs) = .ok (rs, next) ↔
      (o.takesValue ∧ rs = [⟨o, some (c :: cs)⟩] ∧ next = none) ∨
      (¬ o.takesValue ∧ ∃ o' rs', o'.letter? = some c ∧ cluster o' cs = .ok (rs', next) ∧ rs = ⟨o, none⟩ :: rs') := by
  rw [cluster]
  by_cases ho : o.takesValue
  · rw [if_pos ho]
    simp [ho, eq_comm]
  · rw [if_neg ho]
    cases hletter : Opt.ofLetter? c with
    | none =>
      have hnone (o' : Opt) : o'.letter? ≠ some c := fun hc => by
        rw [Opt.ofLetter?_eq_some_iff.2 hc] at hletter
        cases hletter
      simp [ho, hnone]
    | some o' =>
      have hc := Opt.ofLetter?_eq_some_iff.1 hletter
      have hunique (o'' : Opt) : o''.letter? = some c ↔ o'' = o' := by
        rw [← Opt.ofLetter?_eq_some_iff, hletter, Option.some.injEq, eq_comm]
      cases hrest : cluster o' cs with
      | error m => simp [ho, hunique, hrest, Except.map]
      | ok requests =>
        obtain ⟨rs', next'⟩ := requests
        simp [ho, hunique, hrest, Except.map, eq_comm, and_comm]

theorem cluster_cons_iff {o : Opt} {c : Char} {cs : List Char} {rs : List Request} {next : Option Opt} :
    cluster o (c :: cs) = .ok (rs, next) ↔ (⟨o, true, some (c :: cs)⟩ : Use).AsksFor rs next := by
  constructor
  · intro h
    induction cs generalizing o c rs with
    | nil =>
      rcases cluster_cons_eq_ok_iff.1 h with ⟨ho, rfl, rfl⟩ | ⟨ho, o', rs', hc, hrest, rfl⟩
      · exact .value ho
      · obtain ⟨rfl, rfl⟩ := Prod.ext_iff.1 (Except.ok.inj hrest)
        exact .letter ho hc (alone_asksFor o' true)
    | cons d cs ih =>
      rcases cluster_cons_eq_ok_iff.1 h with ⟨ho, rfl, rfl⟩ | ⟨ho, o', rs', hc, hrest, rfl⟩
      · exact .value ho
      · exact .letters ho hc (ih hrest)
  · intro h
    generalize hu : (⟨o, true, some (c :: cs)⟩ : Use) = u at h
    induction h generalizing o c cs with
    | flag => cases hu
    | awaiting => cases hu
    | value ho =>
      cases hu
      exact cluster_cons_eq_ok_iff.2 (.inl ⟨ho, rfl, rfl⟩)
    | @letter _ o' _ rs next ho hc rest =>
      cases hu
      have halone : cluster o' [] = .ok (rs, next) := by cases rest <;> simp_all [cluster, alone]
      exact cluster_cons_eq_ok_iff.2 (.inr ⟨ho, o', rs, hc, halone, rfl⟩)
    | letters ho hc rest ih =>
      cases hu
      exact cluster_cons_eq_ok_iff.2 (.inr ⟨ho, _, _, hc, ih rfl, rfl⟩)

/-- The requests of a use are those that it asks for. -/
theorem requests_eq_ok_iff {u : Use} {rs : List Request} {next : Option Opt} :
    u.requests = .ok (rs, next) ↔ u.AsksFor rs next := by
  obtain ⟨o, byLetter, attached⟩ := u
  constructor
  · intro h
    unfold Use.requests at h
    split at h
    · obtain ⟨rfl, rfl⟩ := Prod.ext_iff.1 (Except.ok.inj h)
      next hattached =>
      cases hattached
      exact alone_asksFor o byLetter
    · next text hattached =>
      cases hattached
      split at h
      · next ho =>
        cases h
        exact .value ho
      · split at h
        · next hgroup =>
          rw [Bool.and_eq_true] at hgroup
          obtain ⟨rfl, htext⟩ := hgroup
          cases text with
          | nil => cases htext
          | cons c cs => exact cluster_cons_iff.1 h
        · cases h
  · intro h
    cases h with
    | flag ho => simp [Use.requests, alone, ho]
    | awaiting ho => simp [Use.requests, alone, ho]
    | value ho => simp [Use.requests, ho]
    | letter ho hc rest =>
      have hcluster := cluster_cons_iff.2 (.letter ho hc rest)
      simpa [Use.requests, ho] using hcluster
    | letters ho hc rest =>
      have hcluster := cluster_cons_iff.2 (.letters ho hc rest)
      simpa [Use.requests, ho] using hcluster

end Pipework.CommandLine
