import Mathlib
import Phrasebook.Event
import Phrasebook.Failure.Report
import Phrasebook.Trouble

/-! Outcomes of sequences and look-ups, and what it means that an outcome decides requirements in
order: it is a result exactly if all of them hold, and otherwise a failure about the first that does
not. -/

namespace Phrasebook

section Sequences

variable {ε α β : Type}

theorem bind_eq_ok {x : Except ε α} {f : α → Except ε β} {b : β} :
    x >>= f = .ok b ↔ ∃ a, x = .ok a ∧ f a = .ok b := by
  cases x with
  | error e => simp [bind, Except.bind]
  | ok a => simp [bind, Except.bind]

theorem ofFailure_eq_ok {x : Except Failure α} {a : α} :
    Trouble.ofFailure x = .ok a ↔ x = .ok a := by
  cases x <;> simp [Trouble.ofFailure]

theorem ofFailure_eq_error {x : Except Failure α} {f : Failure} :
    Trouble.ofFailure x = .error (.failure f) ↔ x = .error f := by
  cases x <;> simp [Trouble.ofFailure]

theorem ofFailure_bind (x : Except Failure α) (f : α → Except Failure β) :
    Trouble.ofFailure (x >>= f) = Trouble.ofFailure x >>= fun a => Trouble.ofFailure (f a) := by
  cases x <;> rfl

theorem filterAuxM_ok {f : α → Except ε Bool} {p : α → Bool} {l : List α}
    (h : ∀ a ∈ l, f a = .ok (p a)) (kept : List α) :
    l.filterAuxM f kept = .ok ((l.filter p).reverse ++ kept) := by
  induction l generalizing kept with
  | nil => rfl
  | cons a l ih =>
    have hl := ih fun b hb => h b (List.mem_cons_of_mem a hb)
    rw [List.filterAuxM, h a (List.mem_cons_self ..)]
    show List.filterAuxM f l _ = _
    rw [hl]
    cases hp : p a <;> simp [hp]

/-- Where every test gives an answer, filtering succeeds. -/
theorem filterM_ok {f : α → Except ε Bool} {p : α → Bool} {l : List α}
    (h : ∀ a ∈ l, f a = .ok (p a)) : l.filterM f = .ok (l.filter p) := by
  rw [List.filterM, filterAuxM_ok h]
  simp [bind, Except.bind, pure, Except.pure]

theorem filterAuxM_error {f : α → Except ε Bool} {P : ε → Prop} {l : List α}
    (h : ∀ a ∈ l, ∀ e, f a = .error e → P e) (hex : ∃ a ∈ l, ∃ e, f a = .error e)
    (kept : List α) : ∃ e, P e ∧ l.filterAuxM f kept = .error e := by
  induction l generalizing kept with
  | nil => simp at hex
  | cons a l ih =>
    rw [List.filterAuxM]
    cases ha : f a with
    | error e => exact ⟨e, h a (List.mem_cons_self ..) e ha, rfl⟩
    | ok b =>
      apply ih fun c hc => h c (List.mem_cons_of_mem a hc)
      obtain ⟨c, hc, e, he⟩ := hex
      rcases List.mem_cons.mp hc with rfl | hc
      · exact absurd he (by simp [ha])
      · exact ⟨c, hc, e, he⟩

/-- Where some test is refused, so is filtering, for the reason of such a test. -/
theorem filterM_error {f : α → Except ε Bool} {P : ε → Prop} {l : List α}
    (h : ∀ a ∈ l, ∀ e, f a = .error e → P e) (hex : ∃ a ∈ l, ∃ e, f a = .error e) :
    ∃ e, P e ∧ l.filterM f = .error e := by
  obtain ⟨e, hp, he⟩ := filterAuxM_error h hex []
  exact ⟨e, hp, by rw [List.filterM, he]; rfl⟩

/-- The first member of a list that has a property. -/
def IsFirst (P : α → Prop) (l : List α) (a : α) : Prop :=
  ∃ before after, l = before ++ a :: after ∧ P a ∧ ∀ b ∈ before, ¬P b

section First

variable {P : α → Prop} {l : List α} {a b : α}

theorem IsFirst.mem (h : IsFirst P l a) : a ∈ l := by
  obtain ⟨before, after, rfl, _⟩ := h
  simp

theorem IsFirst.holds (h : IsFirst P l a) : P a := by
  obtain ⟨_, _, _, ha, _⟩ := h
  exact ha

theorem isFirst_cons : IsFirst P (b :: l) a ↔ (P b ∧ a = b) ∨ (¬P b ∧ IsFirst P l a) := by
  constructor
  · rintro ⟨before, after, hl, ha, hbefore⟩
    cases before with
    | nil =>
      obtain ⟨rfl, rfl⟩ := List.cons.inj hl
      exact .inl ⟨ha, rfl⟩
    | cons first before =>
      obtain ⟨rfl, rfl⟩ := List.cons.inj hl
      rw [List.forall_mem_cons] at hbefore
      exact .inr ⟨hbefore.1, before, after, rfl, ha, hbefore.2⟩
  · rintro (⟨hb, rfl⟩ | ⟨hb, before, after, rfl, ha, hbefore⟩)
    · exact ⟨[], l, rfl, hb, by simp⟩
    · exact ⟨b :: before, after, rfl, ha, List.forall_mem_cons.mpr ⟨hb, hbefore⟩⟩

theorem IsFirst.unique (h : IsFirst P l a) (h' : IsFirst P l b) : a = b := by
  induction l with
  | nil => exact absurd h.mem (by simp)
  | cons c l ih =>
    rcases isFirst_cons.mp h with ⟨hc, rfl⟩ | ⟨hc, h⟩
    · rcases isFirst_cons.mp h' with ⟨_, rfl⟩ | ⟨hc', _⟩
      · rfl
      · exact absurd hc hc'
    · rcases isFirst_cons.mp h' with ⟨hc', _⟩ | ⟨_, h'⟩
      · exact absurd hc' hc
      · exact ih h h'

/-- In an ordered list the first member with a property is the least one. -/
theorem IsFirst.least {S : α → α → Prop} (h : IsFirst P l a) (hordered : l.Pairwise S) :
    ∀ b ∈ l, P b → b = a ∨ S a b := by
  obtain ⟨before, after, rfl, _, hbefore⟩ := h
  have hafter := (List.pairwise_append.mp hordered).2.1
  intro b hb hP
  rcases List.mem_append.mp hb with hb | hb
  · exact absurd hP (hbefore b hb)
  · rcases List.mem_cons.mp hb with rfl | hb
    · exact .inl rfl
    · exact .inr ((List.pairwise_cons.mp hafter).1 b hb)

theorem exists_isFirst (hb : b ∈ l) (h : P b) : ∃ a, IsFirst P l a := by
  induction l with
  | nil => exact absurd hb (by simp)
  | cons c l ih =>
    by_cases hc : P c
    · exact ⟨c, isFirst_cons.mpr (.inl ⟨hc, rfl⟩)⟩
    · rcases List.mem_cons.mp hb with rfl | hb
      · exact absurd h hc
      · obtain ⟨a, ha⟩ := ih hb
        exact ⟨a, isFirst_cons.mpr (.inr ⟨hc, ha⟩)⟩

theorem find?_eq_some_iff_isFirst {p : α → Bool} :
    l.find? p = some a ↔ IsFirst (fun b => p b = true) l a := by
  rw [List.find?_eq_some_iff_append]
  constructor
  · rintro ⟨ha, before, after, hl, hbefore⟩
    exact ⟨before, after, hl, ha, fun b hb => by simpa using hbefore b hb⟩
  · rintro ⟨before, after, hl, ha, hbefore⟩
    exact ⟨ha, before, after, hl, fun b hb => by simpa using hbefore b hb⟩

/-- Where a label is read back, it is the label of what is found by it. -/
theorem find?_label_eq_some [BEq β] [LawfulBEq β] {label : α → β} {t : β}
    (hread : (l.find? fun b => label b == label a) = some a) :
    (l.find? fun b => label b == t) = some a ↔ label a = t := by
  constructor
  · intro h
    exact eq_of_beq (find?_eq_some_iff_isFirst.mp h).holds
  · rintro rfl
    exact hread

end First

section Lookup

variable [BEq α] [LawfulBEq α] {l l' : List (α × β)} {a : α} {b : β}

theorem lookup_isSome_iff : (l.lookup a).isSome = true ↔ a ∈ l.map (·.1) := by
  rw [List.lookup_isSome_iff, List.mem_map]
  constructor
  · rintro ⟨e, he, hkey⟩
    exact ⟨e, he, (eq_of_beq hkey).symm⟩
  · rintro ⟨e, he, rfl⟩
    exact ⟨e, he, beq_self_eq_true _⟩

theorem lookup_eq_none_iff : l.lookup a = none ↔ a ∉ l.map (·.1) := by
  rw [← lookup_isSome_iff, Bool.not_eq_true, Option.isSome_eq_false_iff, Option.isNone_iff_eq_none]

/-- With distinct keys, look-up is membership. -/
theorem lookup_eq_some_iff_mem (h : (l.map (·.1)).Nodup) : l.lookup a = some b ↔ (a, b) ∈ l := by
  rw [List.lookup_eq_some_iff]
  constructor
  · rintro ⟨before, after, rfl, _⟩
    simp
  · intro hmem
    obtain ⟨before, after, rfl⟩ := List.append_of_mem hmem
    rw [List.map_append, List.nodup_append] at h
    refine ⟨before, after, rfl, fun e he => bne_iff_ne.mpr ?_⟩
    exact (h.2.2 e.1 (List.mem_map_of_mem he) a (by simp)).symm

theorem lookup_perm (h : (l.map (·.1)).Nodup) (hperm : l.Perm l') : l'.lookup a = l.lookup a := by
  have h' : (l'.map (·.1)).Nodup := (hperm.map _).nodup h
  ext b
  rw [lookup_eq_some_iff_mem h, lookup_eq_some_iff_mem h', hperm.mem_iff]

/-- Look-up in a table whose entry under a key comes from one origin alone. -/
theorem lookup_filterMap {γ : Type} [DecidableEq γ] {entry : γ → Option (α × β)} {origin : γ}
    (horigin : entry origin = some (a, b)) (hother : ∀ c b', entry c = some (a, b') → c = origin)
    (cs : List γ) : (cs.filterMap entry).lookup a = if origin ∈ cs then some b else none := by
  induction cs with
  | nil => rfl
  | cons c cs ih =>
    by_cases hc : c = origin
    · subst hc
      simp [horigin]
    · have hmem : origin ∈ c :: cs ↔ origin ∈ cs := by simp [Ne.symm hc]
      rw [if_congr hmem rfl rfl, ← ih, List.filterMap_cons]
      split
      next => rfl
      next e he =>
        obtain ⟨key, b'⟩ := e
        have hkey : a ≠ key := by
          rintro rfl
          exact hc (hother c b' he)
        rw [List.lookup_cons, beq_false_of_ne hkey]

end Lookup

variable {R : α → β → Prop} {l : List α} {m : List β}

theorem exists_mem_right (h : List.Forall₂ R l m) {a : α} (ha : a ∈ l) : ∃ b ∈ m, R a b := by
  induction h with
  | nil => exact absurd ha (by simp)
  | @cons first b l m hR _ ih =>
    rcases List.mem_cons.mp ha with rfl | ha
    · exact ⟨b, List.mem_cons_self .., hR⟩
    · obtain ⟨c, hc, hac⟩ := ih ha
      exact ⟨c, List.mem_cons_of_mem _ hc, hac⟩

theorem exists_mem_left (h : List.Forall₂ R l m) {b : β} (hb : b ∈ m) : ∃ a ∈ l, R a b :=
  exists_mem_right h.flip hb

theorem map_eq_map_of_forall₂ {γ : Type} {f : α → γ} {g : β → γ} (h : List.Forall₂ R l m)
    (hR : ∀ a b, R a b → f a = g b) : l.map f = m.map g := by
  induction h with
  | nil => rfl
  | cons hab _ ih => rw [List.map_cons, List.map_cons, hR _ _ hab, ih]

theorem forall₂_of_map_eq {γ : Type} {f : α → γ} {g : β → γ} (h : l.map f = m.map g) :
    List.Forall₂ (fun a b => a ∈ l ∧ b ∈ m ∧ f a = g b) l m := by
  induction l generalizing m with
  | nil =>
    obtain rfl := List.map_eq_nil_iff.mp h.symm
    exact .nil
  | cons a l ih =>
    obtain ⟨b, m, rfl, hb, hm⟩ := List.map_eq_cons_iff.mp h.symm
    refine .cons ⟨List.mem_cons_self .., List.mem_cons_self .., hb.symm⟩ ((ih hm.symm).imp ?_)
    rintro a' b' ⟨ha', hb', heq⟩
    exact ⟨List.mem_cons_of_mem _ ha', List.mem_cons_of_mem _ hb', heq⟩

/-- The first elements that pass are related, if related elements pass alike. -/
theorem find?_of_forall₂ {p : α → Bool} {q : β → Bool} (h : List.Forall₂ R l m)
    (hR : ∀ a b, R a b → p a = q b) : Option.Rel R (l.find? p) (m.find? q) := by
  induction h with
  | nil => exact .none
  | @cons a b l m hab _ ih =>
    rw [List.find?_cons, List.find?_cons, hR a b hab]
    cases q b with
    | true => exact .some hab
    | false => exact ih

end Sequences

/-- Outcomes of two runs: results that are related, or failures that are. -/
inductive Alike {α β : Type} (F : Failure → Failure → Prop) (R : α → β → Prop) :
    Except Trouble α → Except Trouble β → Prop
  | ok {a : α} {b : β} (h : R a b) : Alike F R (.ok a) (.ok b)
  | failure {f f' : Failure} (h : F f f') :
      Alike F R (.error (.failure f)) (.error (.failure f'))

/-- Sequences end alike if their first steps do and, after related results, their other steps. -/
theorem Alike.bind {α β γ δ : Type} {F : Failure → Failure → Prop} {R : α → β → Prop}
    {S : γ → δ → Prop} {x : Except Trouble α} {y : Except Trouble β} {f : α → Except Trouble γ}
    {g : β → Except Trouble δ} (h : Alike F R x y)
    (hrest : ∀ a b, x = .ok a → y = .ok b → R a b → Alike F S (f a) (g b)) :
    Alike F S (x >>= f) (y >>= g) := by
  cases h with
  | ok h => exact hrest _ _ rfl rfl h
  | failure h => exact .failure h

/-- Something asked of an input, with the kinds of failure that report that it does not hold. -/
structure Requirement where
  holds : Prop
  kinds : List Failure.Kind

namespace Requirement

/-- A failure of kind `k` is about the first of the requirements that does not hold. -/
def Reports (k : Failure.Kind) : List Requirement → Prop
  | [] => False
  | q :: qs => (¬q.holds ∧ k ∈ q.kinds) ∨ (q.holds ∧ Reports k qs)

variable {α β : Type} {k : Failure.Kind} {qs qs' : List Requirement}

theorem Reports.not_all (h : Reports k qs) : ¬∀ q ∈ qs, q.holds := by
  induction qs with
  | nil => exact h.elim
  | cons q qs ih =>
    intro hall
    rw [List.forall_mem_cons] at hall
    rcases h with ⟨hq, _⟩ | ⟨_, h⟩
    · exact hq hall.1
    · exact ih h hall.2

theorem Reports.append_right (h : Reports k qs) (qs' : List Requirement) :
    Reports k (qs ++ qs') := by
  induction qs with
  | nil => exact h.elim
  | cons q qs ih =>
    rcases h with h | ⟨hq, h⟩
    · exact .inl h
    · exact .inr ⟨hq, ih h⟩

theorem Reports.append_left (hall : ∀ q ∈ qs, q.holds) (h : Reports k qs') :
    Reports k (qs ++ qs') := by
  induction qs with
  | nil => exact h
  | cons q qs ih =>
    rw [List.forall_mem_cons] at hall
    exact .inr ⟨hall.1, ih hall.2⟩

/-- An outcome that is a result exactly if all requirements hold, and otherwise a failure about the
first that does not. -/
structure Decides (qs : List Requirement) (o : Except Trouble α) : Prop where
  returns_iff : (∃ a, o = .ok a) ↔ ∀ q ∈ qs, q.holds
  reports : ∀ t, o = .error t → ∃ f, t = .failure f ∧ Reports f.kind qs

theorem decides_of_ok {o : Except Trouble α} {a : α} (ho : o = .ok a)
    (hall : ∀ q ∈ qs, q.holds) : Decides qs o where
  returns_iff := ⟨fun _ => hall, fun _ => ⟨a, ho⟩⟩
  reports t ht := absurd ht (by simp [ho])

theorem decides_of_failure {o : Except Trouble α} {f : Failure} (ho : o = .error (.failure f))
    (hreports : Reports f.kind qs) : Decides qs o where
  returns_iff := by
    constructor
    · rintro ⟨a, ha⟩
      exact absurd ha (by simp [ho])
    · intro hall
      exact absurd hall hreports.not_all
  reports t ht := by
    rw [ho] at ht
    exact ⟨f, (Except.error.inj ht).symm, hreports⟩

/-- A step that decides one requirement. -/
theorem decides_singleton {q : Requirement} {o : Except Trouble α}
    (hok : ∀ a, o = .ok a → q.holds)
    (herror : ∀ t, o = .error t → ∃ f, t = .failure f ∧ f.kind ∈ q.kinds ∧ ¬q.holds) :
    Decides [q] o := by
  cases ho : o with
  | ok a => exact decides_of_ok rfl (by simpa using hok a ho)
  | error t =>
    obtain ⟨f, rfl, hkind, hq⟩ := herror t ho
    exact decides_of_failure rfl (.inl ⟨hq, hkind⟩)

/-- A sequence decides what its first step decides and then what the others do. -/
theorem Decides.bind {x : Except Trouble α} {f : α → Except Trouble β} (hx : Decides qs x)
    (hf : ∀ a, x = .ok a → Decides qs' (f a)) : Decides (qs ++ qs') (x >>= f) := by
  cases hx' : x with
  | error t =>
    obtain ⟨failure, rfl, hreports⟩ := hx.reports t hx'
    exact decides_of_failure rfl (hreports.append_right qs')
  | ok a =>
    have hall : ∀ q ∈ qs, q.holds := hx.returns_iff.mp ⟨a, hx'⟩
    have hrest := hf a hx'
    show Decides (qs ++ qs') (f a)
    constructor
    · rw [hrest.returns_iff, List.forall_mem_append]
      exact ⟨fun h => ⟨hall, h⟩, fun h => h.2⟩
    · intro t ht
      obtain ⟨failure, rfl, hreports⟩ := hrest.reports t ht
      exact ⟨failure, rfl, hreports.append_left hall⟩

end Requirement

end Phrasebook
