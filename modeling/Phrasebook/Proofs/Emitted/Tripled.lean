import Mathlib
import Phrasebook.Proofs.Emitted.Source
import Phrasebook.Proofs.Text.Encodable

/-! Reading literals of several lines, which stand between three marks each. A text that is put
between the marks as it is reads back exactly if it is verbatim: nothing in it ends the literal or
stands for something else. -/

namespace Phrasebook.Source

variable {named : Text → Option CodePoint} {c d : CodePoint} {t u v w x y rest read : Text}

/-! ### Escapes -/

/-- The character that a name in braces names, and what follows it. -/
def readNamed (named : Text → Option CodePoint) (t : Text) : Option (Text × Text) := do
  let t ← skip ['\x7b'] t
  let rest ← skip ['\x7d'] (t.dropWhile (· ≠ '\x7d'))
  let c ← named (t.takeWhile (· ≠ '\x7d'))
  return ([c], rest)

/-- What a backslash and what is behind it stand for in a literal of several lines, and what
follows. A broken line goes on, and `named` knows the names of characters. -/
def unescapeTripled (named : Text → Option CodePoint) : Text → Option (Text × Text)
  | [] => none
  | c :: t =>
    if c = '\n' then some ([], t)
    else if c = 'N' then readNamed named t
    else unescape (c :: t)

/-- Whether a backslash before `c` begins an escape; before other code points it stands for
itself. -/
def beginsEscape (c : CodePoint) : Bool :=
  isOctal c || (simpleEscapes.lookup c).isSome ||
    [('x' : CodePoint), ('u' : CodePoint), ('U' : CodePoint), ('N' : CodePoint),
      ('\n' : CodePoint)].contains c

theorem eq_append_of_skip (h : skip x t = some rest) : t = x ++ rest := by
  unfold skip at h
  split_ifs at h with hbegins
  obtain ⟨u, rfl⟩ := List.isPrefixOf_iff_prefix.mp hbegins
  rw [List.drop_left] at h
  rw [Option.some.inj h]

theorem readNumber_shrinks {width : Nat} (h : readNumber width t = some (read, rest)) :
    read.length = 1 ∧ rest.length ≤ t.length := by
  refine ⟨?_, readNumber_length h⟩
  unfold readNumber at h
  split_ifs at h
  split at h
  · exact absurd h (by simp)
  · split_ifs at h
    obtain ⟨rfl, _⟩ := Prod.mk.inj (Option.some.inj h)
    rfl

theorem readOctal_shrinks (hc : isOctal c = true) (h : readOctal (c :: t) = some (read, rest)) :
    read.length = 1 ∧ rest.length ≤ t.length := by
  obtain ⟨rfl, rfl⟩ := Prod.mk.inj (Option.some.inj h)
  refine ⟨rfl, ?_⟩
  simp only [List.takeWhile_cons_of_pos hc, List.take_succ_cons, List.length_cons,
    List.drop_succ_cons, List.length_drop]
  omega

theorem readNamed_shrinks (h : readNamed named t = some (read, rest)) :
    read.length = 1 ∧ rest.length ≤ t.length := by
  simp only [readNamed, Option.bind_eq_bind, Option.bind_eq_some_iff] at h
  obtain ⟨u, hu, r, hr, c, _, h⟩ := h
  obtain ⟨rfl, rfl⟩ := Prod.mk.inj (Option.some.inj h)
  refine ⟨rfl, ?_⟩
  have hdrop := (List.dropWhile_sublist (· ≠ '\x7d') (l := u)).length_le
  rw [eq_append_of_skip hr] at hdrop
  rw [eq_append_of_skip hu]
  simp only [List.length_append, List.length_cons, List.length_nil] at hdrop ⊢
  omega

/-- An escape is longer than what it stands for, and any other backslash stands for itself. -/
theorem unescapeTripled_cases (h : unescapeTripled named t = some (read, rest)) :
    read.length + rest.length ≤ t.length ∨
      ∃ c, beginsEscape c = false ∧ t = c :: rest ∧ read = [('\\' : CodePoint), c] := by
  cases t with
  | nil => exact absurd h (by simp [unescapeTripled])
  | cons c t =>
    have hshrinks : read.length = 1 ∧ rest.length ≤ t.length →
        read.length + rest.length ≤ (c :: t).length := by
      rw [List.length_cons]
      omega
    dsimp only [unescapeTripled, unescape] at h
    split_ifs at h with hline hname hx hu hU hbarred hoctal
    · obtain ⟨rfl, rfl⟩ := Prod.mk.inj (Option.some.inj h)
      exact .inl (by simp)
    · exact .inl (hshrinks (readNamed_shrinks h))
    · exact .inl (hshrinks (readNumber_shrinks h))
    · exact .inl (hshrinks (readNumber_shrinks h))
    · exact .inl (hshrinks (readNumber_shrinks h))
    · exact .inl (hshrinks (readOctal_shrinks hoctal h))
    · split at h
      next d hd =>
        obtain ⟨rfl, rfl⟩ := Prod.mk.inj (Option.some.inj h)
        exact .inl (hshrinks ⟨rfl, Nat.le_refl _⟩)
      next hsimple =>
        obtain ⟨rfl, rfl⟩ := Prod.mk.inj (Option.some.inj h)
        refine .inr ⟨c, ?_, rfl, rfl⟩
        simp [beginsEscape, hsimple, hline, hname, hx, hu, hU, hoctal]

theorem unescapeTripled_length (h : unescapeTripled named t = some (read, rest)) :
    rest.length ≤ t.length := by
  rcases unescapeTripled_cases h with h | ⟨c, _, rfl, _⟩
  · omega
  · simp

/-- A backslash that begins no escape stands for itself. -/
theorem unescapeTripled_plain (h : beginsEscape c = false) (hbarred : isBarred c = false)
    (t : Text) : unescapeTripled named (c :: t) = some ([('\\' : CodePoint), c], t) := by
  simp only [beginsEscape, Bool.or_eq_false_iff, Option.isSome_eq_false_iff,
    Option.isNone_iff_eq_none] at h
  obtain ⟨⟨hoctal, hsimple⟩, hletters⟩ := h
  simp only [List.contains_cons, List.contains_nil, Bool.or_false, Bool.or_eq_false_iff,
    beq_eq_false_iff_ne] at hletters
  obtain ⟨hx, hu, hU, hname, hline⟩ := hletters
  simp [unescapeTripled, unescape, hoctal, hsimple, hx, hu, hU, hname, hline, hbarred]

/-! ### Literals of several lines -/

def tripleMark : Text := ['"', '"', '"']

/-- A text as it stands between the marks of a literal of several lines. -/
def tripled (t : Text) : Text :=
  tripleMark ++ t ++ tripleMark

/-- What stands up to three marks in a row, and what follows them. What a backslash stands before
ends nothing. -/
def cutTripled : (escaped : Bool) → Text → Option (Text × Text)
  | _, [] => none
  | true, c :: t => (cutTripled false t).map fun e => (c :: e.1, e.2)
  | false, c :: t =>
    if c = '\\' then (cutTripled true t).map fun e => (c :: e.1, e.2)
    else if Text.startsWith (c :: t) tripleMark then some ([], t.drop 2)
    else (cutTripled false t).map fun e => (c :: e.1, e.2)

/-- The text with one form of line end for all. -/
def unified : Text → Text
  | [] => []
  | [c] => if c = '\r' then ['\n'] else [c]
  | c :: d :: t =>
    if c = '\r' then '\n' :: (if d = '\n' then unified t else unified (d :: t))
    else c :: unified (d :: t)

/-- What a text between the marks stands for. -/
def evaluate (named : Text → Option CodePoint) : Text → Option Text
  | [] => some []
  | c :: t =>
    if c = '\\' then
      match _ : unescapeTripled named t with
      | none => none
      | some (read, rest) => (evaluate named rest).map fun v => read ++ v
    else (evaluate named t).map fun v => c :: v
termination_by t => t.length
decreasing_by
  · exact Nat.lt_succ_of_le (unescapeTripled_length ‹_›)
  · simp

/-- What no source can hold. -/
def isForeign (c : CodePoint) : Bool :=
  c == CodePoint.ofNat 0 || c.isSurrogate

/-- The text of the literal of several lines at the front, and what follows it. -/
def readTripled (named : Text → Option CodePoint) (t : Text) : Option (Text × Text) := do
  let t ← skip tripleMark t
  let (content, rest) ← cutTripled false t
  if content.any isForeign then none
  else
    let value ← evaluate named (unified content)
    return (value, rest)

/-! ### Verbatim texts -/

/-- Whether every backslash in a text stands for itself, whatever comes behind the text. -/
def IsUnescaped (t : Text) : Prop :=
  ∀ c, [('\\' : CodePoint), c] <:+: t → beginsEscape c = false

theorem IsUnescaped.of_infix (h : IsUnescaped t) (hu : u <:+: t) : IsUnescaped u :=
  fun c hc => h c (hc.trans hu)

theorem isUnescaped_cons : IsUnescaped (c :: t) ↔
    (c = '\\' → t.head?.all (fun d => !beginsEscape d) = true) ∧ IsUnescaped t := by
  have hpair (d : CodePoint) :
      [('\\' : CodePoint), d] <+: c :: t ↔ c = '\\' ∧ t.head? = some d := by
    cases t <;> simp [List.cons_prefix_cons, eq_comm]
  constructor
  · intro h
    refine ⟨fun hc => ?_, h.of_infix (List.suffix_cons c t).isInfix⟩
    cases hhead : t.head? with
    | none => rfl
    | some d => simp [h d ((hpair d).mpr ⟨hc, hhead⟩).isInfix]
  · rintro ⟨hescape, ht⟩ d hd
    rcases List.infix_cons_iff.mp hd with hd | hd
    · obtain ⟨hc, hhead⟩ := (hpair d).mp hd
      simpa [hhead] using hescape hc
    · exact ht d hd

theorem isUnescaped_cons_of_ne (hc : c ≠ '\\') : IsUnescaped (c :: t) ↔ IsUnescaped t := by
  simp [isUnescaped_cons, hc]

theorem isUnescaped_pair :
    IsUnescaped (('\\' : CodePoint) :: c :: t) ↔ beginsEscape c = false ∧ IsUnescaped t := by
  have hne (hc : beginsEscape c = false) : c ≠ '\\' := by
    rintro rfl
    exact absurd hc (by decide)
  rw [isUnescaped_cons]
  constructor
  · rintro ⟨hescape, ht⟩
    have hc : beginsEscape c = false := by simpa using hescape rfl
    exact ⟨hc, (isUnescaped_cons_of_ne (hne hc)).mp ht⟩
  · rintro ⟨hc, ht⟩
    exact ⟨fun _ => by simp [hc], (isUnescaped_cons_of_ne (hne hc)).mpr ht⟩

/-- A text that stands for itself between three marks: it holds nothing that no source can hold and
no line end that is read as another, no backslash in it begins an escape, and no three marks in it
stand in a row. -/
structure IsVerbatim (t : Text) : Prop where
  allowed : ∀ c ∈ t, isForeign c = false ∧ c ≠ '\r'
  unescaped : IsUnescaped t
  unclosed : ¬ tripleMark <:+: t

theorem isVerbatim_nil : IsVerbatim [] where
  allowed := by simp
  unescaped := by simp [IsUnescaped]
  unclosed := by decide

theorem isVerbatim_cons : IsVerbatim (c :: t) ↔
    (isForeign c = false ∧ c ≠ '\r') ∧
      (c = '\\' → t.head?.all (fun d => !beginsEscape d) = true) ∧
      ¬ tripleMark <+: c :: t ∧ IsVerbatim t := by
  constructor
  · rintro ⟨hallowed, hunescaped, hunclosed⟩
    rw [List.forall_mem_cons] at hallowed
    rw [isUnescaped_cons] at hunescaped
    rw [List.infix_cons_iff, not_or] at hunclosed
    exact ⟨hallowed.1, hunescaped.1, hunclosed.1, hallowed.2, hunescaped.2, hunclosed.2⟩
  · rintro ⟨hc, hescape, hclose, ht⟩
    refine ⟨List.forall_mem_cons.mpr ⟨hc, ht.allowed⟩,
      isUnescaped_cons.mpr ⟨hescape, ht.unescaped⟩, ?_⟩
    rw [List.infix_cons_iff, not_or]
    exact ⟨hclose, ht.unclosed⟩

/-! ### Verbatim texts in a row -/

/-- What is verbatim wherever it stands, unless a backslash is before it. -/
def isPlainChar (c : CodePoint) : Bool :=
  !isForeign c && c != '\r' && c != '\\' && c != '"'

/-- Whether a text is made of plain code points and begins with one that begins no escape, so that
it keeps apart what it stands between. -/
def keepsApart (t : Text) : Bool :=
  t.all isPlainChar && t.head?.any fun c => !beginsEscape c

theorem not_prefix_of_ne (h : c ≠ '"') (t : Text) : ¬ tripleMark <+: c :: t := by
  intro hbegins
  exact h (List.cons_prefix_cons.mp hbegins).1.symm

theorem isPlainChar_iff : isPlainChar c = true ↔
    (isForeign c = false ∧ c ≠ '\r') ∧ c ≠ '\\' ∧ c ≠ '"' := by
  simp [isPlainChar, and_assoc]

theorem isVerbatim_cons_plain (h : isPlainChar c = true) :
    IsVerbatim (c :: t) ↔ IsVerbatim t := by
  obtain ⟨hallowed, hescape, hmark⟩ := isPlainChar_iff.mp h
  simp [isVerbatim_cons, hallowed, hescape, not_prefix_of_ne hmark]

theorem isVerbatim_plain_append (h : ∀ c ∈ x, isPlainChar c = true) :
    IsVerbatim (x ++ t) ↔ IsVerbatim t := by
  induction x with
  | nil => rfl
  | cons c x ih =>
    rw [List.forall_mem_cons] at h
    rw [List.cons_append, isVerbatim_cons_plain h.1, ih h.2]

theorem isVerbatim_of_plain (h : ∀ c ∈ x, isPlainChar c = true) : IsVerbatim x := by
  rw [← List.append_nil x, isVerbatim_plain_append h]
  exact isVerbatim_nil

theorem prefix_append_cons_iff (hd : d ∉ w) : w <+: x ++ d :: t ↔ w <+: x := by
  constructor
  · intro h
    rcases Nat.lt_or_ge x.length w.length with hlonger | hshorter
    · have hinside : x ++ [d] <+: w := by
        apply List.prefix_of_prefix_length_le _ h (by simpa using hlonger)
        exact ⟨t, by simp⟩
      exact absurd (hinside.subset (by simp)) hd
    · exact List.prefix_of_prefix_length_le h (List.prefix_append _ _) hshorter
  · exact fun h => h.trans (List.prefix_append _ _)

theorem isVerbatim_append_cons (hescape : beginsEscape d = false) (hmark : d ≠ '"') :
    IsVerbatim (x ++ d :: t) ↔ IsVerbatim x ∧ IsVerbatim (d :: t) := by
  have hapart : d ∉ tripleMark := by simpa [tripleMark] using hmark
  induction x with
  | nil => simp [isVerbatim_nil]
  | cons c x ih =>
    have hhead : (x ++ d :: t).head?.all (fun e => !beginsEscape e) =
        x.head?.all fun e => !beginsEscape e := by
      cases x <;> simp [hescape]
    have hclose := prefix_append_cons_iff (x := c :: x) (t := t) hapart
    have hwhole := isVerbatim_cons (c := c) (t := x ++ d :: t)
    rw [hhead, ← List.cons_append, hclose] at hwhole
    rw [hwhole, isVerbatim_cons (c := c) (t := x)]
    tauto

/-- What is kept apart is verbatim exactly if both sides are. -/
theorem isVerbatim_append_apart (h : keepsApart w = true) :
    IsVerbatim (x ++ (w ++ t)) ↔ IsVerbatim x ∧ IsVerbatim t := by
  simp only [keepsApart, Bool.and_eq_true, List.all_eq_true] at h
  obtain ⟨hplain, hhead⟩ := h
  cases w with
  | nil => exact absurd hhead (by simp)
  | cons d w =>
    have hd := (isPlainChar_iff.mp (hplain d List.mem_cons_self)).2.2
    rw [List.cons_append, isVerbatim_append_cons (by simpa using hhead) hd, ← List.cons_append,
      isVerbatim_plain_append hplain]

/-! ### Reading back -/

/-- A text that does not hold three marks in a row, and does not end in one or in a backslash, is
cut off whole. -/
theorem cutTripled_append (hopen : ¬ tripleMark <:+: u) (hmark : d ≠ '"') (hescape : d ≠ '\\')
    (escaped : Bool) (rest : Text) :
    cutTripled escaped (u ++ d :: (tripleMark ++ rest)) = some (u ++ [d], rest) := by
  induction u generalizing escaped with
  | nil =>
    have hlast : cutTripled false (tripleMark ++ rest) = some ([], rest) := by
      have hne : ('"' : CodePoint) ≠ '\\' := by decide
      simp [tripleMark, cutTripled, Text.startsWith, List.isPrefixOf, hne]
    cases escaped with
    | true => simp [cutTripled, hlast]
    | false =>
      have hstart : Text.startsWith (d :: (tripleMark ++ rest)) tripleMark = false := by
        simpa [Text.startsWith, ← Bool.not_eq_true] using not_prefix_of_ne hmark _
      simp [cutTripled, hescape, hstart, hlast]
  | cons c u ih =>
    have hrest := ih fun h => hopen (h.trans (List.suffix_cons c u).isInfix)
    cases escaped with
    | true => simp [cutTripled, hrest]
    | false =>
      have hstart : Text.startsWith (c :: (u ++ d :: (tripleMark ++ rest))) tripleMark = false := by
        rw [← Bool.not_eq_true, Text.startsWith, List.isPrefixOf_iff_prefix, ← List.cons_append,
          prefix_append_cons_iff (by simpa [tripleMark] using hmark)]
        exact fun h => hopen h.isInfix
      by_cases hc : c = '\\'
      · simp [cutTripled, hc, hrest]
      · simp [cutTripled, hc, hstart, hrest]

theorem eq_append_of_cutTripled {escaped : Bool} (h : cutTripled escaped t = some (x, rest)) :
    t = x ++ (tripleMark ++ rest) := by
  have hstep {escaped : Bool} {c : CodePoint} {t x : Text}
      (ih : ∀ {x}, cutTripled escaped t = some (x, rest) → t = x ++ (tripleMark ++ rest))
      (h : ((cutTripled escaped t).map fun e => (c :: e.1, e.2)) = some (x, rest)) :
      c :: t = x ++ (tripleMark ++ rest) := by
    obtain ⟨⟨y, _⟩, hy, heq⟩ := Option.map_eq_some_iff.mp h
    obtain ⟨rfl, rfl⟩ := Prod.mk.inj heq
    rw [List.cons_append, ← ih hy]
  induction t generalizing escaped x with
  | nil => exact absurd h (by cases escaped <;> simp [cutTripled])
  | cons c t ih =>
    cases escaped with
    | true => exact hstep ih h
    | false =>
      simp only [cutTripled] at h
      split_ifs at h with hescape hstart
      · exact hstep ih h
      · obtain ⟨rfl, rfl⟩ := Prod.mk.inj (Option.some.inj h)
        obtain ⟨u, hu⟩ := List.isPrefixOf_iff_prefix.mp hstart
        rw [← hu]
        simp [tripleMark] at hu ⊢
        simp [← hu.2]
      · exact hstep ih h

/-- Where no backslash begins an escape, three marks in a row end the literal. -/
theorem unclosed_of_cutTripled {escaped : Bool} (hunescaped : IsUnescaped t)
    (hhead : escaped = true → t.head? ≠ some '"')
    (h : cutTripled escaped (t ++ w) = some (x, rest)) (ht : t <+: x) : ¬ tripleMark <:+: t := by
  induction t generalizing escaped x with
  | nil => decide
  | cons c t ih =>
    have hstep {next : Bool} (hfirst : ¬ tripleMark <+: c :: t)
        (hnext : next = true → t.head? ≠ some '"')
        (h : ((cutTripled next (t ++ w)).map fun e => (c :: e.1, e.2)) = some (x, rest)) :
        ¬ tripleMark <:+: c :: t := by
      obtain ⟨⟨y, _⟩, hy, heq⟩ := Option.map_eq_some_iff.mp h
      obtain ⟨rfl, rfl⟩ := Prod.mk.inj heq
      rw [List.infix_cons_iff, not_or]
      exact ⟨hfirst,
        ih (isUnescaped_cons.mp hunescaped).2 hnext hy (List.cons_prefix_cons.mp ht).2⟩
    cases escaped with
    | true =>
      have hc : c ≠ '"' := by simpa using hhead rfl
      exact hstep (not_prefix_of_ne hc t) (by simp) h
    | false =>
      simp only [List.cons_append, cutTripled] at h
      split_ifs at h with hescape hstart
      · subst hescape
        refine hstep (not_prefix_of_ne (by decide) t) ?_ h
        intro _ hmark
        have hnone := (isUnescaped_cons.mp hunescaped).1 rfl
        rw [hmark] at hnone
        exact absurd hnone (by decide)
      · obtain ⟨rfl, _⟩ := Prod.mk.inj (Option.some.inj h)
        exact absurd ht (by simp)
      · refine hstep ?_ (by simp) h
        intro hbegins
        exact hstart (List.isPrefixOf_iff_prefix.mpr
          (hbegins.trans (List.prefix_append (c :: t) w)))

theorem evaluate_cons_of_ne (hc : c ≠ '\\') (t : Text) :
    evaluate named (c :: t) = (evaluate named t).map fun v => c :: v := by
  rw [evaluate, if_neg hc]

theorem evaluate_escape (t : Text) : evaluate named (('\\' : CodePoint) :: t) =
    (unescapeTripled named t).bind fun e => (evaluate named e.2).map fun v => e.1 ++ v := by
  rw [evaluate, if_pos rfl]
  split
  next hnone => rw [hnone, Option.bind_none]
  next hsome => rw [hsome, Option.bind_some]

/-- What is evaluated does not grow, and only what holds no escape keeps its length. -/
theorem evaluate_length (h : evaluate named t = some v) :
    v.length ≤ t.length ∧ (v.length = t.length → v = t ∧ IsUnescaped t) := by
  induction hn : t.length using Nat.strong_induction_on generalizing t v with
  | _ n ih =>
    subst hn
    cases t with
    | nil =>
      rw [evaluate] at h
      obtain rfl := Option.some.inj h
      simp [IsUnescaped]
    | cons c t =>
      rw [List.length_cons]
      by_cases hc : c = '\\'
      · rw [hc, evaluate_escape] at h
        obtain ⟨⟨read, rest⟩, hread, h⟩ := Option.bind_eq_some_iff.mp h
        obtain ⟨v, hv, rfl⟩ := Option.map_eq_some_iff.mp h
        have hshorter := unescapeTripled_length hread
        obtain ⟨hlength, hkept⟩ := ih rest.length (Nat.lt_succ_of_le hshorter) hv rfl
        simp only [List.length_append]
        rcases unescapeTripled_cases hread with hshrinks | ⟨d, hd, rfl, rfl⟩
        · exact ⟨by omega, fun heq => by omega⟩
        · simp only [List.length_cons, List.length_nil]
          refine ⟨by omega, fun heq => ?_⟩
          obtain ⟨rfl, hunescaped⟩ := hkept (by omega)
          exact ⟨by rw [hc]; rfl, hc ▸ isUnescaped_pair.mpr ⟨hd, hunescaped⟩⟩
      · rw [evaluate_cons_of_ne hc] at h
        obtain ⟨v, hv, rfl⟩ := Option.map_eq_some_iff.mp h
        obtain ⟨hlength, hkept⟩ := ih t.length (Nat.lt_succ_self _) hv rfl
        rw [List.length_cons]
        refine ⟨by omega, fun heq => ?_⟩
        obtain ⟨rfl, hunescaped⟩ := hkept (by omega)
        exact ⟨rfl, (isUnescaped_cons_of_ne hc).mpr hunescaped⟩

theorem isBarred_of_unescaped (hallowed : isForeign c = false ∧ c ≠ '\r')
    (hescape : beginsEscape c = false) : isBarred c = false := by
  have hline : c ≠ '\n' := by
    rintro rfl
    exact absurd hescape (by decide)
  have hforeign := hallowed.1
  simp only [isForeign, Bool.or_eq_false_iff] at hforeign
  simp [isBarred, hforeign.1, hline, hallowed.2]

/-- A text without escapes that does not end in a backslash evaluates to itself. -/
theorem evaluate_eq_self (hallowed : ∀ c ∈ t, isForeign c = false ∧ c ≠ '\r')
    (hunescaped : IsUnescaped t) (hlast : t.getLast? ≠ some '\\') :
    evaluate named t = some t := by
  induction hn : t.length using Nat.strong_induction_on generalizing t with
  | _ n ih =>
    subst hn
    cases t with
    | nil => rw [evaluate]
    | cons c t =>
      have htail {u : Text} (hu : u <:+ t) : evaluate named u = some u := by
        by_cases hne : u = []
        · rw [hne, evaluate]
        have hinside := hu.trans (List.suffix_cons c t)
        refine ih u.length (Nat.lt_succ_of_le hu.length_le)
          (fun d hd => hallowed d (hinside.subset hd)) (hunescaped.of_infix hinside.isInfix) ?_ rfl
        obtain ⟨x, hx⟩ := hinside
        rwa [← hx, List.getLast?_append_of_ne_nil _ hne] at hlast
      by_cases hc : c = '\\'
      · subst hc
        cases t with
        | nil => exact absurd rfl hlast
        | cons d t =>
          have hd := (isUnescaped_pair.mp hunescaped).1
          have hbarred := isBarred_of_unescaped (hallowed d (by simp)) hd
          rw [evaluate_escape, unescapeTripled_plain hd hbarred, Option.bind_some,
            htail (List.suffix_cons d t)]
          rfl
      · rw [evaluate_cons_of_ne hc, htail List.suffix_rfl]
        rfl

theorem unified_cons_return (t : Text) : ∃ u : Text, u.length ≤ t.length ∧
    unified (('\r' : CodePoint) :: t) = ('\n' : CodePoint) :: unified u := by
  cases t with
  | nil => exact ⟨[], Nat.le_refl _, by simp [unified]⟩
  | cons d t =>
    by_cases hd : d = '\n'
    · exact ⟨t, by simp, by simp [unified, hd]⟩
    · exact ⟨d :: t, Nat.le_refl _, by simp [unified, hd]⟩

theorem unified_cons (hc : c ≠ '\r') (t : Text) : unified (c :: t) = c :: unified t := by
  cases t <;> simp [unified, hc]

theorem unified_spec (t : Text) :
    (unified t).length ≤ t.length ∧ ('\r' : CodePoint) ∉ unified t ∧
      (('\r' : CodePoint) ∉ t → unified t = t) := by
  induction hn : t.length using Nat.strong_induction_on generalizing t with
  | _ n ih =>
    subst hn
    cases t with
    | nil => simp [unified]
    | cons c t =>
      by_cases hc : c = '\r'
      · subst hc
        obtain ⟨u, hu, heq⟩ := unified_cons_return t
        obtain ⟨hlength, hreturn, _⟩ := ih u.length (Nat.lt_succ_of_le hu) u rfl
        rw [heq]
        refine ⟨by simp only [List.length_cons]; omega, ?_, by simp⟩
        rw [List.mem_cons, not_or]
        exact ⟨by decide, hreturn⟩
      · obtain ⟨hlength, hreturn, hself⟩ := ih t.length (by simp) t rfl
        rw [unified_cons hc]
        refine ⟨by simp only [List.length_cons]; omega, ?_, fun h => ?_⟩
        · rw [List.mem_cons, not_or]
          exact ⟨Ne.symm hc, hreturn⟩
        · rw [hself fun hmem => h (List.mem_cons_of_mem c hmem)]

theorem readTripled_eq_some_iff : readTripled named (tripled t ++ rest) = some (v, w) ↔
    ∃ content, cutTripled false (t ++ (tripleMark ++ rest)) = some (content, w) ∧
      content.any isForeign = false ∧ evaluate named (unified content) = some v := by
  rw [tripled, List.append_assoc, List.append_assoc, readTripled, skip_append]
  simp only [Option.bind_eq_bind, Option.bind_some, Option.bind_eq_some_iff, Prod.exists]
  constructor
  · rintro ⟨content, rest', hcut, h⟩
    split_ifs at h with hforeign
    obtain ⟨value, hvalue, heq⟩ := Option.bind_eq_some_iff.mp h
    obtain ⟨rfl, rfl⟩ := Prod.mk.inj (Option.some.inj heq)
    exact ⟨content, hcut, by simpa using hforeign, hvalue⟩
  · rintro ⟨content, hcut, hforeign, hvalue⟩
    exact ⟨content, w, hcut, by simp [hforeign, hvalue]⟩

/-- What is put between three marks each reads back as it is exactly if it is verbatim, where its
end leads no mark and no backslash to the closing marks. -/
theorem readTripled_tripled_iff (ht : t = u ++ [d]) (hmark : d ≠ '"') (hescape : d ≠ '\\')
    (rest : Text) :
    readTripled named (tripled t ++ rest) = some (t, rest) ↔ IsVerbatim t := by
  rw [readTripled_eq_some_iff]
  constructor
  · rintro ⟨content, hcut, hforeign, hvalue⟩
    obtain rfl : t = content := List.append_cancel_right (eq_append_of_cutTripled hcut)
    obtain ⟨hlength, hreturn, _⟩ := unified_spec t
    obtain ⟨hle, hkept⟩ := evaluate_length hvalue
    obtain ⟨hself, hunescaped⟩ := hkept (Nat.le_antisymm hle hlength)
    rw [← hself] at hreturn hunescaped
    refine ⟨fun c hc => ⟨?_, ?_⟩, hunescaped, ?_⟩
    · rw [List.any_eq_false] at hforeign
      simpa using hforeign c hc
    · rintro rfl
      exact hreturn hc
    · exact unclosed_of_cutTripled hunescaped (by simp) hcut (List.prefix_refl t)
  · intro h
    refine ⟨t, ?_, ?_, ?_⟩
    · have hopen : ¬ tripleMark <:+: u := by
        intro hu
        exact h.unclosed (hu.trans (ht ▸ (List.prefix_append u [d]).isInfix))
      rw [ht, List.append_assoc]
      exact cutTripled_append hopen hmark hescape false rest
    · rw [List.any_eq_false]
      intro c hc
      simp [(h.allowed c hc).1]
    · have hreturn : ('\r' : CodePoint) ∉ t := fun hmem => (h.allowed _ hmem).2 rfl
      rw [(unified_spec t).2.2 hreturn]
      exact evaluate_eq_self h.allowed h.unescaped (by simp [ht, hescape])

end Phrasebook.Source
