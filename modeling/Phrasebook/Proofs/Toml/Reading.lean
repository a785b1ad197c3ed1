import Mathlib
import Phrasebook.Toml.Reader

/-! What the readers of a document may make of it. Each leaves an end of what it is given, and what
it cannot bear stands there: an integer of too many digits, or more open brackets than there is room
for. -/

namespace Phrasebook.Toml

variable {α β : Type} {room n : Nat} {cs rest rest' : List Char} {fault : Fault}
  {left : α → List Char} {left' : β → List Char}

/-! ### Faults and what is left -/

/-- A text with a stretch of digits and underscores that has `n` digits. -/
def HasDigits (n : Nat) (cs : List Char) : Prop :=
  ∃ run, run <:+: cs ∧ run.countP Char.isDigit = n ∧ ∀ c ∈ run, c.isDigit = true ∨ c = '_'

/-- What the brackets that could open arrays and inline tables weigh together. -/
def weight (cs : List Char) : Nat :=
  arrayWeight * cs.count '[' + inlineTableWeight * cs.count '\x7b'

/-- Whether a text can be the reason of a fault where there is room for some weight. -/
def Fault.Shown (room : Nat) (cs : List Char) : Fault → Prop
  | .misplaced _ _ => True
  | .oversized n => Numeral.maxDigits < n ∧ HasDigits n cs
  | .tooDeep => room < weight cs

/-- An outcome of reading a text of which something is left. -/
structure Keeps (room : Nat) (cs : List Char) (left : α → List Char) (o : Except Fault α) :
    Prop where
  ends : ∀ a, o = .ok a → left a <:+ cs
  shown : ∀ fault, o = .error fault → fault.Shown room cs

theorem weight_le (h : rest <:+ cs) : weight rest ≤ weight cs := by
  have hsub := h.sublist
  have hsquare := hsub.count_le '['
  have hcurly := hsub.count_le '\x7b'
  unfold weight
  gcongr

theorem Fault.Shown.of_suffix (hshown : fault.Shown room rest) (h : rest <:+ cs) :
    fault.Shown room cs := by
  cases fault with
  | misplaced _ _ => trivial
  | oversized n =>
    obtain ⟨hn, run, hrun, hcount, hdigits⟩ := hshown
    exact ⟨hn, run, hrun.trans h.isInfix, hcount, hdigits⟩
  | tooDeep => exact lt_of_lt_of_le hshown (weight_le h)

theorem Keeps.ok {a : α} (h : left a <:+ cs) : Keeps room cs left (.ok a) where
  ends b hb := by cases hb; exact h
  shown fault hfault := nomatch hfault

theorem Keeps.error (h : fault.Shown room cs) : Keeps room cs left (.error fault) where
  ends a ha := nomatch ha
  shown fault' hfault := by cases hfault; exact h

theorem keeps_fail {complaint : Complaint} {here : List Char} :
    Keeps room cs left (fail complaint here) :=
  .error trivial

theorem Keeps.bind {o : Except Fault α} {f : α → Except Fault β} (h : Keeps room cs left o)
    (hf : ∀ a, left a <:+ cs → Keeps room (left a) left' (f a)) :
    Keeps room cs left' (o >>= f) := by
  cases o with
  | error fault => exact .error (h.shown fault rfl)
  | ok a =>
    have hleft := h.ends a rfl
    have hnext := hf a hleft
    exact ⟨fun b hb => (hnext.ends b hb).trans hleft,
      fun fault hfault => (hnext.shown fault hfault).of_suffix hleft⟩

theorem Keeps.map {o : Except Fault α} {f : α → β} (h : Keeps room cs (left' ∘ f) o) :
    Keeps room cs left' (o.map f) := by
  cases o with
  | error fault => exact .error (h.shown fault rfl)
  | ok a => exact .ok (h.ends a rfl)

theorem Keeps.of_suffix {o : Except Fault α} (h : Keeps room rest left o) (hs : rest <:+ cs) :
    Keeps room cs left o where
  ends a ha := (h.ends a ha).trans hs
  shown fault hfault := (h.shown fault hfault).of_suffix hs

/-- An opening bracket takes its weight from the room. -/
theorem Keeps.opened {o : Except Fault α} {w : Nat} {c : Char} (h : Keeps (room - w) rest left o)
    (hweight : weight rest + w = weight (c :: rest)) : Keeps room (c :: rest) left o where
  ends a ha := (h.ends a ha).trans (List.suffix_cons c rest)
  shown fault hfault := by
    have hshown := h.shown fault hfault
    cases fault with
    | misplaced _ _ => trivial
    | oversized n => exact hshown.of_suffix (List.suffix_cons c rest)
    | tooDeep =>
      have hroom : room - w < weight rest := hshown
      show room < weight (c :: rest)
      omega

/-! ### Blanks and comments -/

theorem skipBlanks_suffix (cs : List Char) : skipBlanks cs <:+ cs :=
  List.dropWhile_suffix _

theorem keeps_passOver (barred : Char → Bool) (count : Nat) (cs : List Char) :
    Keeps room cs id (passOver barred count cs) := by
  unfold passOver
  dsimp only
  split
  · exact .ok (List.drop_suffix _ _)
  · exact keeps_fail

theorem keeps_skipComment (cs : List Char) : Keeps room cs id (skipComment cs) := by
  unfold skipComment
  split
  · exact (keeps_passOver _ _ _).of_suffix (List.suffix_cons _ _)
  · exact .ok (List.suffix_refl _)

theorem keeps_skipArrayBlanks (inComment : Bool) (cs : List Char) :
    Keeps room cs id (skipArrayBlanks inComment cs) := by
  induction cs generalizing inComment with
  | nil => exact .ok (List.suffix_refl _)
  | cons c cs ih =>
    have hnext (b : Bool) := (ih b).of_suffix (List.suffix_cons c cs)
    unfold skipArrayBlanks
    split_ifs
    · exact hnext _
    · exact keeps_fail
    · exact hnext _
    · exact hnext _
    · exact hnext _
    · exact .ok (List.suffix_refl _)

/-! ### Texts -/

theorem keeps_readLiteral (ending : List Char) (barred : Char → Bool) (cs : List Char) :
    Keeps room cs Prod.snd (readLiteral ending barred cs) := by
  unfold readLiteral
  split
  · exact keeps_fail
  · exact (keeps_passOver _ _ _).bind fun rest _ => .ok (List.drop_suffix _ _)

theorem keeps_numbered (width : Nat) (cs : List Char) :
    Keeps room cs (fun _ => []) (numbered width cs) := by
  unfold numbered
  dsimp only
  split_ifs
  · exact keeps_fail
  · exact .ok (List.nil_suffix)
  · exact keeps_fail

theorem keeps_readEscape (multiline : Bool) (letter : Char) (more : List Char) :
    Keeps room more (fun _ => []) (readEscape multiline letter more) := by
  unfold readEscape
  split_ifs
  · exact .ok List.nil_suffix
  · exact .ok List.nil_suffix
  · exact (keeps_numbered 4 more).map
  · exact (keeps_numbered 8 more).map
  · split
    · exact .ok List.nil_suffix
    · exact keeps_fail

theorem keeps_readEscaped (multiline : Bool) (passing : Passing) (done : Text) (cs : List Char) :
    Keeps room cs Prod.snd (readEscaped multiline passing done cs) := by
  -- The reader may take three characters at once, so the induction is on the length.
  induction hlength : cs.length using Nat.strong_induction_on generalizing passing done cs with
  | _ n ih =>
    have hnext {rest : List Char} (hs : rest <:+ cs) (hlt : rest.length < cs.length)
        (passing : Passing) (done : Text) :
        Keeps room cs Prod.snd (readEscaped multiline passing done rest) :=
      (ih rest.length (hlength ▸ hlt) passing done rest rfl).of_suffix hs
    cases cs with
    | nil => exact keeps_fail
    | cons c rest =>
      have hrest := hnext (List.suffix_cons c rest) (by simp)
      unfold readEscaped
      split
      · exact hrest _ _
      · split_ifs
        · exact keeps_fail
        · exact .ok (List.suffix_cons c rest)
        · split
          · exact .ok (List.suffix_append [_, _, _] _)
          · exact hrest _ _
        · split
          next => exact keeps_fail
          next letter more =>
            have hmore : more <:+ c :: letter :: more := List.suffix_append [c, letter] more
            split
            next point next _ => exact hnext hmore (by simp) _ _
            next fault hfault =>
              have hshown : fault.Shown room more := (keeps_readEscape ..).shown fault hfault
              exact .error (hshown.of_suffix hmore)
        · exact keeps_fail
        · exact hrest _ _
        · exact keeps_fail
        · exact hrest _ _

theorem readClosingQuotes_suffix (mark : Char) (t : Text) (cs : List Char) :
    (readClosingQuotes mark t cs).2 <:+ cs := by
  unfold readClosingQuotes
  split
  · split_ifs
    · exact List.suffix_append [_, _] _
    · exact List.suffix_cons _ _
    · exact List.suffix_refl _
  · split_ifs
    · exact List.nil_suffix
    · exact List.suffix_refl _
  · exact List.suffix_refl _

theorem skipFirstNewline_suffix (cs : List Char) : skipFirstNewline cs <:+ cs := by
  unfold skipFirstNewline
  split
  · exact List.suffix_cons _ _
  · exact List.suffix_refl _

theorem keeps_readLineText (mark : Char) (cs : List Char) :
    Keeps room cs Prod.snd (readLineText mark cs) := by
  unfold readLineText
  split_ifs
  · exact keeps_readEscaped ..
  · exact keeps_readLiteral ..

theorem keeps_readText (mark : Char) (cs : List Char) :
    Keeps room cs Prod.snd (readText mark cs) := by
  have hbody : skipFirstNewline (cs.drop 2) <:+ cs :=
    (skipFirstNewline_suffix _).trans (List.drop_suffix _ _)
  have hclosing {o : Except Fault (Text × List Char)}
      (ho : Keeps room (skipFirstNewline (cs.drop 2)) Prod.snd o) :
      Keeps room cs Prod.snd (o >>= fun a => .ok (readClosingQuotes mark a.1 a.2)) :=
    (ho.bind fun a _ => .ok (readClosingQuotes_suffix ..)).of_suffix hbody
  unfold readText
  split_ifs
  · exact hclosing (keeps_readEscaped ..)
  · exact hclosing (keeps_readLiteral ..)
  · exact keeps_readLineText ..

/-! ### Keys -/

theorem keeps_readKeyPart (cs : List Char) : Keeps room cs Prod.snd (readKeyPart cs) := by
  unfold readKeyPart
  split
  · exact keeps_fail
  · split_ifs
    · exact .ok (List.dropWhile_suffix _)
    · exact (keeps_readLineText _ _).of_suffix (List.suffix_cons _ _)
    · exact keeps_fail

theorem keeps_readKeyAfter (steps : Nat) (done : List Text) (cs : List Char) :
    Keeps room cs Prod.snd (readKeyAfter steps done cs) := by
  induction steps generalizing done cs with
  | zero => exact keeps_fail
  | succ steps ih =>
    refine (keeps_readKeyPart cs).bind fun ⟨part, rest⟩ _ => ?_
    refine Keeps.of_suffix ?_ (skipBlanks_suffix rest)
    dsimp only
    generalize skipBlanks rest = rest
    split
    · exact (ih _ _).of_suffix ((skipBlanks_suffix _).trans (List.suffix_cons _ _))
    · exact .ok (List.suffix_refl _)

theorem keeps_readAssigned (steps : Nat) (cs : List Char) :
    Keeps room cs Prod.snd (readAssigned steps cs) := by
  refine (keeps_readKeyAfter steps [] cs).bind fun ⟨key, rest⟩ _ => ?_
  dsimp only
  split
  · exact .ok ((skipBlanks_suffix _).trans (List.suffix_cons _ _))
  · exact keeps_fail

/-! ### Dates, times and numbers -/

/-- A result of which an end of the text is left. -/
def Ends (cs : List Char) (left : α → List Char) (o : Option α) : Prop :=
  ∀ a, o = some a → left a <:+ cs

theorem Ends.some {a : α} (h : left a <:+ cs) : Ends cs left (some a) := by
  rintro _ ⟨⟩
  exact h

theorem ends_none : Ends cs left none :=
  fun _ h => nomatch h

theorem Ends.bind {o : Option α} {f : α → Option β} (h : Ends cs left o)
    (hf : ∀ a, Ends (left a) left' (f a)) : Ends cs left' (o >>= f) := by
  cases o with
  | none => exact ends_none
  | some a => exact fun b hb => (hf a b hb).trans (h a rfl)

theorem Ends.getD {o : Option (List Char)} (h : Ends cs id o) : o.getD cs <:+ cs := by
  cases o with
  | none => exact List.suffix_refl _
  | some rest => exact h rest rfl

theorem ends_digitsBetween (count low high : Nat) (cs : List Char) :
    Ends cs Prod.snd (digitsBetween count low high cs) := by
  unfold digitsBetween
  dsimp only
  split_ifs
  · exact .some (List.drop_suffix _ _)
  · exact ends_none

theorem ends_skipMark (marks cs : List Char) : Ends cs id (skipMark marks cs) := by
  unfold skipMark
  split
  · split_ifs
    · exact .some (List.suffix_cons _ _)
    · exact ends_none
  · exact ends_none

theorem ends_skipTime (cs : List Char) : Ends cs id (skipTime cs) := by
  refine (ends_digitsBetween 2 0 23 cs).bind fun ⟨_, cs⟩ => ?_
  refine (ends_skipMark [':'] cs).bind fun cs => ?_
  refine (ends_digitsBetween 2 0 59 cs).bind fun ⟨_, cs⟩ => ?_
  refine (ends_skipMark [':'] cs).bind fun cs => ?_
  refine (ends_digitsBetween 2 0 59 cs).bind fun ⟨_, cs⟩ => ?_
  dsimp only
  split
  · split_ifs
    · exact .some ((List.dropWhile_suffix _).trans (List.suffix_append [_, _] _))
    · exact .some (List.suffix_refl _)
  · exact .some (List.suffix_refl _)

theorem skipOffset_suffix (cs : List Char) : skipOffset cs <:+ cs := by
  unfold skipOffset
  split
  · next rest h => exact ends_skipMark _ _ rest h
  · apply Ends.getD
    refine (ends_skipMark ['+', '-'] cs).bind fun cs => ?_
    refine (ends_digitsBetween 2 0 23 cs).bind fun ⟨_, cs⟩ => ?_
    refine (ends_skipMark [':'] cs).bind fun cs => ?_
    exact (ends_digitsBetween 2 0 59 cs).bind fun ⟨_, cs⟩ => .some (List.suffix_refl _)

theorem ends_skipDate (cs : List Char) : Ends cs Prod.snd (skipDate cs) := by
  refine (ends_digitsBetween 4 0 9999 cs).bind fun ⟨_, cs⟩ => ?_
  refine (ends_skipMark ['-'] cs).bind fun cs => ?_
  refine (ends_digitsBetween 2 1 12 cs).bind fun ⟨_, cs⟩ => ?_
  refine (ends_skipMark ['-'] cs).bind fun cs => ?_
  refine (ends_digitsBetween 2 1 31 cs).bind fun ⟨_, cs⟩ => ?_
  dsimp only
  split
  · next rest h =>
    have hrest := ((ends_skipMark ['T', 't', ' '] cs).bind ends_skipTime) rest h
    exact .some ((skipOffset_suffix rest).trans hrest)
  · exact .some (List.suffix_refl _)

/-- A run of digits takes a front of the text that holds them, and underscores besides. -/
theorem digitRun_spec (isDigit : Char → Bool) (digits count : Nat) (cs : List Char) :
    ∃ run, run <+: cs ∧ (∀ c ∈ run, isDigit c = true ∨ c = '_') ∧
      digitRun isDigit digits count cs = (digits + run.countP isDigit, count + run.length) := by
  fun_induction digitRun isDigit digits count cs with
  | case1 | case4 | case5 | case6 => exact ⟨[], List.nil_prefix, by simp⟩
  | case2 digits count c cs hc ih =>
    obtain ⟨run, hrun, hchars, hvalue⟩ := ih
    refine ⟨c :: run, List.cons_prefix_cons.mpr ⟨rfl, hrun⟩,
      List.forall_mem_cons.mpr ⟨.inl hc, hchars⟩, ?_⟩
    rw [hvalue, List.countP_cons_of_pos hc, List.length_cons]
    simp only [Prod.mk.injEq]
    omega
  | case3 digits count u hu hunderscore d cs hd ih =>
    obtain ⟨run, hrun, hchars, hvalue⟩ := ih
    refine ⟨u :: d :: run, by simpa using hrun,
      List.forall_mem_cons.mpr ⟨.inr hunderscore.1, List.forall_mem_cons.mpr ⟨.inl hd, hchars⟩⟩, ?_⟩
    rw [hvalue, List.countP_cons_of_neg hu, List.countP_cons_of_pos hd, List.length_cons,
      List.length_cons]
    simp only [Prod.mk.injEq]
    omega

theorem hasDigits_digitRun (cs : List Char) :
    HasDigits (digitRun Char.isDigit 0 0 cs).1 cs := by
  obtain ⟨run, hrun, hchars, hvalue⟩ := digitRun_spec Char.isDigit 0 0 cs
  exact ⟨run, hrun.isInfix, by simp [hvalue], hchars⟩

theorem keeps_readDecimal? {o : Except Fault (Value × List Char)} (h : readDecimal? cs = some o) :
    Keeps room cs Prod.snd o := by
  have hdrop (i j k : Nat) : ((cs.drop i).drop j).drop k <:+ cs :=
    (List.drop_suffix _ _).trans <| (List.drop_suffix _ _).trans <| List.drop_suffix _ _
  unfold readDecimal? at h
  dsimp only at h
  split at h
  · -- A zero is one digit, so it is not too long.
    rw [if_neg (by decide)] at h
    split_ifs at h with hreal hlong
    · cases h
      exact .ok (hdrop ..)
    · exact absurd hlong (by decide)
    · cases h
      exact .ok (List.drop_suffix _ _)
  · split_ifs at h with hnone hreal hlong
    · cases h
      exact .ok (hdrop ..)
    · cases h
      exact .error ⟨hlong, hasDigits_digitRun cs⟩
    · cases h
      exact .ok (List.drop_suffix _ _)

theorem ends_readBased? (cs : List Char) : Ends cs Prod.snd (readBased? cs) := by
  unfold readBased?
  split
  · split
    · dsimp only
      split_ifs
      · exact ends_none
      · exact .some ((List.drop_suffix _ _).trans (List.suffix_append [_, _] _))
    · exact ends_none
  · exact ends_none

/-- A sign in front is no part of a number. -/
theorem unsigned_suffix (c : Char) (rest : List Char) :
    (if c = '+' ∨ c = '-' then rest else c :: rest) <:+ c :: rest := by
  split_ifs
  · exact List.suffix_cons c rest
  · exact List.suffix_refl _

theorem ends_skipNonFinite (cs : List Char) : Ends cs id (skipNonFinite cs) := by
  unfold skipNonFinite
  dsimp only
  split_ifs
  · refine .some ((List.drop_suffix _ _).trans ?_)
    split
    · exact unsigned_suffix ..
    · exact List.nil_suffix
  · exact ends_none

theorem keeps_readNumber? {o : Except Fault (Value × List Char)} (h : readNumber? cs = some o) :
    Keeps room cs Prod.snd o := by
  unfold readNumber? at h
  split at h
  · next found hfound =>
    cases h
    exact .ok (ends_readBased? cs found hfound)
  · dsimp only at h
    split at h
    · next outcome hdecimal =>
      cases h
      split at hdecimal
      · exact (keeps_readDecimal? hdecimal).of_suffix (unsigned_suffix ..)
      · exact absurd hdecimal (by simp)
    · obtain ⟨rest, hrest, rfl⟩ := Option.map_eq_some_iff.mp h
      exact .ok (ends_skipNonFinite cs rest hrest)

theorem keeps_readUnquoted (cs : List Char) : Keeps room cs Prod.snd (readUnquoted cs) := by
  unfold readUnquoted
  split
  · next rest h => exact .ok (ends_skipDate cs _ h)
  · exact keeps_fail
  · split
    · next rest h => exact .ok (ends_skipTime cs rest h)
    · split
      · next outcome h => exact keeps_readNumber? h
      · exact keeps_fail

/-! ### Values -/

@[simp] theorem weight_cons_square (cs : List Char) :
    weight ('[' :: cs) = weight cs + arrayWeight := by
  simp [weight, Nat.mul_add]
  omega

@[simp] theorem weight_cons_curly (cs : List Char) :
    weight ('\x7b' :: cs) = weight cs + inlineTableWeight := by
  simp [weight, Nat.mul_add]
  omega

variable {steps : Nat}

/-- What the readers of nested values leave where they may take a number of steps. They call each
other with one step less, so they are followed together. -/
structure KeepsNested (steps : Nat) : Prop where
  value : ∀ room cs, Keeps room cs Prod.snd (readValue steps room cs)
  items : ∀ room done cs, Keeps room cs Prod.snd (readItems steps room done cs)
  members : ∀ room closed t cs, Keeps room cs Prod.snd (readMembers steps room closed t cs)

theorem keepsNested_zero : KeepsNested 0 where
  value room cs := by unfold readValue; exact keeps_fail
  items room done cs := by unfold readItems; exact keeps_fail
  members room closed t cs := by unfold readMembers; exact keeps_fail

theorem KeepsNested.value_succ (h : KeepsNested steps) (room : Nat) (cs : List Char) :
    Keeps room cs Prod.snd (readValue (steps + 1) room cs) := by
  unfold readValue
  split
  · exact keeps_fail
  · next c rest =>
    split_ifs with hquote htrue hfalse harray hroom htable hroom
    · have hrest := List.suffix_cons c rest
      refine Keeps.of_suffix ?_ hrest
      exact (keeps_readText c rest).bind fun ⟨t, more⟩ _ => .ok (List.suffix_refl more)
    · exact .ok (List.drop_suffix _ _)
    · exact .ok (List.drop_suffix _ _)
    · subst harray
      refine .error ?_
      show room < weight _
      rw [weight_cons_square]
      omega
    · subst harray
      refine Keeps.opened  ?_ (weight_cons_square rest).symm
      exact (keeps_skipArrayBlanks false rest).bind fun rest _ => h.items ..
    · subst htable
      refine .error ?_
      show room < weight _
      rw [weight_cons_curly]
      omega
    · subst htable
      refine Keeps.opened (w := inlineTableWeight) ?_ (weight_cons_curly rest).symm
      refine Keeps.of_suffix ?_ (skipBlanks_suffix rest)
      generalize skipBlanks rest = rest
      split
      · exact .ok (List.suffix_cons _ _)
      · exact h.members ..
    · exact keeps_readUnquoted _

theorem KeepsNested.items_succ (h : KeepsNested steps) (room : Nat) (done : List Value)
    (cs : List Char) : Keeps room cs Prod.snd (readItems (steps + 1) room done cs) := by
  unfold readItems
  split
  · exact .ok (List.suffix_cons _ _)
  · refine (h.value room cs).bind fun ⟨v, rest⟩ _ => ?_
    refine (keeps_skipArrayBlanks false rest).bind fun rest _ => ?_
    dsimp only [id]
    split
    · exact .ok (List.suffix_cons _ _)
    · refine Keeps.of_suffix ?_ (List.suffix_cons _ _)
      exact (keeps_skipArrayBlanks false _).bind fun more _ => h.items ..
    · exact keeps_fail

theorem KeepsNested.members_succ (h : KeepsNested steps) (room : Nat) (closed : List Key)
    (t : Entries) (cs : List Char) :
    Keeps room cs Prod.snd (readMembers (steps + 1) room closed t cs) := by
  unfold readMembers
  refine (keeps_readAssigned steps cs).bind fun ⟨key, rest⟩ _ => ?_
  refine (h.value room rest).bind fun ⟨v, rest⟩ _ => ?_
  dsimp only
  split
  · exact keeps_fail
  · refine Keeps.of_suffix ?_ (skipBlanks_suffix rest)
    generalize skipBlanks rest = rest
    split
    · exact .ok (List.suffix_cons _ _)
    · exact (h.members ..).of_suffix ((skipBlanks_suffix _).trans (List.suffix_cons _ _))
    · exact keeps_fail

theorem keepsNested (steps : Nat) : KeepsNested steps := by
  induction steps with
  | zero => exact keepsNested_zero
  | succ steps ih => exact ⟨ih.value_succ, ih.items_succ, ih.members_succ⟩

/-! ### Statements -/

theorem keeps_complainAt (cs here : List Char) (o : Except Complaint α) :
    Keeps room cs (fun _ => cs) (complainAt here o) := by
  cases o with
  | ok a => exact .ok (List.suffix_refl _)
  | error complaint => exact keeps_fail

theorem keeps_readStatement (steps : Nat) (p : Progress) (cs : List Char) :
    Keeps maxWeight cs Prod.snd (readStatement steps p cs) := by
  unfold readStatement
  split
  · next rest =>
    have hrest : skipBlanks rest <:+ '[' :: '[' :: rest :=
      (skipBlanks_suffix rest).trans (List.suffix_append ['[', '['] rest)
    refine ((keeps_readKeyAfter steps [] _).bind fun ⟨key, rest⟩ _ => ?_).of_suffix hrest
    refine (keeps_complainAt rest _ _).bind fun p _ => ?_
    split
    · exact .ok (List.suffix_append [_, _] _)
    · exact keeps_fail
  · next rest _ =>
    have hrest : skipBlanks rest <:+ '[' :: rest :=
      (skipBlanks_suffix rest).trans (List.suffix_cons '[' rest)
    refine ((keeps_readKeyAfter steps [] _).bind fun ⟨key, rest⟩ _ => ?_).of_suffix hrest
    refine (keeps_complainAt rest _ _).bind fun p _ => ?_
    split
    · exact .ok (List.suffix_cons _ _)
    · exact keeps_fail
  · exact .ok (List.suffix_refl _)
  · split_ifs
    · refine (keeps_readAssigned steps _).bind fun ⟨key, rest⟩ _ => ?_
      refine ((keepsNested steps).value maxWeight rest).bind fun ⟨v, rest⟩ _ => ?_
      exact (keeps_complainAt rest _ _).bind fun p _ => .ok (List.suffix_refl _)
    · exact keeps_fail
  · exact .ok (List.suffix_refl _)

theorem keeps_readStatements (steps : Nat) (p : Progress) (cs : List Char) :
    Keeps maxWeight cs (fun _ => []) (readStatements steps p cs) := by
  induction steps generalizing p cs with
  | zero => exact .ok List.nil_suffix
  | succ steps ih =>
    unfold readStatements
    refine Keeps.of_suffix ?_ (skipBlanks_suffix cs)
    generalize skipBlanks cs = cs
    split
    · exact .ok List.nil_suffix
    · exact (ih _ _).of_suffix (List.suffix_cons _ _)
    · refine (keeps_readStatement steps p _).bind fun ⟨p, rest⟩ _ => ?_
      refine Keeps.of_suffix ?_ (skipBlanks_suffix rest)
      refine (keeps_skipComment _).bind fun rest _ => ?_
      dsimp only [id]
      split
      · exact .ok List.nil_suffix
      · exact (ih _ _).of_suffix (List.suffix_cons _ _)
      · exact keeps_fail

/-- Reading a document ends in no fault but those that stand in it. -/
theorem shown_of_read {document : List Char} (h : read document = .error fault) :
    fault.Shown maxWeight document :=
  (keeps_readStatements _ _ _).shown fault h

theorem HasDigits.le_length (h : HasDigits n cs) : n ≤ cs.length := by
  obtain ⟨run, hrun, rfl, _⟩ := h
  exact List.countP_le_length.trans hrun.length_le

theorem unifyNewlines_of_notMem (h : '\r' ∉ cs) (done : List Char) :
    unifyNewlines done cs = done.reverse ++ cs := by
  induction cs generalizing done with
  | nil => simp [unifyNewlines]
  | cons c cs ih =>
    rw [List.mem_cons, not_or] at h
    have hc : c ≠ '\r' := Ne.symm h.1
    rw [unifyNewlines, ih h.2]
    · simp
    · exact fun _ hreturn _ => hc hreturn
    · exact hc

/-! ### Long integers -/

/-- A document that gives an integer of `n` digits to a key. -/
def longInteger (n : Nat) : List Char :=
  'x' :: '=' :: List.replicate n '1'

theorem return_notMem_longInteger (n : Nat) : '\r' ∉ longInteger n := by
  simp [longInteger]

theorem digitRun_replicate (n digits count : Nat) :
    digitRun Char.isDigit digits count (List.replicate n '1') = (digits + n, count + n) := by
  induction n generalizing digits count with
  | zero => rfl
  | succ n ih =>
    rw [List.replicate_succ]
    unfold digitRun
    rw [if_pos (by decide), ih]
    simp only [Prod.mk.injEq]
    omega

theorem readDecimal?_replicate (h : Numeral.maxDigits < n + 1) :
    readDecimal? (List.replicate (n + 1) '1') = some (.error (.oversized (n + 1))) := by
  have hrun := digitRun_replicate (n + 1) 0 0
  rw [List.replicate_succ] at hrun ⊢
  simp [readDecimal?, hrun, fractionLength, exponentLength, h]

/-- Five digits begin no date and no time. -/
theorem readUnquoted_replicate (h : Numeral.maxDigits < n + 5) :
    readUnquoted (List.replicate (n + 5) '1') = .error (.oversized (n + 5)) := by
  have hdate : skipDate (List.replicate (n + 5) '1') = none := rfl
  have htime : skipTime (List.replicate (n + 5) '1') = none := rfl
  have hbased : readBased? (List.replicate (n + 5) '1') = none := rfl
  have hdecimal := readDecimal?_replicate h
  have hnumber : readNumber? (List.replicate (n + 5) '1') =
      some (.error (.oversized (n + 5))) := by
    rw [List.replicate_succ] at hbased hdecimal ⊢
    simp [readNumber?, hbased, hdecimal]
  simp only [readUnquoted, hdate, htime, hnumber]

theorem readValue_replicate (h : Numeral.maxDigits < n + 5) (steps room : Nat) :
    readValue (steps + 1) room (List.replicate (n + 5) '1') = .error (.oversized (n + 5)) := by
  have hunquoted := readUnquoted_replicate h
  rw [List.replicate_succ] at hunquoted ⊢
  simpa [readValue] using hunquoted

theorem readAssigned_longInteger (n steps : Nat) :
    readAssigned (steps + 1) (longInteger (n + 1)) = .ok ([['x']], List.replicate (n + 1) '1') :=
  rfl

theorem readStatement_longInteger (h : Numeral.maxDigits < n + 5) (steps : Nat) (p : Progress) :
    readStatement (steps + 1) p (longInteger (n + 5)) = .error (.oversized (n + 5)) := by
  show (readAssigned (steps + 1) (longInteger (n + 5)) >>= _) = _
  rw [readAssigned_longInteger]
  show (readValue (steps + 1) maxWeight (List.replicate (n + 5) '1') >>= _) = _
  rw [readValue_replicate h]
  rfl

/-- An integer with too many digits ends the reading by a fault of its own. -/
theorem read_longInteger (h : Numeral.maxDigits < n + 5) :
    read (longInteger (n + 5)) = .error (.oversized (n + 5)) := by
  show (readStatement _ _ (longInteger (n + 5)) >>= _) = _
  rw [readStatement_longInteger h]
  rfl

end Phrasebook.Toml
