import Mathlib
import Phrasebook.Proofs.ClassNames
import Phrasebook.Proofs.Text.Cut
import Phrasebook.Text.Quoted

/-! Reading emitted source: fixed texts, names and string literals. A literal is one line between
single or double marks, with the escapes of the language, and a quoted text reads back as the text,
whatever it holds. -/

namespace Phrasebook.Source

/-! ### Fixed texts and names -/

/-- What follows a fixed text. -/
def skip (fixed t : Text) : Option Text :=
  if fixed.isPrefixOf t then some (t.drop fixed.length) else none

/-- The name at the front, and what follows it. -/
def readName (t : Text) : Option (Text × Text) :=
  let name := t.takeWhile Identifier.isContinue
  if Identifier.isIdentifier name && !Identifier.isKeyword name then
    some (name, t.dropWhile Identifier.isContinue)
  else none

@[simp] theorem skip_append (fixed rest : Text) : skip fixed (fixed ++ rest) = some rest := by
  simp [skip]

theorem readName_append {name rest : Text} (h : Identifier.IsName name)
    (hrest : Text.EndsRun Identifier.isContinue rest) :
    readName (name ++ rest) = some (name, rest) := by
  have hname : ∀ c ∈ name, Identifier.isContinue c = true :=
    fun c hc => CodePoint.isContinue_of_isNameCodePoint (h.ascii c hc)
  simp only [readName, Text.takeWhile_run hname hrest, Text.dropWhile_run hname hrest,
    h.identifier, h.unreserved]
  rfl

/-! ### Literals -/

def isMark (c : CodePoint) : Bool :=
  c == '\'' || c == '"'

/-- What cannot stand in a literal as it is. -/
def isBarred (c : CodePoint) : Bool :=
  c == CodePoint.ofNat 0 || c == '\n' || c == '\r'

def hexDigit? (c : CodePoint) : Option Nat :=
  if 0x30 ≤ c.val ∧ c.val ≤ 0x39 then some (c.val - 0x30)
  else if 0x61 ≤ c.val ∧ c.val ≤ 0x66 then some (c.val - 0x57)
  else if 0x41 ≤ c.val ∧ c.val ≤ 0x46 then some (c.val - 0x37)
  else none

/-- The number that hexadecimal digits denote behind those that denote `n`. -/
def hexFrom (n : Nat) : Text → Option Nat
  | [] => some n
  | c :: t => (hexDigit? c).bind fun w => hexFrom (16 * n + w) t

/-- The code point that `width` hexadecimal digits number, and what follows them. -/
def readNumber (width : Nat) (t : Text) : Option (Text × Text) :=
  if t.length < width then none
  else match hexFrom 0 (t.take width) with
    | none => none
    | some n => if h : n < 0x110000 then some ([⟨n, h⟩], t.drop width) else none

def isOctal (c : CodePoint) : Bool :=
  decide (0x30 ≤ c.val) && decide (c.val ≤ 0x37)

/-- The code point that up to three octal digits number, and what follows them. -/
def readOctal (t : Text) : Option (Text × Text) :=
  let digits := (t.takeWhile isOctal).take 3
  some ([CodePoint.ofNat (digits.foldl (fun n c => 8 * n + (c.val - 0x30)) 0)],
    t.drop digits.length)

/-- The escapes of one letter or mark. -/
def simpleEscapes : List (CodePoint × CodePoint) :=
  [('\\', '\\'), ('\'', '\''), ('"', '"'), ('a', CodePoint.ofNat 7), ('b', CodePoint.ofNat 8),
    ('t', '\t'), ('n', '\n'), ('v', CodePoint.ofNat 11), ('f', CodePoint.ofNat 12), ('r', '\r')]

/-- What a backslash and what is behind it stand for, and what follows. A backslash that begins no
escape stands for itself. Escapes by the name of a character are not read, nor are broken lines. -/
def unescape : Text → Option (Text × Text)
  | [] => none
  | c :: t =>
    if c = 'x' then readNumber 2 t
    else if c = 'u' then readNumber 4 t
    else if c = 'U' then readNumber 8 t
    else if c = 'N' || isBarred c then none
    else if isOctal c then readOctal (c :: t)
    else match simpleEscapes.lookup c with
      | some d => some ([d], t)
      | none => some (['\\', c], t)

theorem readNumber_length {width : Nat} {t rest read : Text}
    (h : readNumber width t = some (read, rest)) : rest.length ≤ t.length := by
  unfold readNumber at h
  split_ifs at h
  split at h
  · exact absurd h (by simp)
  · split_ifs at h
    obtain ⟨_, rfl⟩ := Prod.mk.inj (Option.some.inj h)
    rw [List.length_drop]
    omega

theorem unescape_length {t rest read : Text} (h : unescape t = some (read, rest)) :
    rest.length ≤ t.length := by
  cases t with
  | nil => exact absurd h (by simp [unescape])
  | cons c t =>
    dsimp only [unescape] at h
    rw [List.length_cons]
    split_ifs at h
    · exact (readNumber_length h).trans (Nat.le_succ _)
    · exact (readNumber_length h).trans (Nat.le_succ _)
    · exact (readNumber_length h).trans (Nat.le_succ _)
    · obtain ⟨_, rfl⟩ := Prod.mk.inj (Option.some.inj h)
      rw [List.length_drop, List.length_cons]
      omega
    · split at h
      · obtain ⟨_, rfl⟩ := Prod.mk.inj (Option.some.inj h)
        exact Nat.le_succ _
      · obtain ⟨_, rfl⟩ := Prod.mk.inj (Option.some.inj h)
        exact Nat.le_succ _

/-- What stands up to the mark, and what follows it. -/
def readBody (mark : CodePoint) : Text → Option (Text × Text)
  | [] => none
  | c :: t =>
    if c = mark then some ([], t)
    else if c = '\\' then
      match _ : unescape t with
      | none => none
      | some (read, rest) => (readBody mark rest).map fun e => (read ++ e.1, e.2)
    else if isBarred c then none
    else (readBody mark t).map fun e => (c :: e.1, e.2)
termination_by t => t.length
decreasing_by
  · exact Nat.lt_succ_of_le (unescape_length ‹_›)
  · simp

/-- The text of the literal at the front, and what follows it. Three marks in a row begin a literal
of several lines, which is not read. -/
def readLiteral : Text → Option (Text × Text)
  | [] => none
  | mark :: t =>
    if !isMark mark || Text.startsWith t [mark, mark] then none else readBody mark t

/-! ### Numbered escapes -/

theorem hexFrom_append (n : Nat) (x y : Text) :
    hexFrom n (x ++ y) = (hexFrom n x).bind fun m => hexFrom m y := by
  induction x generalizing n with
  | nil => rfl
  | cons c x ih =>
    simp only [List.cons_append, hexFrom]
    cases hexDigit? c with
    | none => rfl
    | some w => exact ih (16 * n + w)

theorem hexDigit?_digitChar : ∀ w < 16, hexDigit? (CodePoint.ofChar w.digitChar) = some w := by
  decide

theorem hexFrom_toDigits (n : Nat) : hexFrom 0 (Text.ofChars (Nat.toDigits 16 n)) = some n := by
  induction n using Nat.strong_induction_on with
  | _ n ih =>
    by_cases hn : n < 16
    · rw [Nat.toDigits_of_lt_base hn]
      simp [Text.ofChars, hexFrom, hexDigit?_digitChar n hn]
    · have hdigit := hexDigit?_digitChar (n % 16) (Nat.mod_lt n (by decide))
      rw [Nat.toDigits_of_base_le (by decide) (by omega), Text.ofChars, List.map_append,
        hexFrom_append, ← Text.ofChars, ih (n / 16) (by omega), Option.bind_some]
      simp only [List.map_cons, List.map_nil, hexFrom, hdigit, Option.bind_some]
      rw [Nat.div_add_mod]

theorem hexFrom_zeros (k : Nat) : hexFrom 0 (List.replicate k ('0' : CodePoint)) = some 0 := by
  induction k with
  | zero => rfl
  | succ k ih =>
    rw [List.replicate_succ, hexFrom]
    exact ih

theorem hexFrom_hex (width n : Nat) : hexFrom 0 (Text.hex width n) = some n := by
  rw [Text.hex, hexFrom_append, hexFrom_zeros, Option.bind_some, hexFrom_toDigits]

theorem length_hex {width n : Nat} (hwidth : 0 < width) (h : n < 16 ^ width) :
    (Text.hex width n).length = width := by
  have hle : (Nat.toDigits 16 n).length ≤ width :=
    (Nat.length_toDigits_le_iff (by decide) hwidth).mpr h
  simp only [Text.hex, Text.ofChars, List.length_append, List.length_replicate, List.length_map]
  omega

/-- The digits of a code point's number give the code point. -/
theorem readNumber_hex {width : Nat} (hwidth : 0 < width) {c : CodePoint}
    (h : c.val < 16 ^ width) (rest : Text) :
    readNumber width (Text.hex width c.val ++ rest) = some ([c], rest) := by
  have hlength := length_hex hwidth h
  have htake : (Text.hex width c.val ++ rest).take width = Text.hex width c.val := by
    rw [List.take_append_of_le_length hlength.ge, List.take_of_length_le hlength.le]
  have hdrop : (Text.hex width c.val ++ rest).drop width = rest := by
    rw [List.drop_append_of_le_length hlength.ge, List.drop_of_length_le hlength.le,
      List.nil_append]
  unfold readNumber
  rw [if_neg (by rw [List.length_append]; omega), htake, hexFrom_hex, hdrop]
  simp only
  rw [dif_pos c.isLt]

/-! ### Quoted texts -/

variable {mark : CodePoint}

theorem mark_ne_backslash (hmark : isMark mark = true) : ('\\' : CodePoint) ≠ mark := by
  rintro rfl
  exact absurd hmark (by decide)

theorem readBody_escape (hmark : isMark mark = true) {t read rest : Text}
    (h : unescape t = some (read, rest)) :
    readBody mark ('\\' :: t) = (readBody mark rest).map fun e => (read ++ e.1, e.2) := by
  rw [readBody, if_neg (mark_ne_backslash hmark), if_pos rfl]
  split
  next hnone => exact absurd (h.symm.trans hnone) (by simp)
  next read' rest' hsome =>
    obtain ⟨rfl, rfl⟩ := Prod.mk.inj (Option.some.inj (h.symm.trans hsome))
    rfl

theorem readBody_plain {c : CodePoint} (hmark : c ≠ mark) (hescape : c ≠ '\\')
    (hbarred : isBarred c = false) (t : Text) :
    readBody mark (c :: t) = (readBody mark t).map fun e => (c :: e.1, e.2) := by
  rw [readBody, if_neg hmark, if_neg hescape, hbarred]
  rfl

theorem not_isBarred_of_isPrintable {c : CodePoint} (h : c.isPrintable = true) :
    isBarred c = false := by
  rw [← Bool.not_eq_true]
  intro hbarred
  simp only [isBarred, Bool.or_eq_true, beq_iff_eq] at hbarred
  rcases hbarred with (rfl | rfl) | rfl
  · exact absurd h (by decide +kernel)
  · exact absurd h (by decide +kernel)
  · exact absurd h (by decide +kernel)

theorem unescape_numbered (c : CodePoint) (rest : Text) :
    ∃ t : Text, c.numbered ++ rest = ('\\' : CodePoint) :: t ∧ unescape t = some ([c], rest) := by
  have hnumber (width : Nat) (hwidth : 0 < width) (h : c.val < 16 ^ width) :=
    readNumber_hex hwidth h rest
  unfold CodePoint.numbered
  split_ifs with h8 h16
  · exact ⟨'x' :: (Text.hex 2 c.val ++ rest), rfl, hnumber 2 (by decide) (by omega)⟩
  · exact ⟨'u' :: (Text.hex 4 c.val ++ rest), rfl, hnumber 4 (by decide) (by omega)⟩
  · have := c.isLt
    exact ⟨'U' :: (Text.hex 8 c.val ++ rest), rfl, hnumber 8 (by decide) (by omega)⟩

/-- What stands for a code point between the marks reads back as it. -/
theorem readBody_escaped (hmark : isMark mark = true) (c : CodePoint) (rest : Text) :
    readBody mark (Text.escaped mark c ++ rest) =
      (readBody mark rest).map fun e => (c :: e.1, e.2) := by
  unfold Text.escaped
  split_ifs with hsimple htab hline hreturn hprintable
  · have hself : unescape (c :: rest) = some ([c], rest) := by
      simp only [isMark, Bool.or_eq_true, beq_iff_eq] at hmark
      rcases hsimple with rfl | rfl
      · rcases hmark with rfl | rfl <;> rfl
      · rfl
    exact readBody_escape hmark hself
  · subst htab
    exact readBody_escape hmark (t := 't' :: rest) rfl
  · subst hline
    exact readBody_escape hmark (t := 'n' :: rest) rfl
  · subst hreturn
    exact readBody_escape hmark (t := 'r' :: rest) rfl
  · rw [not_or] at hsimple
    exact readBody_plain hsimple.1 hsimple.2 (not_isBarred_of_isPrintable hprintable) rest
  · obtain ⟨t, ht, hread⟩ := unescape_numbered c rest
    rw [ht]
    exact readBody_escape hmark hread

theorem readBody_flatMap (hmark : isMark mark = true) (t rest : Text) :
    readBody mark (t.flatMap (Text.escaped mark) ++ mark :: rest) = some (t, rest) := by
  induction t with
  | nil =>
    show readBody mark (mark :: rest) = _
    rw [readBody, if_pos rfl]
  | cons c t ih =>
    rw [List.flatMap_cons, List.append_assoc, readBody_escaped hmark, ih]
    rfl

theorem isMark_quoteMark (t : Text) : isMark t.quoteMark = true := by
  unfold Text.quoteMark
  split_ifs <;> rfl

theorem escaped_not_mark (hmark : isMark mark = true) (c : CodePoint) :
    ∃ d t, Text.escaped mark c = d :: t ∧ d ≠ mark := by
  have hbackslash := mark_ne_backslash hmark
  unfold Text.escaped
  split_ifs with hsimple
  · exact ⟨_, _, rfl, hbackslash⟩
  · exact ⟨_, _, rfl, hbackslash⟩
  · exact ⟨_, _, rfl, hbackslash⟩
  · exact ⟨_, _, rfl, hbackslash⟩
  · exact ⟨_, _, rfl, fun h => hsimple (.inl h)⟩
  · obtain ⟨t, ht, _⟩ := unescape_numbered c []
    rw [List.append_nil] at ht
    exact ⟨_, t, ht, hbackslash⟩

/-- A quoted text reads back as the text, if no mark follows it. -/
theorem readLiteral_quoted (t : Text) {rest : Text} (hrest : Text.EndsRun isMark rest) :
    readLiteral (t.quoted ++ rest) = some (t, rest) := by
  have hmark := isMark_quoteMark t
  have heq : t.quoted ++ rest = t.quoteMark ::
      (t.flatMap (Text.escaped t.quoteMark) ++ t.quoteMark :: rest) := by
    simp [Text.quoted]
  have hthree : Text.startsWith (t.flatMap (Text.escaped t.quoteMark) ++ t.quoteMark :: rest)
      [t.quoteMark, t.quoteMark] = false := by
    cases t with
    | nil =>
      cases rest with
      | nil => rfl
      | cons c rest =>
        have hc : isMark c = false := hrest c rfl
        have hne : Text.quoteMark [] ≠ c := by
          rintro rfl
          exact absurd hmark (by simp [hc])
        simp [Text.startsWith, List.isPrefixOf, hne]
    | cons c t =>
      obtain ⟨d, u, hescaped, hne⟩ := escaped_not_mark hmark c
      simp [Text.startsWith, List.isPrefixOf, hescaped, hne.symm]
  rw [heq, readLiteral, hmark, hthree]
  exact readBody_flatMap hmark t rest

end Phrasebook.Source
