import Mathlib
import Phrasebook.Proofs.Json.Literal

/-! Documents made of marks and texts with blanks between them. Reading the tokens of a document
gives marks and texts only if it is made so, and then it gives the tokens of its pieces in order. -/

namespace Phrasebook.Json

/-! ### The grammar -/

def IsBlank (cs : List Char) : Prop :=
  ∀ c ∈ cs, c ∈ [' ', '\t', '\n', '\r']

/-- A document that is made of pieces, with blanks before, between and after them. -/
inductive Spaced : List (List Char) → List Char → Prop
  | nil {blank : List Char} (hblank : IsBlank blank) : Spaced [] blank
  | cons {blank piece cs : List Char} {pieces : List (List Char)} (hblank : IsBlank blank)
      (h : Spaced pieces cs) : Spaced (piece :: pieces) (blank ++ (piece ++ cs))

theorem isBlank_nil : IsBlank [] := by
  simp [IsBlank]

theorem Spaced.cons_tight {piece cs : List Char} {pieces : List (List Char)}
    (h : Spaced pieces cs) : Spaced (piece :: pieces) (piece ++ cs) :=
  .cons isBlank_nil h

/-- The marks of an object. -/
def marks : List (Char × Token) :=
  [('\x7b', .openBrace), ('\x7d', .closeBrace), (',', .comma), (':', .colon)]

/-- A piece that is written as a mark or a text. -/
inductive Spells : List Char → Token → Prop
  | mark {c : Char} {t : Token} (h : (c, t) ∈ marks) : Spells [c] t
  | text {cs : List Char} {t : Text} (h : Literal cs t) : Spells cs (.text t)

/-- A mark of an object, or a text. -/
def IsPlain (t : Token) : Prop :=
  (∃ c, (c, t) ∈ marks) ∨ ∃ x, t = .text x

/-! ### One token -/

section OneToken

variable {c : Char} {rest more : List Char} {t : Token}

theorem not_isPlain_word (h : word? c rest = some (t, more)) : ¬IsPlain t := by
  have hwords {c : Char} {letters : List Char} {token : Token}
      (h : words c = some (letters, token)) : ¬IsPlain token := by
    unfold words at h
    split at h
    case h_7 => exact absurd h (by simp)
    all_goals
      obtain ⟨-, rfl⟩ := Prod.mk.inj (Option.some.inj h)
      simp [IsPlain, marks]
  unfold word? at h
  split at h
  next letters token hletters =>
    split_ifs at h
    obtain ⟨rfl, -⟩ := Prod.mk.inj (Option.some.inj h)
    exact hwords hletters
  next => exact absurd h (by simp)

theorem not_isPlain_number {negative : Bool} (h : number? negative rest = some (t, more)) :
    ¬IsPlain t := by
  simp only [number?] at h
  split_ifs at h
  all_goals
    obtain ⟨rfl, -⟩ := Prod.mk.inj (Option.some.inj h)
    simp [IsPlain, marks]

/-- A token that is a mark or a text is read from a piece that spells it. -/
theorem spells_of_nextToken (h : nextToken c rest = (t, more)) (ht : IsPlain t) :
    ∃ piece, Spells piece t ∧ c :: rest = piece ++ more := by
  have hmark {c' : Char} {t' : Token} (hc : (c', t') ∈ marks) (h : (t', rest) = (t, more)) :
      ∃ piece, Spells piece t ∧ c' :: rest = piece ++ more := by
    obtain ⟨rfl, rfl⟩ := Prod.mk.inj h
    exact ⟨_, .mark hc, rfl⟩
  have hother {t' : Token} (ht' : ¬IsPlain t') (h : (t', rest) = (t, more)) : False := by
    obtain ⟨rfl, rfl⟩ := Prod.mk.inj h
    exact ht' ht
  unfold nextToken at h
  split at h
  case h_1 | h_2 | h_5 | h_6 => exact hmark (by decide) h
  case h_3 | h_4 => exact (hother (by simp [IsPlain, marks]) h).elim
  case h_7 =>
    have htext : ∃ x, t = .text x := by
      unfold textToken at h
      split at h
      · exact ⟨_, (Prod.mk.inj h).1.symm⟩
      · obtain ⟨rfl, -⟩ := Prod.mk.inj h
        exact absurd ht (by simp [IsPlain, marks])
    obtain ⟨x, rfl⟩ := htext
    obtain ⟨body, hbody, rfl⟩ := textToken_eq.mp h
    exact ⟨_, .text ⟨body, hbody, rfl⟩, by simp⟩
  case h_8 =>
    split at h
    next hword =>
      exact absurd ht (not_isPlain_word (hword.trans (congrArg some h)))
    next =>
      split at h
      next hnumber =>
        rw [h] at hnumber
        split_ifs at hnumber
        · exact absurd ht (not_isPlain_number hnumber)
        · exact absurd ht (not_isPlain_number hnumber)
      next => exact (hother (by simp [IsPlain, marks]) h).elim

/-- A piece is read as the token that it spells, whatever follows it. -/
theorem nextToken_of_spells {piece : List Char} (h : Spells piece t) :
    ∃ c rest, piece = c :: rest ∧ isSpace c = false ∧
      ∀ more, nextToken c (rest ++ more) = (t, more) := by
  cases h with
  | @mark c _ h =>
    have hall : ∀ p ∈ marks, isSpace p.1 = false := by decide
    refine ⟨c, [], rfl, hall _ h, fun more => ?_⟩
    simp only [marks, List.mem_cons, Prod.mk.injEq, List.not_mem_nil, or_false] at h
    obtain ⟨rfl, rfl⟩ | ⟨rfl, rfl⟩ | ⟨rfl, rfl⟩ | ⟨rfl, rfl⟩ := h <;> rfl
  | text h =>
    obtain ⟨body, hbody, rfl⟩ := h
    refine ⟨'"', body ++ ['"'], rfl, by decide, fun more => ?_⟩
    exact textToken_eq.mpr ⟨body, hbody, by simp⟩

end OneToken

/-! ### All tokens -/

/-- The tokens of a document in order. -/
def tokens (document : List Char) : List Token :=
  (lexemes document).map (·.token)

/-- What is read already stands before what is read from here on. -/
theorem lexemesAfter_eq (done : List Lexeme) (cs : List Char) :
    lexemesAfter done cs = done.reverse ++ lexemes cs := by
  -- A token may take any number of characters, so the induction is on the length of what is left.
  induction hlength : cs.length using Nat.strong_induction_on generalizing done cs with
  | h n ih =>
    cases cs with
    | nil => simp [lexemes, lexemesAfter]
    | cons c rest =>
      rw [List.length_cons] at hlength
      rw [lexemes, lexemesAfter, lexemesAfter]
      by_cases hspace : isSpace c = true
      · rw [if_pos hspace, if_pos hspace, ih rest.length (by omega) _ _ rfl, lexemes]
      · have hmore := length_nextToken_le c rest
        rw [if_neg hspace, if_neg hspace, ih _ (by omega) _ _ rfl, ih _ (by omega) [_] _ rfl]
        simp

theorem lexemes_blank {c : Char} (h : isSpace c = true) (rest : List Char) :
    lexemes (c :: rest) = lexemes rest := by
  rw [lexemes, lexemesAfter, if_pos h]
  rfl

theorem lexemes_cons {c : Char} (h : isSpace c = false) (rest : List Char) :
    lexemes (c :: rest) = ⟨(nextToken c rest).1, c :: rest⟩ :: lexemes (nextToken c rest).2 := by
  rw [lexemes, lexemesAfter, if_neg (by simp [h]), lexemesAfter_eq]
  rfl

theorem tokens_nil : tokens [] = [] := by
  simp [tokens, lexemes, lexemesAfter]

theorem tokens_blank {c : Char} (h : isSpace c = true) (rest : List Char) :
    tokens (c :: rest) = tokens rest := by
  rw [tokens, lexemes_blank h, tokens]

theorem tokens_cons {c : Char} (h : isSpace c = false) (rest : List Char) :
    tokens (c :: rest) = (nextToken c rest).1 :: tokens (nextToken c rest).2 := by
  rw [tokens, lexemes_cons h, List.map_cons, tokens]

theorem isSpace_iff {c : Char} : isSpace c = true ↔ c ∈ [' ', '\t', '\n', '\r'] := by
  simp [isSpace, or_assoc]

theorem tokens_append_of_isBlank {blank : List Char} (h : IsBlank blank) (cs : List Char) :
    tokens (blank ++ cs) = tokens cs := by
  induction blank with
  | nil => rfl
  | cons c blank ih =>
    rw [IsBlank, List.forall_mem_cons] at h
    rw [List.cons_append, tokens_blank (isSpace_iff.mpr h.1), ih h.2]

theorem Spaced.cons_blank {c : Char} {cs : List Char} {pieces : List (List Char)}
    (hc : c ∈ [' ', '\t', '\n', '\r']) (h : Spaced pieces cs) : Spaced pieces (c :: cs) := by
  cases h with
  | nil hblank => exact .nil (List.forall_mem_cons.mpr ⟨hc, hblank⟩)
  | cons hblank h =>
    have hmore := List.forall_mem_cons.mpr ⟨hc, hblank⟩
    exact .cons hmore h

/-- The tokens of a document are marks and texts exactly if pieces that spell them make it up. -/
theorem tokens_eq_iff {cs : List Char} {ts : List Token} (hts : ∀ t ∈ ts, IsPlain t) :
    tokens cs = ts ↔ ∃ pieces, List.Forall₂ Spells pieces ts ∧ Spaced pieces cs := by
  constructor
  · rintro rfl
    induction hlength : cs.length using Nat.strong_induction_on generalizing cs with
    | h n ih =>
      cases cs with
      | nil => exact ⟨[], by simp [tokens_nil], .nil isBlank_nil⟩
      | cons c rest =>
        rw [List.length_cons] at hlength
        by_cases hspace : isSpace c = true
        · rw [tokens_blank hspace] at hts ⊢
          obtain ⟨pieces, hpieces, hspaced⟩ := ih _ (by omega) hts rfl
          exact ⟨pieces, hpieces, hspaced.cons_blank (isSpace_iff.mp hspace)⟩
        · rw [Bool.not_eq_true] at hspace
          have hmore := length_nextToken_le c rest
          rw [tokens_cons hspace] at hts ⊢
          rw [List.forall_mem_cons] at hts
          obtain ⟨piece, hpiece, hrest⟩ := spells_of_nextToken rfl hts.1
          obtain ⟨pieces, hpieces, hspaced⟩ := ih _ (by omega) hts.2 rfl
          refine ⟨piece :: pieces, .cons hpiece hpieces, ?_⟩
          rw [hrest]
          exact hspaced.cons_tight
  · rintro ⟨pieces, hpieces, hspaced⟩
    induction hspaced generalizing ts with
    | nil hblank =>
      obtain rfl := List.forall₂_nil_left_iff.mp hpieces
      simpa [tokens_nil] using tokens_append_of_isBlank hblank []
    | cons hblank h ih =>
      obtain ⟨t, ts, ht, hmore, rfl⟩ := List.forall₂_cons_left_iff.mp hpieces
      obtain ⟨c, rest, rfl, hspace, hnext⟩ := nextToken_of_spells ht
      rw [tokens_append_of_isBlank hblank, List.cons_append, tokens_cons hspace, hnext,
        ih (fun t' ht' => hts t' (List.mem_cons_of_mem _ ht')) hmore]

end Phrasebook.Json
