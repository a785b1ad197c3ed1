import Mathlib
import Phrasebook.Proofs.Emitted.Lines
import Phrasebook.Proofs.Emitted.Tripled

/-! The statements at the top of an emitted module, and the names that they bind. A statement is
told by its first line: all its other lines are empty or indented, so what they hold is without
consequence for the names. -/

namespace Phrasebook

namespace Source

variable {t x y rest name : Text}

/-! ### The reader -/

/-- The names that an import takes from the module it begins with. -/
def importedNames (t : Text) : List Text :=
  match skip " import " (t.dropWhile (· ≠ ' ')) with
  | some names => (names.splitWhere (· == ',')).map (Text.trim CodePoint.isBlank)
  | none => []

/-- The names that a statement at the top of a module binds, read off its first line: that of a
class or of a function, those of an import, or a variable with a type or a value. Further lines of a
statement are indented or close a bracket. -/
def boundBy (line : Text) : List Text :=
  match skip "from " line, (skip "class " line).or (skip "def " line) with
  | some t, _ => importedNames t
  | none, some t => [t.takeWhile Identifier.isContinue]
  | none, none =>
    let name := line.takeWhile Identifier.isContinue
    let t := line.dropWhile Identifier.isContinue
    if name ≠ [] && (Text.startsWith t ": " || Text.startsWith t " = ") then [name] else []

/-- The name that a line of the list of exports holds. -/
def exportedBy (line : Text) : List Text :=
  match (skip "    " line).bind readLiteral with
  | some (name, t) => if t = [','] then [name] else []
  | none => []

/-- The names that a module binds at its top, in order, after its description. -/
def boundNames (named : Text → Option CodePoint) (t : Text) : Option (List Text) :=
  (readTripled named t).map fun e => readLines boundBy e.2

/-- The names in the list of exports of a module. -/
def exportedNames (named : Text → Option CodePoint) (t : Text) : Option (List Text) :=
  (readTripled named t).map fun e =>
    (((lines e.2).dropWhile (· ≠ Text.ofString "__all__ = [")).takeWhile
      (· ≠ Text.ofString "]")).flatMap exportedBy

/-! ### Statements -/

/-- Whether a text that begins a line goes on with the statement before it. -/
def staysInside (t : Text) : Bool :=
  t.head?.all fun c => c == (' ' : CodePoint) || endsLine c

/-- Whether all lines but the first stay inside the statement that the first begins. -/
def isIndented : Text → Bool
  | [] => true
  | c :: t => (!endsLine c || staysInside t) && isIndented t

/-- Whether all lines of a text stay inside the statement before it. -/
def isBlock (t : Text) : Bool :=
  staysInside t && isIndented t

theorem staysInside_append (hx : staysInside x = true) (hy : staysInside y = true) :
    staysInside (x ++ y) = true := by
  cases x with
  | nil => exact hy
  | cons c x => exact hx

theorem isIndented_append (hx : isIndented x = true) (hy : isBlock y = true) :
    isIndented (x ++ y) = true := by
  simp only [isBlock, Bool.and_eq_true] at hy
  induction x with
  | nil => exact hy.2
  | cons c x ih =>
    simp only [isIndented, Bool.and_eq_true, Bool.or_eq_true] at hx
    simp only [List.cons_append, isIndented, Bool.and_eq_true, Bool.or_eq_true]
    exact ⟨hx.1.imp_right fun h => staysInside_append h hy.1, ih hx.2⟩

theorem isBlock_append (hx : isBlock x = true) (hy : isBlock y = true) :
    isBlock (x ++ y) = true := by
  simp only [isBlock, Bool.and_eq_true] at hx ⊢
  refine ⟨staysInside_append hx.1 ?_, isIndented_append hx.2 hy⟩
  simp only [isBlock, Bool.and_eq_true] at hy
  exact hy.1

/-- What stays within a line does not bear on the lines after it. -/
theorem isIndented_line_append (hx : IsLine x) (y : Text) : isIndented (x ++ y) = isIndented y := by
  induction x with
  | nil => rfl
  | cons c x ih =>
    rw [IsLine, List.forall_mem_cons] at hx
    rw [List.cons_append, isIndented, hx.1, ih hx.2]
    rfl

theorem isIndented_open_append (hx : isIndented x = true)
    (hlast : x.getLast?.any (fun c => !endsLine c) = true) (hy : isIndented y = true) :
    isIndented (x ++ y) = true := by
  induction x with
  | nil => exact hy
  | cons c x ih =>
    simp only [isIndented, Bool.and_eq_true, Bool.or_eq_true] at hx
    simp only [List.cons_append, isIndented, Bool.and_eq_true, Bool.or_eq_true]
    cases x with
    | nil => exact ⟨.inl (by simpa using hlast), hy⟩
    | cons d x => exact ⟨hx.1, ih hx.2 (by simpa using hlast)⟩

theorem isBlock_open_append (hx : isBlock x = true)
    (hlast : x.getLast?.any (fun c => !endsLine c) = true) (hy : isIndented y = true) :
    isBlock (x ++ y) = true := by
  simp only [isBlock, Bool.and_eq_true] at hx ⊢
  refine ⟨?_, isIndented_open_append hx.2 hlast hy⟩
  cases x with
  | nil => exact absurd hlast (by simp)
  | cons c x => exact hx.1

theorem isBlock_whole {ls : List Text} (hline : ∀ line ∈ ls, IsLine line)
    (hinside : ∀ line ∈ ls, staysInside line = true) : isBlock (whole ls) = true := by
  induction ls with
  | nil => rfl
  | cons line ls ih =>
    rw [List.forall_mem_cons] at hline hinside
    have hrest := ih hline.2 hinside.2
    have hend : isBlock [('\n' : CodePoint)] = true := by decide
    rw [whole_cons, ← List.singleton_append, isBlock, Bool.and_eq_true]
    refine ⟨staysInside_append hinside.1 rfl, ?_⟩
    rw [isIndented_line_append hline.1]
    exact isIndented_append (by decide) hrest

theorem isBlock_flatMap {α : Type} {items : List α} {f : α → Text}
    (h : ∀ a ∈ items, isBlock (f a) = true) : isBlock (items.flatMap f) = true := by
  induction items with
  | nil => rfl
  | cons a items ih =>
    rw [List.forall_mem_cons] at h
    exact isBlock_append h.1 (ih h.2)

def firstLine (t : Text) : Text :=
  t.takeWhile fun c => !endsLine c

theorem staysInside_firstLine (h : staysInside t = true) : staysInside (firstLine t) = true := by
  cases t with
  | nil => rfl
  | cons c t =>
    simp only [firstLine, List.takeWhile_cons]
    split_ifs
    · exact h
    · rfl

theorem exists_lines_of_isIndented (h : isIndented t = true) :
    ∃ ls, lines t = firstLine t :: ls ∧ ∀ line ∈ ls, staysInside line = true := by
  induction t with
  | nil => exact ⟨[], rfl, by simp⟩
  | cons c t ih =>
    simp only [isIndented, Bool.and_eq_true, Bool.or_eq_true, Bool.not_eq_true'] at h
    obtain ⟨ls, hls, hinside⟩ := ih h.2
    cases hc : endsLine c with
    | true =>
      have ht : staysInside t = true := h.1.resolve_left (by simp [hc])
      refine ⟨firstLine t :: ls, by simp [lines_cons_end hc, hls, firstLine, hc], ?_⟩
      rw [List.forall_mem_cons]
      exact ⟨staysInside_firstLine ht, hinside⟩
    | false =>
      exact ⟨ls, by simp [lines_cons hc hls, firstLine, hc], hinside⟩

theorem skip_cons_of_ne {c d : CodePoint} (h : c ≠ d) (x t : Text) :
    skip (d :: x) (c :: t) = none := by
  simp [skip, List.isPrefixOf, Ne.symm h]

theorem boundBy_eq_nil (h : staysInside t = true) : boundBy t = [] := by
  have hnone : ∀ c : CodePoint, (c == (' ' : CodePoint) || endsLine c) = true →
      Identifier.isContinue c = false ∧ c ≠ 'f' ∧ c ≠ 'c' ∧ c ≠ 'd' := by
    intro c hc
    simp only [endsLine, Bool.or_eq_true, beq_iff_eq] at hc
    rcases hc with rfl | rfl | rfl <;> decide
  cases t with
  | nil => rfl
  | cons c t =>
    obtain ⟨hcontinue, hf, hc, hd⟩ := hnone c h
    have hfrom : skip "from " (c :: t) = none := skip_cons_of_ne hf _ t
    have hclass : skip "class " (c :: t) = none := skip_cons_of_ne hc _ t
    have hdef : skip "def " (c :: t) = none := skip_cons_of_ne hd _ t
    simp [boundBy, hfrom, hclass, hdef, List.takeWhile_cons_of_neg, hcontinue]

theorem firstLine_append (hx : IsLine x) (t : Text) : firstLine (x ++ t) = x ++ firstLine t := by
  have hall : ∀ c ∈ x, (!endsLine c) = true := by
    intro c hc
    simp [hx c hc]
  rw [firstLine, List.takeWhile_append_of_pos hall]
  rfl

theorem getLast?_append_ended {c : CodePoint} (hy : y.getLast? = some c) (x : Text) :
    (x ++ y).getLast? = some c := by
  rw [List.getLast?_append, hy]
  rfl

/-- A statement binds what its first line does. -/
theorem readsAs_statement (hx : IsLine x) (h : isIndented t = true)
    (hend : t.getLast? = some '\n') : ReadsAs boundBy (x ++ t) (boundBy (x ++ firstLine t)) := by
  have hwhole : isIndented (x ++ t) = true := by rwa [isIndented_line_append hx]
  obtain ⟨ls, hlines, hinside⟩ := exists_lines_of_isIndented hwhole
  have hrest : ls.flatMap boundBy = [] :=
    List.flatMap_eq_nil_iff.mpr fun line hline => boundBy_eq_nil (hinside line hline)
  apply readsAs_ended rfl (getLast?_append_ended hend x)
  rw [readLines, hlines, List.flatMap_cons, hrest, List.append_nil, firstLine_append hx]

theorem readsAs_block (h : isBlock t = true) (hend : t.getLast? = some '\n') :
    ReadsAs boundBy t [] := by
  simp only [isBlock, Bool.and_eq_true] at h
  rw [← boundBy_eq_nil (staysInside_firstLine h.1)]
  exact readsAs_statement (x := []) (by decide) h.2 hend

theorem endsRun_firstLine {q : CodePoint → Bool} (h : Text.EndsRun q t) :
    Text.EndsRun q (firstLine t) := by
  apply Text.endsRun_of_prefix (u := t.dropWhile fun c => !endsLine c)
  rwa [firstLine, List.takeWhile_append_dropWhile]

/-- A class or a function binds its name. -/
theorem readsAs_definition {kind : Text} (hkind : kind = "class " ∨ kind = "def ")
    (hname : ∀ c ∈ name, c.isNameCodePoint = true) (hrest : Text.EndsRun Identifier.isContinue t)
    (h : isIndented t = true) (hend : t.getLast? = some '\n') :
    ReadsAs boundBy (kind ++ (name ++ t)) [name] := by
  have hcontinue : ∀ c ∈ name, Identifier.isContinue c = true :=
    fun c hc => CodePoint.isContinue_of_isNameCodePoint (hname c hc)
  have hopen : IsLine (kind ++ name) := by
    rw [isLine_append]
    refine ⟨?_, isLine_of_isNameCodePoint hname⟩
    rcases hkind with rfl | rfl <;> decide
  have hbound : boundBy (kind ++ name ++ firstLine t) = [name] := by
    have hrun := Text.takeWhile_run hcontinue (endsRun_firstLine hrest)
    rw [List.append_assoc]
    rcases hkind with rfl | rfl
    · have hfrom (u : Text) : skip "from " (Text.ofString "class " ++ u) = none := rfl
      simp only [boundBy, hfrom, skip_append, Option.some_or, hrun]
    · have hfrom (u : Text) : skip "from " (Text.ofString "def " ++ u) = none := rfl
      have hclass (u : Text) : skip "class " (Text.ofString "def " ++ u) = none := rfl
      simp only [boundBy, hfrom, hclass, skip_append, Option.none_or, hrun]
  rw [← hbound, ← List.append_assoc]
  exact readsAs_statement hopen h hend

/-- A variable with a type is bound, if its name is not read as a keyword. -/
theorem boundBy_variable (hname : ∀ c ∈ name, Identifier.isContinue c = true)
    (hne : name ≠ []) (hkind : ∀ u, skip "from " (name ++ u) = none ∧
      skip "class " (name ++ u) = none ∧ skip "def " (name ++ u) = none) (u : Text) :
    boundBy (name ++ (": " ++ u)) = [name] := by
  have hcolon : Text.EndsRun Identifier.isContinue (Text.ofString ": " ++ u) :=
    Text.endsRun_append (by decide) u
  obtain ⟨hfrom, hclass, hdef⟩ := hkind (": " ++ u)
  simp only [boundBy, hfrom, hclass, hdef, Option.none_or, Text.takeWhile_run hname hcolon,
    Text.dropWhile_run hname hcolon]
  simp [hne, Text.startsWith]

end Source

end Phrasebook
