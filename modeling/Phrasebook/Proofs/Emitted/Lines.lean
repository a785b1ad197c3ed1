import Mathlib
import Phrasebook.Proofs.Emitted.LookupModule
import Phrasebook.Proofs.Emitted.Members

/-! Emitted source read line by line. What a reader makes of a text that ends its last line does not
depend on what follows, so the pieces of a module are read one at a time. -/

namespace Phrasebook.Source

variable {α β : Type} {f : Text → List α} {t x y rest : Text} {out out' : List α}

def lines (t : Text) : List Text :=
  t.splitWhere endsLine

/-- What a reader of single lines makes of a text. -/
def readLines (f : Text → List α) (t : Text) : List α :=
  (lines t).flatMap f

/-- A text within a line. -/
def IsLine (t : Text) : Prop :=
  ∀ c ∈ t, endsLine c = false

instance (t : Text) : Decidable (IsLine t) :=
  inferInstanceAs (Decidable (∀ c ∈ t, endsLine c = false))

/-- Lines, each with its end. -/
def whole (ls : List Text) : Text :=
  ls.flatMap fun line => line ++ [('\n' : CodePoint)]

@[simp] theorem isLine_append : IsLine (x ++ y) ↔ IsLine x ∧ IsLine y :=
  List.forall_mem_append

theorem isLine_quoted (t : Text) : IsLine t.quoted :=
  fun c hc => not_endsLine_of_isPrintable (t.isPrintable_quoted c hc)

theorem isLine_joined {parts : List Text} (hbetween : IsLine x)
    (h : ∀ part ∈ parts, IsLine part) : IsLine (Text.joined x parts) :=
  Text.forall_mem_joined hbetween h

theorem isLine_of_isAccessor {key : Text} (h : Identifier.isAccessor key = true) : IsLine key :=
  not_endsLine_of_isAccessor h

theorem isLine_of_isNameCodePoint (h : ∀ c ∈ t, c.isNameCodePoint = true) : IsLine t := by
  intro c hc
  have hname := h c hc
  rw [← Bool.not_eq_true]
  intro hline
  simp only [endsLine, Bool.or_eq_true, beq_iff_eq] at hline
  rcases hline with rfl | rfl <;> exact absurd hname (by decide)

@[simp] theorem whole_cons (line : Text) (ls : List Text) :
    whole (line :: ls) = line ++ ('\n' : CodePoint) :: whole ls := by
  simp [whole]

@[simp] theorem whole_nil : whole [] = [] := rfl

theorem lines_append_line (h : IsLine x) (t : Text) :
    lines (x ++ ('\n' : CodePoint) :: t) = x :: lines t :=
  Text.splitWhere_append_mark h rfl t

theorem lines_whole_append {ls : List Text} (h : ∀ line ∈ ls, IsLine line) (rest : Text) :
    lines (whole ls ++ rest) = ls ++ lines rest := by
  induction ls with
  | nil => rfl
  | cons line ls ih =>
    rw [List.forall_mem_cons] at h
    rw [whole_cons, List.append_assoc, List.cons_append, lines_append_line h.1, ih h.2]
    rfl

/-- Whether a text reads as `out`, whatever follows it. -/
def ReadsAs (f : Text → List α) (t : Text) (out : List α) : Prop :=
  ∀ rest, readLines f (t ++ rest) = out ++ readLines f rest

theorem ReadsAs.append (hx : ReadsAs f x out) (hy : ReadsAs f y out') :
    ReadsAs f (x ++ y) (out ++ out') := by
  intro rest
  rw [List.append_assoc, hx, hy, List.append_assoc]

theorem ReadsAs.flatMap {items : List β} {g : β → Text} {h : β → List α}
    (hitems : ∀ b ∈ items, ReadsAs f (g b) (h b)) :
    ReadsAs f (items.flatMap g) (items.flatMap h) := by
  induction items with
  | nil => exact fun _ => rfl
  | cons b items ih =>
    rw [List.forall_mem_cons] at hitems
    exact hitems.1.append (ih hitems.2)

theorem readsAs_whole {ls : List Text} (h : ∀ line ∈ ls, IsLine line) :
    ReadsAs f (whole ls) (ls.flatMap f) := by
  intro rest
  rw [readLines, lines_whole_append h, List.flatMap_append]
  rfl

/-- A text that ends its last line reads as it does alone. -/
theorem readsAs_ended (hf : f [] = []) (hend : t.getLast? = some '\n') (h : readLines f t = out) :
    ReadsAs f t out := by
  obtain ⟨x, rfl⟩ := List.getLast?_eq_some_iff.mp hend
  have hcut (rest : Text) : lines (x ++ ('\n' : CodePoint) :: rest) = lines x ++ lines rest :=
    Text.splitWhere_append rfl x rest
  have halone : (lines x).flatMap f = out := by
    have hnil : lines [] = [[]] := rfl
    rwa [readLines, hcut, hnil, List.flatMap_append, List.flatMap_singleton, hf,
      List.append_nil] at h
  intro rest
  rw [List.append_assoc, List.singleton_append, readLines, hcut, List.flatMap_append, halone]
  rfl

theorem lines_cons_end {c : CodePoint} (hc : endsLine c = true) (t : Text) :
    lines (c :: t) = [] :: lines t := by
  simp [lines, Text.splitWhere, hc]

theorem lines_cons {c : CodePoint} (hc : endsLine c = false) {part : Text} {parts : List Text}
    (ht : lines t = part :: parts) : lines (c :: t) = (c :: part) :: parts := by
  rw [lines] at ht
  simp [lines, Text.splitWhere, hc, ht]

theorem exists_lines (t : Text) : ∃ part parts, lines t = part :: parts :=
  List.exists_cons_of_ne_nil (Text.splitWhere_ne_nil endsLine t)

/-- The last line of a text goes on with what follows it. -/
theorem lines_append {ls : List Text} {z : Text} (h : lines x = ls ++ [z]) (y : Text) :
    lines (x ++ y) = ls ++ lines (z ++ y) := by
  induction x generalizing ls z with
  | nil =>
    have hnil : ([] : List Text) ++ [[]] = ls ++ [z] := h
    obtain ⟨rfl, hz⟩ := List.append_inj' hnil rfl
    obtain rfl := List.singleton_inj.mp hz
    rfl
  | cons c x ih =>
    obtain ⟨part, parts, hx⟩ := exists_lines x
    cases hc : endsLine c with
    | true =>
      rw [lines_cons_end hc] at h
      cases ls with
      | nil => simp [hx] at h
      | cons first ls =>
        obtain ⟨rfl, htail⟩ := List.cons_eq_cons.mp h
        rw [List.cons_append, lines_cons_end hc, ih htail]
        rfl
    | false =>
      rw [lines_cons hc hx] at h
      cases ls with
      | nil =>
        obtain ⟨rfl, rfl⟩ := List.cons_eq_cons.mp h
        obtain ⟨next, others, hnext⟩ := exists_lines (part ++ y)
        have hrest : lines (x ++ y) = [] ++ lines (part ++ y) := ih hx
        rw [List.nil_append, hnext] at hrest
        rw [List.cons_append, lines_cons hc hrest, List.cons_append, lines_cons hc hnext]
        rfl
      | cons first ls =>
        obtain ⟨rfl, rfl⟩ := List.cons_eq_cons.mp h
        have hrest : lines (x ++ y) = part :: ls ++ lines (z ++ y) := ih hx
        rw [List.cons_append, lines_cons hc hrest]
        rfl

theorem ReadsAs.after {z : Text} (hlast : (lines x).getLast? = some z)
    (hbefore : (lines x).dropLast.flatMap f = out) (h : ReadsAs f (z ++ y) out') :
    ReadsAs f (x ++ y) (out ++ out') := by
  obtain ⟨ls, hlines⟩ := List.getLast?_eq_some_iff.mp hlast
  rw [hlines, List.dropLast_concat] at hbefore
  intro rest
  have hrest := h rest
  rw [readLines, List.append_assoc] at hrest
  rw [readLines, List.append_assoc, lines_append hlines, List.flatMap_append, hbefore, hrest,
    List.append_assoc]

theorem ReadsAs.eq (h : ReadsAs f t out) (hf : f [] = []) : readLines f t = out := by
  have hend : readLines f [] = [] := by
    show [[]].flatMap f = []
    rw [List.flatMap_singleton, hf]
  have ht := h []
  rwa [List.append_nil, hend, List.append_nil] at ht

/-! ### The lines of members -/

def memberLines (key value : Text) : List Text :=
  [[], "    @property", "    def " ++ key ++ "(self) -> str:", "        return " ++ value.quoted]

def abstractMemberLines (key : Text) : List Text :=
  [[], "    @property", "    @abstractmethod", "    def " ++ key ++ "(self) -> str:",
    "        \"\"\"Translation for ``" ++ key ++ "``.\"\"\""]

theorem memberSource_eq_whole (key value : Text) :
    memberSource key value = whole (memberLines key value) := by
  simp [memberSource_eq, memberLines, Text.ofString]

theorem abstractMembersSource_eq_whole (keys : List Text) :
    abstractMembersSource keys = keys.flatMap fun key => whole (abstractMemberLines key) := by
  rw [abstractMembersSource]
  apply List.flatMap_congr
  intro key _
  simp [abstractMemberSkeleton, abstractMemberLines, Text.ofString]

theorem isLine_memberLines {key : Text} (h : Identifier.isAccessor key = true) (value : Text) :
    ∀ line ∈ memberLines key value, IsLine line := by
  have hkey := isLine_of_isAccessor h
  have hdefinition : IsLine "    def " ∧ IsLine "(self) -> str:" := by decide
  have hreturn : IsLine "        return " := by decide
  simp only [memberLines, List.forall_mem_cons, isLine_append]
  exact ⟨by decide, by decide, ⟨⟨hdefinition.1, hkey⟩, hdefinition.2⟩,
    ⟨hreturn, isLine_quoted value⟩, by simp⟩

theorem isLine_abstractMemberLines {key : Text} (h : Identifier.isAccessor key = true) :
    ∀ line ∈ abstractMemberLines key, IsLine line := by
  have hkey := isLine_of_isAccessor h
  have hdefinition : IsLine "    def " ∧ IsLine "(self) -> str:" := by decide
  have hdescription : IsLine "        \"\"\"Translation for ``" ∧ IsLine "``.\"\"\"" := by decide
  simp only [abstractMemberLines, List.forall_mem_cons, isLine_append]
  exact ⟨by decide, by decide, by decide, ⟨⟨hdefinition.1, hkey⟩, hdefinition.2⟩,
    ⟨⟨hdescription.1, hkey⟩, hdescription.2⟩, by simp⟩

end Phrasebook.Source
