import Mathlib
import Phrasebook.Emitted.AccessorClass
import Phrasebook.Proofs.Emitted.Skeleton
import Phrasebook.Proofs.Emitted.Source
import Phrasebook.Proofs.Text.Encodable

/-! The emitted members of a class read back. Each is a property of four lines that returns one
literal, and together they read back as the keys and texts of the class, whatever the texts hold. -/

namespace Phrasebook

namespace Source

/-! ### The reader -/

/-- The name at the front that a definition gives to a member, and what follows it. A name that is
not in normal form is not read, since it would stand for another. -/
def readKey : Text → Option (Text × Text)
  | [] => none
  | c :: t =>
    let key := c :: t.takeWhile Identifier.isContinue
    if Identifier.isStart c && !Identifier.isKeyword key && Text.isNormal key then
      some (key, t.dropWhile Identifier.isContinue)
    else none

/-- The key and the text of the member at the front, and what follows it. -/
def readMember (t : Text) : Option ((Text × Text) × Text) := do
  let t ← skip "\n    @property\n    def " t
  let (key, t) ← readKey t
  let t ← skip "(self) -> str:\n        return " t
  let (value, t) ← readLiteral t
  let t ← skip "\n" t
  return ((key, value), t)

/-- The members that a text is. -/
def readMembers (t : Text) : Option (List (Text × Text)) :=
  if t.isEmpty then some []
  else match readMember t with
    | none => none
    | some (member, rest) =>
      if rest.length < t.length then (readMembers rest).map fun members => member :: members
      else none
termination_by t.length

/-! ### Reading members back -/

variable {key : Text}

theorem exists_cons_of_isAccessor (h : Identifier.isAccessor key = true) :
    ∃ c t, key = c :: t ∧ Identifier.isStart c = true ∧
      (∀ d ∈ t, Identifier.isContinue d = true) ∧
      Identifier.isKeyword key = false ∧ key.isNormal = true := by
  simp only [Identifier.isAccessor, Bool.and_eq_true, Bool.not_eq_true'] at h
  obtain ⟨⟨⟨⟨hidentifier, hnormal⟩, hkeyword⟩, _⟩, _⟩ := h
  cases key with
  | nil => exact absurd hidentifier (by simp [Identifier.isIdentifier])
  | cons c t =>
    obtain ⟨hstart, hcontinue⟩ : Identifier.isStart c = true ∧
        ∀ d ∈ t, Identifier.isContinue d = true := by
      simpa [Identifier.isIdentifier] using hidentifier
    exact ⟨c, t, rfl, hstart, hcontinue, hkeyword, hnormal⟩

theorem readKey_append (h : Identifier.isAccessor key = true) {rest : Text}
    (hrest : Text.EndsRun Identifier.isContinue rest) :
    readKey (key ++ rest) = some (key, rest) := by
  obtain ⟨c, t, rfl, hstart, hcontinue, hkeyword, hnormal⟩ := exists_cons_of_isAccessor h
  simp only [List.cons_append, readKey, Text.takeWhile_run hcontinue hrest,
    Text.dropWhile_run hcontinue hrest, hstart, hkeyword, hnormal]
  rfl

theorem memberSource_eq (key value : Text) : memberSource key value =
    "\n    @property\n    def " ++ (key ++ ("(self) -> str:\n        return " ++
      (value.quoted ++ "\n"))) := by
  simp [memberSource, memberSkeleton]

theorem readMember_append (h : Identifier.isAccessor key = true) (value rest : Text) :
    readMember (memberSource key value ++ rest) = some ((key, value), rest) := by
  have hsignature (u : Text) : Text.EndsRun Identifier.isContinue
      (Text.ofString "(self) -> str:\n        return " ++ u) :=
    Text.endsRun_append (by decide +kernel) u
  have hline (u : Text) : Text.EndsRun isMark (Text.ofString "\n" ++ u) :=
    Text.endsRun_append (by decide) u
  rw [memberSource_eq]
  simp only [readMember, List.append_assoc, skip_append, readKey_append h (hsignature _),
    readLiteral_quoted _ (hline _), Option.bind_eq_bind, Option.bind_some]
  rfl

theorem length_memberSource_pos (key value : Text) : 0 < (memberSource key value).length := by
  have hfirst : (Text.ofString "\n    @property\n    def ").length = 23 := rfl
  rw [memberSource_eq, List.length_append]
  omega

/-- Members with accessor names read back one after the other. -/
theorem readMembers_flatMap {members : List (Text × Text)}
    (h : ∀ member ∈ members, Identifier.isAccessor member.1 = true) :
    readMembers (members.flatMap fun member => memberSource member.1 member.2) =
      some members := by
  induction members with
  | nil => rw [List.flatMap_nil, readMembers]; rfl
  | cons member members ih =>
    rw [List.forall_mem_cons] at h
    have hpos := length_memberSource_pos member.1 member.2
    rw [List.flatMap_cons, readMembers, readMember_append h.1]
    simp only [ih h.2, List.length_append]
    rw [if_neg (by rw [List.isEmpty_iff_length_eq_zero, List.length_append]; omega),
      if_pos (by omega)]
    rfl

/-! ### Lines -/

/-- Whether a line ends here. -/
def endsLine (c : CodePoint) : Bool :=
  c == '\n' || c == '\r'

theorem not_endsLine_of_isPrintable {c : CodePoint} (h : c.isPrintable = true) :
    endsLine c = false := by
  have hbarred := not_isBarred_of_isPrintable h
  simp only [isBarred, Bool.or_eq_false_iff] at hbarred
  simp [endsLine, hbarred.1.2, hbarred.2]

theorem not_endsLine_of_isAccessor (h : Identifier.isAccessor key = true) :
    ∀ c ∈ key, endsLine c = false := by
  have hbreaks : ∀ c, endsLine c = true →
      Identifier.isStart c = false ∧ Identifier.isContinue c = false := by
    intro c hc
    simp only [endsLine, Bool.or_eq_true, beq_iff_eq] at hc
    rcases hc with rfl | rfl <;> decide +kernel
  obtain ⟨first, t, rfl, hstart, hcontinue, _⟩ := exists_cons_of_isAccessor h
  intro c hc
  by_contra hline
  rw [Bool.not_eq_false] at hline
  rcases List.mem_cons.mp hc with rfl | hc
  · exact absurd hstart (by simp [(hbreaks c hline).1])
  · exact absurd (hcontinue c hc) (by simp [(hbreaks c hline).2])

/-- A member takes four lines, whatever its text holds. -/
theorem countP_memberSource (h : Identifier.isAccessor key = true) (value : Text) :
    (memberSource key value).countP endsLine = 4 := by
  have hnone {t : Text} (ht : ∀ c ∈ t, endsLine c = false) : t.countP endsLine = 0 := by
    rw [List.countP_eq_zero]
    intro c hc
    simp [ht c hc]
  have hkey := hnone (not_endsLine_of_isAccessor h)
  have hvalue := hnone fun c hc => not_endsLine_of_isPrintable (value.isPrintable_quoted c hc)
  have hhead : (Text.ofString "\n    @property\n    def ").countP endsLine = 2 := by decide
  have hsignature : (Text.ofString "(self) -> str:\n        return ").countP endsLine = 1 := by
    decide
  have hend : (Text.ofString "\n").countP endsLine = 1 := by decide
  rw [memberSource_eq]
  simp only [List.countP_append, hkey, hvalue, hhead, hsignature, hend]

theorem countP_flatMap {members : List (Text × Text)}
    (h : ∀ member ∈ members, Identifier.isAccessor member.1 = true) :
    (members.flatMap fun member => memberSource member.1 member.2).countP endsLine =
      4 * members.length := by
  induction members with
  | nil => rfl
  | cons member members ih =>
    rw [List.forall_mem_cons] at h
    rw [List.flatMap_cons, List.countP_append, countP_memberSource h.1, ih h.2, List.length_cons]
    omega

end Source

namespace AccessorClass

open Source

/-- The members come last, after the class without members. -/
theorem source_eq (c : AccessorClass) (r : Reference) :
    c.source r = { c with members := [] }.source r ++ c.membersSource := by
  simp [source, classSkeleton, membersSource, description]

/-- Members read back exactly. They follow the constructor, four lines each; read in order, with
their literals evaluated, they are the keys and texts of the class; and classes with other members
have another text. -/
theorem members_readable (c : AccessorClass) (r : Reference)
    (h : ∀ member ∈ c.members, Identifier.isAccessor member.1 = true) :
    c.source r = { c with members := [] }.source r ++ c.membersSource ∧
    readMembers c.membersSource = some c.members ∧
    c.membersSource.countP endsLine = 4 * c.members.length ∧
    ∀ c' : AccessorClass, (∀ member ∈ c'.members, Identifier.isAccessor member.1 = true) →
      c'.membersSource = c.membersSource → c'.members = c.members := by
  have hread : readMembers c.membersSource = some c.members := readMembers_flatMap h
  refine ⟨c.source_eq r, hread, countP_flatMap h, ?_⟩
  intro c' h' hsame
  have hread' : readMembers c'.membersSource = some c'.members := readMembers_flatMap h'
  rw [hsame, hread] at hread'
  exact (Option.some.inj hread').symm

/-- A class whose texts imitate what surrounds them. -/
def imitating : AccessorClass where
  name := "L10nDe"
  parent := "L10n"
  locale := ⟨"de", none⟩
  members := [("größe", "it's \"$\x7bkey\x7d\"\\"),
    ("a", "'\n\n    @property\n    def b(self) -> str:\n        return '"),
    ("π", [CodePoint.ofNat 0xD800, CodePoint.ofNat 0x2028, '\r'])]

theorem isAccessor_imitating :
    ∀ member ∈ imitating.members, Identifier.isAccessor member.1 = true := by
  decide +kernel

theorem members_readable_imitating :
    readMembers imitating.membersSource = some imitating.members ∧
    imitating.membersSource.countP endsLine = 12 := by
  obtain ⟨_, hread, hlines, _⟩ :=
    members_readable imitating ⟨[], []⟩ isAccessor_imitating
  exact ⟨hread, hlines⟩

end AccessorClass

end Phrasebook
