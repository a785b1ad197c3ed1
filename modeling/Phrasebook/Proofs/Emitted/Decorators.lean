import Mathlib
import Phrasebook.Proofs.Emitted.Lines
import Phrasebook.Proofs.Schema
import Phrasebook.Proofs.Text.Normal

/-! The decorators of emitted members. A body is evaluated from the top, so a method hides what its
name denoted before from all lines below it. -/

namespace Phrasebook

open Source

/-- What a line of a class body does with a name: it applies what the name denotes, or it lets the
name denote a method. -/
inductive BodyStatement where
  | decorator (name : Text)
  | method (name : Text)
deriving DecidableEq

namespace BodyStatement

/-- The statement that begins on a line of a class body, if it is about a name. -/
def ofLine (line : Text) : List BodyStatement :=
  match skip "    @" line with
  | some t => [.decorator (t.takeWhile Identifier.isContinue)]
  | none =>
    match (skip "    def " line).bind readKey with
    | some (key, _) => [.method key]
    | none => []

def readBody (t : Text) : List BodyStatement :=
  readLines ofLine t

/-- Whether a statement leaves another, later one without the name that it applies. -/
def hides : BodyStatement → BodyStatement → Bool
  | .method key, .decorator name => key == name
  | _, _ => false

/-- A body whose decorators are what they were before the body. -/
def Unshadowed (body : List BodyStatement) : Prop :=
  body.Pairwise fun a b => hides a b = false

instance (body : List BodyStatement) : Decidable (Unshadowed body) :=
  inferInstanceAs (Decidable (body.Pairwise fun a b => hides a b = false))

/-! ### Reading bodies -/

variable {key : Text}

/-- A member: its decorators, then its method. -/
def ofMember (decorators : List Text) (key : Text) : List BodyStatement :=
  decorators.map .decorator ++ [.method key]

theorem ofLine_definition (h : Identifier.isAccessor key = true) :
    ofLine ("    def " ++ key ++ "(self) -> str:") = [.method key] := by
  have hother (t : Text) : skip "    @" (Text.ofString "    def " ++ t) = none := rfl
  have hsignature : Text.EndsRun Identifier.isContinue (Text.ofString "(self) -> str:") := by
    rw [← List.append_nil (Text.ofString _)]
    exact Text.endsRun_append (by decide) []
  rw [ofLine, List.append_assoc, hother, skip_append, Option.bind_some,
    readKey_append h hsignature]

theorem readsAs_memberLines (h : Identifier.isAccessor key = true) (value : Text) :
    ReadsAs ofLine (whole (memberLines key value)) (ofMember ["property"] key) := by
  have hlines : (memberLines key value).flatMap ofLine = ofMember ["property"] key := by
    have hproperty : ofLine "    @property" = [.decorator "property"] := by decide
    have hreturn (t : Text) : ofLine (Text.ofString "        return " ++ t) = [] := rfl
    have hblank : ofLine [] = [] := rfl
    simp [-List.append_assoc, memberLines, ofMember, hblank, hproperty, hreturn,
      ofLine_definition h]
  rw [← hlines]
  exact readsAs_whole (isLine_memberLines h value)

theorem readsAs_abstractMemberLines (h : Identifier.isAccessor key = true) :
    ReadsAs ofLine (whole (abstractMemberLines key))
      (ofMember ["property", "abstractmethod"] key) := by
  have hlines : (abstractMemberLines key).flatMap ofLine =
      ofMember ["property", "abstractmethod"] key := by
    have hproperty : ofLine "    @property" = [.decorator "property"] := by decide
    have habstract : ofLine "    @abstractmethod" = [.decorator "abstractmethod"] := by
      decide
    have hdescription (t u : Text) :
        ofLine (Text.ofString "        \"\"\"Translation for ``" ++ t ++ u) = [] := rfl
    have hblank : ofLine [] = [] := rfl
    simp [-List.append_assoc, abstractMemberLines, ofMember, hblank, hproperty, habstract,
      hdescription, ofLine_definition h]
  rw [← hlines]
  exact readsAs_whole (isLine_abstractMemberLines h)

theorem readBody_membersSource {c : AccessorClass}
    (h : ∀ member ∈ c.members, Identifier.isAccessor member.1 = true) :
    readBody c.membersSource = (c.members.map (·.1)).flatMap (ofMember ["property"]) := by
  have hreads : ReadsAs ofLine c.membersSource
      (c.members.flatMap fun member => ofMember ["property"] member.1) := by
    apply ReadsAs.flatMap
    intro member hmember
    rw [memberSource_eq_whole]
    exact readsAs_memberLines (h member hmember) member.2
  rw [readBody, hreads.eq rfl, List.flatMap_map]

theorem readBody_abstractMembersSource {keys : List Text}
    (h : ∀ key ∈ keys, Identifier.isAccessor key = true) :
    readBody (abstractMembersSource keys) =
      keys.flatMap (ofMember ["property", "abstractmethod"]) := by
  rw [abstractMembersSource_eq_whole]
  exact (ReadsAs.flatMap fun key hkey => readsAs_abstractMemberLines (h key hkey)).eq rfl

/-! ### What hides a decorator -/

variable {ds : List Text} {keys : List Text}

theorem hides_decorator (name : Text) (b : BodyStatement) : hides (.decorator name) b = false := by
  cases b <;> rfl

/-- A method hides a decorator of the members below it, which all have the same ones. -/
theorem hides_flatMap : (∀ b ∈ keys.flatMap (ofMember ds), hides (.method key) b = false) ↔
    (keys ≠ [] → key ∉ ds) := by
  constructor
  · intro h hne hmem
    obtain ⟨first, keys, rfl⟩ := List.exists_cons_of_ne_nil hne
    have hdecorator := h (.decorator key) (by simp [ofMember, hmem])
    simp [hides] at hdecorator
  · intro h b hb
    obtain ⟨k, hk, hb⟩ := List.mem_flatMap.mp hb
    rcases List.mem_append.mp hb with hb | hb
    · obtain ⟨d, hd, rfl⟩ := List.mem_map.mp hb
      have hne : key ≠ d := by
        rintro rfl
        exact h (List.ne_nil_of_mem hk) hd
      simp [hides, hne]
    · obtain rfl := List.mem_singleton.mp hb
      rfl

/-- Only the last member of a body may have the name of a decorator. -/
theorem unshadowed_iff : Unshadowed (keys.flatMap (ofMember ds)) ↔
    ∀ key ∈ keys.dropLast, key ∉ ds := by
  induction keys with
  | nil => simp [Unshadowed]
  | cons key keys ih =>
    have hfirst : Unshadowed (ofMember ds key ++ keys.flatMap (ofMember ds)) ↔
        (keys ≠ [] → key ∉ ds) ∧ Unshadowed (keys.flatMap (ofMember ds)) := by
      have hdecorators : (ds.map BodyStatement.decorator).Pairwise
          fun a b => hides a b = false :=
        List.pairwise_map.mpr (List.pairwise_of_forall fun d _ => hides_decorator d _)
      rw [Unshadowed, ofMember, List.append_assoc, List.pairwise_append, List.singleton_append,
        List.pairwise_cons, hides_flatMap]
      constructor
      · rintro ⟨_, h, _⟩
        exact h
      · refine fun h => ⟨hdecorators, h, ?_⟩
        intro a ha b _
        obtain ⟨d, _, rfl⟩ := List.mem_map.mp ha
        exact hides_decorator d b
    rw [List.flatMap_cons, hfirst, ih]
    cases keys with
    | nil => simp
    | cons second keys => simp

/-- The decorators of a body keep their meaning exactly if no key but the last is the name of one.
This is about the keys of a template in the abstract base, whose members have two decorators, and
about those of any class with such keys. -/
theorem decorators_kept_iff {t : PhraseSet} {s : Schema} (h : Schema.ofTemplate t = .ok s) :
    (Unshadowed (readBody (abstractMembersSource s.keys)) ↔
      ∀ key ∈ s.keys.dropLast, key ∉ [Text.ofString "property", "abstractmethod"]) ∧
    ∀ c : AccessorClass, (∀ member ∈ c.members, member.1 ∈ s.keys) →
      (Unshadowed (readBody c.membersSource) ↔
        Text.ofString "property" ∉ (c.members.map (·.1)).dropLast) := by
  have hkeys := Schema.isAccessor_of_ofTemplate h
  refine ⟨?_, fun c hc => ?_⟩
  · rw [readBody_abstractMembersSource hkeys, unshadowed_iff]
  · rw [readBody_membersSource fun member hmember => hkeys _ (hc member hmember), unshadowed_iff]
    simp only [List.mem_singleton]
    exact ⟨fun hnone hmem => hnone _ hmem rfl, fun hnot key hkey heq => hnot (heq ▸ hkey)⟩

/-- A template whose first key has the name of a decorator. -/
def titled : PhraseSet :=
  ⟨⟨"en", none⟩, ⟨.relative, ["en.json"]⟩, [("property", "Property"), ("title", "Title")]⟩

def titledSchema : Schema :=
  ⟨⟨"en", none⟩, ⟨.relative, ["en.json"]⟩, ["property", "title"]⟩

/-- As the last key, the name hides no decorator. -/
def titledLast : PhraseSet :=
  ⟨⟨"en", none⟩, ⟨.relative, ["en.json"]⟩, [("title", "Title"), ("property", "Property")]⟩

def titledLastSchema : Schema :=
  ⟨⟨"en", none⟩, ⟨.relative, ["en.json"]⟩, ["title", "property"]⟩

def titledLastClass : AccessorClass :=
  ⟨"L10nEn", "L10n", ⟨"en", none⟩, titledLast.entries⟩

theorem isAccessor_titled : Identifier.isAccessor "property" = true ∧
    Identifier.isAccessor "title" = true := by
  constructor <;> exact Identifier.isAccessor_of_isName ⟨by decide, by decide, by decide⟩
    (by decide) (by decide)

theorem decorators_kept_iff_titled : Schema.ofTemplate titledLast = .ok titledLastSchema ∧
    (∀ member ∈ titledLastClass.members, member.1 ∈ titledLastSchema.keys) ∧
    Unshadowed (readBody (abstractMembersSource titledLastSchema.keys)) ∧
    Unshadowed (readBody titledLastClass.membersSource) := by
  have hok : Schema.ofTemplate titledLast = .ok titledLastSchema := by
    apply Schema.ofTemplate_of_isAccessor
    simpa [PhraseSet.keys, titledLast] using isAccessor_titled.symm
  have hknown : ∀ member ∈ titledLastClass.members, member.1 ∈ titledLastSchema.keys := by decide
  obtain ⟨habstract, hclass⟩ := decorators_kept_iff hok
  exact ⟨hok, hknown, habstract.mpr (by decide), (hclass _ hknown).mpr (by decide)⟩

theorem not_kept_titled : Schema.ofTemplate titled = .ok titledSchema ∧
    readBody (abstractMembersSource titledSchema.keys) =
      [.decorator "property", .decorator "abstractmethod", .method "property",
        .decorator "property", .decorator "abstractmethod", .method "title"] ∧
    ¬Unshadowed (readBody (abstractMembersSource titledSchema.keys)) := by
  have hok : Schema.ofTemplate titled = .ok titledSchema := by
    apply Schema.ofTemplate_of_isAccessor
    simpa [PhraseSet.keys, titled] using isAccessor_titled
  have hread : readBody (abstractMembersSource titledSchema.keys) =
      [.decorator "property", .decorator "abstractmethod", .method "property",
        .decorator "property", .decorator "abstractmethod", .method "title"] := by
    rw [readBody_abstractMembersSource (Schema.isAccessor_of_ofTemplate hok)]
    rfl
  exact ⟨hok, hread, by rw [hread]; decide⟩

end BodyStatement

end Phrasebook
