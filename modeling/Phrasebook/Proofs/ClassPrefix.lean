import Mathlib
import Phrasebook.Proofs.ClassNames

/-! The names that a class prefix gives. They do not collide, and all but the base class are legal.
The base class is named by the prefix as it stands, which is checked in lowercase, where the three
reserved words with a capital are not reserved. -/

namespace Phrasebook

namespace Identifier

/-- The reserved words with a capital. -/
def capitalWords : List Text :=
  List.map Text.ofString ["False", "None", "True"]

theorem isKeyword_of_mem_capitalWords : ∀ k ∈ capitalWords, isKeyword k = true := by
  decide +kernel

/-- Of the reserved words, the check of a class prefix refuses those without a capital. -/
theorem mem_capitalWords_of_isClassPrefix :
    ∀ k ∈ keywords, isClassPrefix k = true → k ∈ capitalWords := by
  decide +kernel

/-- A name goes on with what may stand in names, unless it becomes a reserved word. -/
theorem IsName.append {x y : Text} (hx : IsName x) (hy : ∀ c ∈ y, c.isNameCodePoint = true)
    (h : isKeyword (x ++ y) = false) : IsName (x ++ y) where
  identifier := by
    have hid := hx.identifier
    cases x with
    | nil => exact absurd hid (by decide)
    | cons c t =>
      simp only [isIdentifier, Bool.and_eq_true, List.all_eq_true, List.cons_append] at hid ⊢
      refine ⟨hid.1, List.forall_mem_append.mpr ⟨hid.2, ?_⟩⟩
      exact fun d hd => CodePoint.isContinue_of_isNameCodePoint (hy d hd)
  unreserved := h
  ascii := List.forall_mem_append.mpr ⟨hx.ascii, hy⟩

end Identifier

namespace ClassPrefix

open Identifier (IsName)

variable (p : ClassPrefix)

/-! ### Collisions -/

/-- The name of a module begins with a letter, and that of the package's index does not. -/
theorem moduleOf_ne_index (language : Text) : p.moduleOf language ≠ "__init__" := by
  obtain ⟨c, t, hmodule, hc, _⟩ := p.lookupModule_eq_cons
  intro h
  rw [moduleOf, hmodule] at h
  have hunderscore : c = Identifier.underscore := (List.cons.inj h).1
  rw [hunderscore] at hc
  exact absurd hc (by decide)

/-- Names do not collide. The class of a plain locale determines the locale and is not the base, and
the module of a language determines the language and is neither the lookup module nor the index. -/
theorem names_collision_free :
    Set.InjOn p.classOf {l | l.IsPlain} ∧ (∀ l : Locale, l.IsPlain → p.classOf l ≠ p.base) ∧
    Function.Injective p.moduleOf ∧
    ∀ language, p.moduleOf language ≠ p.lookupModule ∧ p.moduleOf language ≠ "__init__" :=
  ⟨fun _ ha _ hb => classOf_inj ha hb, fun _ => classOf_ne_base, fun _ _ => moduleOf_inj,
    fun language => ⟨moduleOf_ne_lookupModule language, p.moduleOf_ne_index language⟩⟩

def american : Locale :=
  ⟨"en", some "US"⟩

/-- A locale whose class would be named like the American one if all letters were small. -/
def lookalike : Locale :=
  ⟨"enus", none⟩

theorem isPlain_american : american.IsPlain :=
  ⟨by decide, by rintro code ⟨⟩; decide⟩

theorem isPlain_lookalike : lookalike.IsPlain :=
  ⟨by decide, by rintro code ⟨⟩⟩

theorem names_collision_free_american :
    american.IsPlain ∧ lookalike.IsPlain ∧
    usual.classOf american ≠ usual.classOf lookalike ∧ usual.classOf lookalike ≠ usual.base ∧
    usual.moduleOf "en" ≠ usual.moduleOf "enus" := by
  obtain ⟨hclass, hbase, hmodule, _⟩ := usual.names_collision_free
  refine ⟨isPlain_american, isPlain_lookalike, ?_, hbase lookalike isPlain_lookalike,
    hmodule.ne (by decide)⟩
  exact hclass.ne isPlain_american isPlain_lookalike (by decide)

/-! ### Legal names -/

theorem isName_base_iff : IsName p.base ↔ p.base ∉ Identifier.capitalWords := by
  constructor
  · intro h hcapital
    have hkeyword := Identifier.isKeyword_of_mem_capitalWords p.base hcapital
    exact absurd h.unreserved (by simp [hkeyword])
  · intro h
    have hunreserved : Identifier.isKeyword p.text = false := by
      rw [← Bool.not_eq_true, Identifier.isKeyword, List.contains_iff_mem]
      exact fun hk => h (Identifier.mem_capitalWords_of_isClassPrefix p.text hk p.accepted)
    obtain ⟨c, t, htext, hc, ht⟩ := p.text_eq_cons
    rw [htext] at hunreserved
    rw [base, htext]
    exact Identifier.isName_cons hc ht hunreserved

/-- The capital of what follows the prefix keeps the delegate's name from being reserved. -/
theorem isName_delegate : IsName p.delegate := by
  obtain ⟨c, t, htext, hc, ht⟩ := p.text_eq_cons
  have hword : ∀ d ∈ Text.ofString "Delegate", d.isNameCodePoint = true := by decide
  have hcapital : ('D' : CodePoint) ∈ t ++ Text.ofString "Delegate" :=
    List.mem_append_right t (by decide)
  rw [delegate, htext]
  exact Identifier.isName_cons hc (List.forall_mem_append.mpr ⟨ht, hword⟩)
    (Identifier.isKeyword_of_capital hcapital (by decide))

theorem isName_lookupModule : IsName p.lookupModule := by
  have hunreserved : Identifier.isKeyword p.lookupModule = false := by
    have h := p.accepted
    simp only [Identifier.isClassPrefix, Bool.and_eq_true, Bool.not_eq_true'] at h
    exact h.1.2
  obtain ⟨c, t, hmodule, hc, ht⟩ := p.lookupModule_eq_cons
  rw [hmodule] at hunreserved ⊢
  exact Identifier.isName_cons hc ht hunreserved

theorem isName_lookup : IsName p.lookup := by
  have hword : IsName "lookup_" := ⟨by decide, by decide, by decide⟩
  have hunderscore : Identifier.underscore ∈ Text.ofString "lookup_" ++ p.lookupModule :=
    List.mem_append_left p.lookupModule (by decide)
  exact hword.append p.isName_lookupModule.ascii (Identifier.isKeyword_of_underscore hunderscore)

/-- Emitted names are legal: identifiers that are not reserved. The base class is the one exception,
and it is one for the prefixes that are reserved words with a capital. -/
theorem names_legal {l : Locale} (h : l.IsPlain) :
    (IsName p.base ↔ p.text ∉ Identifier.capitalWords) ∧ IsName p.delegate ∧
    IsName p.lookupModule ∧ IsName p.lookup ∧ IsName (p.classOf l) ∧
    IsName (p.moduleOf l.language) :=
  ⟨p.isName_base_iff, p.isName_delegate, p.isName_lookupModule, p.isName_lookup, p.isName_classOf h,
    p.isName_moduleOf h.language⟩

theorem names_legal_american :
    american.IsPlain ∧ IsName usual.base ∧ IsName usual.delegate ∧ IsName usual.lookupModule ∧
    IsName usual.lookup ∧ IsName (usual.classOf american) ∧ IsName (usual.moduleOf "en") := by
  obtain ⟨hbase, hothers⟩ := usual.names_legal isPlain_american
  exact ⟨isPlain_american, hbase.mpr (by decide), hothers⟩

/-- A prefix that passes because its lowercase is not reserved. -/
def reserved : ClassPrefix where
  text := "None"
  accepted := by decide +kernel

/-- Its base class has a reserved word for a name. -/
theorem not_legal_reserved : Identifier.isClassPrefix "None" = true ∧ reserved.base = "None" ∧
    Identifier.isKeyword reserved.base = true := by
  decide +kernel

end ClassPrefix

end Phrasebook
