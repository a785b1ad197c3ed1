import Mathlib
import Phrasebook.Proofs.ClassPrefix
import Phrasebook.Proofs.Emitted.LookupBody
import Phrasebook.Proofs.Emitted.Statements
import Phrasebook.Proofs.Text.Normal

/-! The names that the lookup module binds and exports. Three of them are made of the class prefix,
the others are fixed, so they are distinct exactly if the prefix is none of the fixed ones. -/

namespace Phrasebook

namespace LookupModule

open Source

variable {p : ClassPrefix} {t : LookupTable} {keys : List Text}

/-- The names that the lookup module binds, in order. -/
def names (p : ClassPrefix) : List Text :=
  ["annotations", "ABC", "abstractmethod", "__all__", "SUPPORTED_LOCALES", "SUPPORTED_LANGUAGES",
    "UnsupportedLocaleError", "_split_locale", p.base, "is_supported", p.lookup, p.delegate]

/-- The names that the lookup module exports, in order. -/
def exports (p : ClassPrefix) : List Text :=
  ["SUPPORTED_LANGUAGES", "SUPPORTED_LOCALES", p.base, p.delegate, "UnsupportedLocaleError",
    "is_supported", p.lookup]

theorem isNameCodePoint_base (p : ClassPrefix) : ∀ c ∈ p.base, c.isNameCodePoint = true := by
  obtain ⟨c, t, htext, hc, ht⟩ := p.text_eq_cons
  rw [ClassPrefix.base, htext, List.forall_mem_cons]
  exact ⟨CodePoint.isNameCodePoint_of_isLetter hc, ht⟩

theorem isBlock_abstractMembersSource (h : ∀ key ∈ keys, Identifier.isAccessor key = true) :
    isBlock (abstractMembersSource keys) = true := by
  rw [abstractMembersSource_eq_whole]
  apply isBlock_flatMap
  intro key hkey
  apply isBlock_whole (isLine_abstractMemberLines (h key hkey))
  simp only [abstractMemberLines, List.forall_mem_cons, List.append_assoc]
  exact ⟨rfl, rfl, rfl, rfl, rfl, by simp⟩

theorem isBlock_caseSource {pattern moduleName className : Text} (hpattern : IsLine pattern)
    (hmodule : IsLine moduleName) (hclass : IsLine className) :
    isBlock (LookupSource.caseSource pattern moduleName className) = true := by
  rw [LookupSource.caseSource]
  refine isBlock_open_append (by decide) (by decide) ?_
  rw [isIndented_line_append hpattern]
  refine isIndented_open_append (by decide) (by decide) ?_
  rw [isIndented_line_append hmodule, isIndented_line_append (by decide),
    isIndented_line_append hclass]
  refine isIndented_open_append (by decide) (by decide) ?_
  rw [isIndented_line_append hclass]
  decide

theorem isBlock_lookupBody (h : ∀ target ∈ t.targets, LookupSource.IsNamed target) :
    isBlock t.lookupBody = true := by
  have hregion : ∀ e ∈ t.byRegion, isBlock (LookupTable.regionCase e) = true := by
    intro e he
    obtain ⟨hmodule, hclass⟩ :=
      h e.2 (List.mem_append_left _ (List.mem_map_of_mem he))
    have hpair : IsLine (LookupSource.pairSource e.1) := by
      simp only [LookupSource.pairSource, isLine_append]
      exact ⟨by decide, isLine_quoted _, by decide, isLine_quoted _, by decide⟩
    rw [LookupSource.regionCase_eq]
    exact isBlock_caseSource hpair (isLine_of_isNameCodePoint hmodule.ascii)
      (isLine_of_isNameCodePoint hclass.ascii)
  have hlanguage : ∀ e ∈ t.byLanguage, isBlock (LookupTable.languageCase e) = true := by
    intro e he
    obtain ⟨hmodule, hclass⟩ :=
      h e.2 (List.mem_append_right _ (List.mem_map_of_mem he))
    rw [LookupSource.languageCase_eq]
    exact isBlock_caseSource (isLine_quoted _) (isLine_of_isNameCodePoint hmodule.ascii)
      (isLine_of_isNameCodePoint hclass.ascii)
  have hmatch : isBlock t.regionMatch = true := by
    rw [LookupTable.regionMatch]
    split_ifs
    · rfl
    · exact isBlock_append (by decide) (isBlock_flatMap hregion)
  exact isBlock_append hmatch (isBlock_append (by decide) (isBlock_flatMap hlanguage))

theorem isBlock_supportedLine (l : Text × Option Text) : isBlock (supportedLine l) = true := by
  have hregion : IsLine (Text.quotedOrNone l.2) := by
    cases l.2 with
    | none => decide
    | some region => exact isLine_quoted region
  simp only [supportedLine, List.append_assoc]
  refine isBlock_open_append (by decide) (by decide) ?_
  rw [isIndented_line_append (isLine_quoted _), isIndented_line_append (by decide),
    isIndented_line_append hregion]
  decide

theorem readsAs_supportedLines (ls : List (Text × Option Text)) :
    ReadsAs boundBy (ls.flatMap supportedLine) [] := by
  have hnone : ls.flatMap (fun _ => ([] : List Text)) = [] := by simp
  rw [← hnone]
  exact ReadsAs.flatMap fun l _ =>
    readsAs_block (isBlock_supportedLine l) (getLast?_append_ended (by decide) _)

theorem boundBy_supportedLanguages (u : Text) :
    boundBy ("SUPPORTED_LANGUAGES: frozenset[str] = frozenset(\x7b" ++ u) =
      [Text.ofString "SUPPORTED_LANGUAGES"] := by
  have hset : Text.ofString "SUPPORTED_LANGUAGES: frozenset[str] = frozenset(\x7b" =
      "SUPPORTED_LANGUAGES" ++ (": " ++ "frozenset[str] = frozenset(\x7b") := by
    repeat rw [Text.ofString_ofList]
    rfl
  rw [hset, List.append_assoc, List.append_assoc]
  exact boundBy_variable (by decide) (by decide) (fun _ => ⟨rfl, rfl, rfl⟩) _

theorem readsAs_support : ReadsAs boundBy (support.fill (content p t keys))
    ["SUPPORTED_LOCALES", "SUPPORTED_LANGUAGES"] := by
  have hlanguages : IsLine (Text.joined ", " (t.supportedLanguages.map Text.quoted)) := by
    apply isLine_joined (by decide)
    rintro _ hpart
    obtain ⟨language, _, rfl⟩ := List.mem_map.mp hpart
    exact isLine_quoted language
  have hlocales : ReadsAs boundBy
      "SUPPORTED_LOCALES: tuple[tuple[str, str | None], ...] = (\n" ["SUPPORTED_LOCALES"] := by
    repeat rw [Text.ofString_ofList]
    exact readsAs_ended rfl (by decide) (by decide)
  simp only [support, Skeleton.fill_fixed, Skeleton.fill_slot, Skeleton.fill_nil, content]
  apply hlocales.append
  apply (readsAs_supportedLines t.supportedLocales).append
  show ReadsAs boundBy _ ([] ++ [Text.ofString "SUPPORTED_LANGUAGES"])
  apply ReadsAs.after (z := "SUPPORTED_LANGUAGES: frozenset[str] = frozenset(\x7b")
  · repeat rw [Text.ofString_ofList]
    decide
  · repeat rw [Text.ofString_ofList]
    decide
  · rw [← boundBy_supportedLanguages]
    refine readsAs_statement ?_ ?_ (getLast?_append_ended (by decide) _)
    · rw [Text.ofString_ofList]
      decide
    · rw [isIndented_line_append hlanguages]
      decide

theorem readsAs_requests : ReadsAs boundBy (requests.fill (content p t keys))
    ["UnsupportedLocaleError", "_split_locale"] := by
  simp only [requests, Skeleton.fill_fixed, Skeleton.fill_nil, List.append_nil]
  apply readsAs_ended rfl (getLast?_append_ended (by decide) _)
  repeat rw [Text.ofString_ofList]
  decide

theorem readsAs_abstractBase (h : ∀ key ∈ keys, Identifier.isAccessor key = true) :
    ReadsAs boundBy (abstractBase.fill (content p t keys)) [p.base] := by
  simp only [abstractBase, Skeleton.fill_fixed, Skeleton.fill_slot, Skeleton.fill_nil, content]
  apply readsAs_definition (.inl rfl) (isNameCodePoint_base p)
  · apply Text.endsRun_append
    repeat rw [Text.ofString_ofList]
    decide
  · apply isIndented_append
    · repeat rw [Text.ofString_ofList]
      decide +kernel
    · exact isBlock_append (isBlock_abstractMembersSource h) (by decide)
  · exact getLast?_append_ended (getLast?_append_ended (by decide) _) _

theorem readsAs_lookup (h : ∀ target ∈ t.targets, LookupSource.IsNamed target) :
    ReadsAs boundBy (lookup.fill (content p t keys)) ["is_supported", p.lookup] := by
  have hbase := isLine_of_isNameCodePoint (isNameCodePoint_base p)
  have hlookup := isLine_of_isNameCodePoint p.isName_lookup.ascii
  simp only [lookup, Skeleton.fill_fixed, Skeleton.fill_slot, Skeleton.fill_nil, content]
  show ReadsAs boundBy _ ([Text.ofString "is_supported"] ++ [p.lookup])
  apply ReadsAs.after (z := "def ")
  · repeat rw [Text.ofString_ofList]
    decide
  · repeat rw [Text.ofString_ofList]
    decide
  · apply readsAs_definition (.inr rfl) p.isName_lookup.ascii
    · exact Text.endsRun_append (by decide) _
    · rw [isIndented_line_append (by decide), isIndented_line_append hbase]
      apply isIndented_append
      · repeat rw [Text.ofString_ofList]
        decide +kernel
      · apply isBlock_append (isBlock_lookupBody h)
        apply isBlock_open_append
        · repeat rw [Text.ofString_ofList]
          decide
        · repeat rw [Text.ofString_ofList]
          decide
        rw [isIndented_line_append hlookup]
        repeat rw [Text.ofString_ofList]
        decide
    · iterate 6 apply getLast?_append_ended
      rw [Text.ofString_ofList]
      decide

theorem readsAs_delegate :
    ReadsAs boundBy (delegate.fill (content p t keys)) [p.delegate] := by
  have hbase := isLine_of_isNameCodePoint (isNameCodePoint_base p)
  have hlookup := isLine_of_isNameCodePoint p.isName_lookup.ascii
  simp only [delegate, Skeleton.fill_fixed, Skeleton.fill_slot, Skeleton.fill_nil, content]
  apply readsAs_definition (.inl rfl) p.isName_delegate.ascii
  · apply Text.endsRun_append
    repeat rw [Text.ofString_ofList]
    decide
  · refine isIndented_open_append ?_ ?_ ?_
    · repeat rw [Text.ofString_ofList]
      decide +kernel
    · repeat rw [Text.ofString_ofList]
      decide
    rw [isIndented_line_append hbase]
    refine isIndented_open_append (by decide) (by decide) ?_
    rw [isIndented_line_append hlookup]
    decide
  · iterate 4 apply getLast?_append_ended
    decide

/-! ### The opening -/

/-- The description of the lookup module. -/
def description (t : LookupTable) : Text :=
  heading ++ "\n\nSupported locales: " ++ Text.joined ", " (t.locales.map Locale.canonical) ++ ".\n"

/-- The line by which the list of exports names a name. -/
def exportedLine (name : Text) : Text :=
  "    \"" ++ name ++ "\","

def importLines : List Text :=
  [[], [], "from __future__ import annotations", [], "from abc import ABC, abstractmethod", []]

def exportLines (p : ClassPrefix) : List Text :=
  Text.ofString "__all__ = [" :: (exports p).map exportedLine

/-- The lines between the description and the statements on locales. -/
def openingLines (p : ClassPrefix) : List Text :=
  importLines ++ exportLines p ++ [Text.ofString "]", []]

theorem opening_eq : opening.fill (content p t keys) = tripled (description t) ++
    whole (openingLines p) := by
  simp only [opening, Skeleton.fill_fixed, Skeleton.fill_slot, Skeleton.fill_nil, content, tripled,
    tripleMark, description, openingLines, importLines, exportLines, exports, exportedLine,
    List.map_cons, List.map_nil, List.cons_append, List.nil_append, whole_cons, whole_nil]
  repeat rw [Text.ofString_ofList]
  simp only [List.map_cons, List.map_nil, List.cons_append, List.nil_append, List.append_assoc]

theorem isNameCodePoint_exports : ∀ name ∈ exports p,
    name ≠ [] ∧ ∀ c ∈ name, c.isNameCodePoint = true := by
  have hbase : p.base ≠ [] := by
    obtain ⟨c, t, htext, _⟩ := p.text_eq_cons
    simp [ClassPrefix.base, htext]
  have hdelegate : p.delegate ≠ [] := List.append_ne_nil_of_right_ne_nil _ (by decide)
  have hlookup : p.lookup ≠ [] := List.append_ne_nil_of_left_ne_nil (by decide) _
  simp only [exports, List.forall_mem_cons]
  exact ⟨by decide, by decide, ⟨hbase, isNameCodePoint_base p⟩,
    ⟨hdelegate, p.isName_delegate.ascii⟩, by decide, by decide,
    ⟨hlookup, p.isName_lookup.ascii⟩, by simp⟩

theorem isLine_openingLines : ∀ line ∈ openingLines p, IsLine line := by
  have hexports : ∀ line ∈ (exports p).map exportedLine, IsLine line := by
    intro line hline
    obtain ⟨name, hname, rfl⟩ := List.mem_map.mp hline
    simp only [exportedLine, isLine_append]
    exact ⟨⟨by decide, isLine_of_isNameCodePoint (isNameCodePoint_exports name hname).2⟩,
      by decide⟩
  simp only [openingLines, exportLines, List.forall_mem_append, List.forall_mem_cons]
  exact ⟨⟨by decide, by decide, hexports⟩, by decide, by decide, by simp⟩

theorem readsAs_openingLines : ReadsAs boundBy (whole (openingLines p))
    ["annotations", "ABC", "abstractmethod", "__all__"] := by
  have himports : importLines.flatMap boundBy =
      [Text.ofString "annotations", "ABC", "abstractmethod"] := by
    rw [importLines]
    repeat rw [Text.ofString_ofList]
    decide
  have hlist : boundBy "__all__ = [" = [Text.ofString "__all__"] := by decide
  have hexports : ((exports p).map exportedLine).flatMap boundBy = [] := by
    rw [List.flatMap_eq_nil_iff]
    intro line hline
    obtain ⟨name, _, rfl⟩ := List.mem_map.mp hline
    exact boundBy_eq_nil rfl
  have hend : [Text.ofString "]", []].flatMap boundBy = [] := by decide
  have hread := readsAs_whole (f := boundBy) (isLine_openingLines (p := p))
  rwa [openingLines, exportLines, List.flatMap_append, List.flatMap_append, List.flatMap_cons,
    himports, hlist, hexports, hend] at hread

/-- A name between double marks reads back as it is. -/
theorem readBody_name {name : Text} (h : ∀ c ∈ name, c.isNameCodePoint = true) (rest : Text) :
    readBody '"' (name ++ ('"' : CodePoint) :: rest) = some (name, rest) := by
  induction name with
  | nil => rw [List.nil_append, readBody, if_pos rfl]
  | cons c name ih =>
    rw [List.forall_mem_cons] at h
    have hmark : c ≠ '"' := by
      rintro rfl
      exact absurd h.1 (by decide)
    have hescape : c ≠ '\\' := by
      rintro rfl
      exact absurd h.1 (by decide)
    have hbarred : isBarred c = false := by
      rw [← Bool.not_eq_true]
      intro hc
      simp only [isBarred, Bool.or_eq_true, beq_iff_eq] at hc
      rcases hc with (rfl | rfl) | rfl <;> exact absurd h.1 (by decide)
    rw [List.cons_append, readBody_plain hmark hescape hbarred, ih h.2]
    rfl

theorem exportedBy_exportedLine {name : Text} (hne : name ≠ [])
    (h : ∀ c ∈ name, c.isNameCodePoint = true) : exportedBy (exportedLine name) = [name] := by
  obtain ⟨c, name, rfl⟩ := List.exists_cons_of_ne_nil hne
  have hline : exportedLine (c :: name) = Text.ofString "    " ++
      ('"' : CodePoint) :: ((c :: name) ++ ('"' : CodePoint) :: [(',' : CodePoint)]) := by
    simp [exportedLine, Text.ofString]
  have hmark : ('"' : CodePoint) ≠ c := by
    rintro rfl
    exact absurd (h _ List.mem_cons_self) (by decide)
  have hread : readLiteral (('"' : CodePoint) :: ((c :: name) ++
      ('"' : CodePoint) :: [(',' : CodePoint)])) = some (c :: name, [(',' : CodePoint)]) := by
    rw [readLiteral, readBody_name h]
    simp [isMark, Text.startsWith, List.isPrefixOf, hmark]
  rw [exportedBy, hline, skip_append, Option.bind_some, hread]
  rfl

theorem exports_read (rest : Text) : (((lines (whole (openingLines p) ++ rest)).dropWhile
    (· ≠ Text.ofString "__all__ = [")).takeWhile (· ≠ Text.ofString "]")).flatMap exportedBy =
      exports p := by
  have hlines : lines (whole (openingLines p) ++ rest) =
      importLines ++ (exportLines p ++ (Text.ofString "]" :: [] :: lines rest)) := by
    rw [lines_whole_append isLine_openingLines, openingLines, List.append_assoc, List.append_assoc]
    rfl
  have himports : ∀ line ∈ importLines, decide (line ≠ Text.ofString "__all__ = [") = true := by
    decide
  have hexports : ∀ line ∈ exportLines p, decide (line ≠ Text.ofString "]") = true := by
    rw [exportLines, List.forall_mem_cons]
    refine ⟨by decide, fun line hline => ?_⟩
    obtain ⟨name, _, rfl⟩ := List.mem_map.mp hline
    rfl
  have hlist : exportedBy "__all__ = [" = [] := by decide
  have hnames : ((exports p).map exportedLine).flatMap exportedBy = exports p := by
    rw [List.flatMap_map, List.flatMap_congr fun name hname =>
      exportedBy_exportedLine (isNameCodePoint_exports name hname).1
        (isNameCodePoint_exports name hname).2]
    exact List.flatMap_singleton' _
  have hopen (ls : List Text) : (exportLines p ++ ls).dropWhile
      (· ≠ Text.ofString "__all__ = [") = exportLines p ++ ls := by
    rw [exportLines, List.cons_append, List.dropWhile_cons_of_neg (by decide)]
  rw [hlines, List.dropWhile_append_of_pos himports, hopen,
    List.takeWhile_append_of_pos hexports, List.takeWhile_cons_of_neg (by decide), List.append_nil,
    exportLines, List.flatMap_cons, hlist, hnames]
  rfl

/-! ### The names of the module -/

theorem isPlainChar_of_isNameCodePoint {c : CodePoint} (h : c.isNameCodePoint = true) :
    isPlainChar c = true := by
  rw [isPlainChar_iff]
  have hsurrogate : c.isSurrogate = false := by
    rw [← Bool.not_eq_true, CodePoint.isSurrogate_iff]
    rw [CodePoint.isNameCodePoint_iff] at h
    omega
  refine ⟨⟨?_, ?_⟩, ?_, ?_⟩
  · rw [isForeign, hsurrogate, Bool.or_false, beq_eq_false_iff_ne]
    rintro rfl
    exact absurd h (by decide)
  all_goals
    rintro rfl
    exact absurd h (by decide)

theorem isNameCodePoint_canonical {l : Locale} (h : l.IsPlain) :
    ∀ c ∈ l.canonical, c.isNameCodePoint = true := by
  have hlanguage : ∀ c ∈ l.language, c.isNameCodePoint = true := fun c hc =>
    CodePoint.isNameCodePoint_of_isAsciiLower (((isPlainLanguage_iff _).mp h.language).2 c hc)
  unfold Locale.canonical
  split
  next => exact hlanguage
  next region hregion =>
    have hcode := ((isPlainRegion_iff region).mp (h.region region hregion)).2
    rw [List.forall_mem_append, List.forall_mem_cons]
    exact ⟨hlanguage, by decide, fun c hc => CodePoint.isNameCodePoint_of_isRegional (hcode c hc)⟩

theorem isVerbatim_description (h : ∀ l ∈ t.locales, l.IsPlain) : IsVerbatim (description t) := by
  have hlist : ∀ c ∈ Text.joined ", " (t.locales.map Locale.canonical), isPlainChar c = true := by
    refine Text.forall_mem_joined (q := fun c => isPlainChar c = true) (by decide) ?_
    rintro _ hpart
    obtain ⟨l, hl, rfl⟩ := List.mem_map.mp hpart
    exact fun c hc => isPlainChar_of_isNameCodePoint (isNameCodePoint_canonical (h l hl) c hc)
  apply isVerbatim_of_plain
  simp only [description, List.forall_mem_append]
  exact ⟨⟨⟨by decide, by decide⟩, hlist⟩, by decide⟩

/-- What follows the exports. -/
def statements (p : ClassPrefix) (t : LookupTable) (keys : List Text) : Text :=
  support.fill (content p t keys) ++ (requests.fill (content p t keys) ++
    (abstractBase.fill (content p t keys) ++ (lookup.fill (content p t keys) ++
      delegate.fill (content p t keys))))

theorem source_eq (p : ClassPrefix) (t : LookupTable) (keys : List Text) : source p t keys =
    tripled (description t) ++ (whole (openingLines p) ++ statements p t keys) := by
  rw [source_eq_fill, skeleton, statements]
  simp only [Skeleton.fill_append, opening_eq, List.append_assoc]

theorem readTripled_source (named : Text → Option CodePoint) (p : ClassPrefix)
    (h : ∀ l ∈ t.locales, l.IsPlain) (keys : List Text) :
    readTripled named (source p t keys) =
      some (description t, whole (openingLines p) ++ statements p t keys) := by
  have hend : description t = heading ++ "\n\nSupported locales: " ++
      Text.joined ", " (t.locales.map Locale.canonical) ++ "." ++ [('\n' : CodePoint)] := by
    simp only [description, List.append_assoc]
    rfl
  rw [source_eq]
  exact (readTripled_tripled_iff hend (by decide) (by decide) _).mpr (isVerbatim_description h)

theorem boundNames_source (named : Text → Option CodePoint) (hlocales : ∀ l ∈ t.locales, l.IsPlain)
    (htargets : ∀ target ∈ t.targets, LookupSource.IsNamed target)
    (hkeys : ∀ key ∈ keys, Identifier.isAccessor key = true) :
    boundNames named (source p t keys) = some (names p) := by
  have hreads : ReadsAs boundBy (whole (openingLines p) ++ statements p t keys) (names p) :=
    readsAs_openingLines.append <| readsAs_support.append <| readsAs_requests.append <|
      (readsAs_abstractBase hkeys).append <| (readsAs_lookup htargets).append readsAs_delegate
  rw [boundNames, readTripled_source named p hlocales, Option.map_some, hreads.eq rfl]

theorem exportedNames_source (named : Text → Option CodePoint)
    (hlocales : ∀ l ∈ t.locales, l.IsPlain) :
    exportedNames named (source p t keys) = some (exports p) := by
  rw [exportedNames, readTripled_source named p hlocales, Option.map_some, exports_read]

/-- The names that the module binds whatever the prefix is. -/
def fixedNames : List Text :=
  ["annotations", "ABC", "abstractmethod", "__all__", "SUPPORTED_LOCALES", "SUPPORTED_LANGUAGES",
    "UnsupportedLocaleError", "_split_locale", "is_supported"]

def fixedExports : List Text :=
  ["SUPPORTED_LANGUAGES", "SUPPORTED_LOCALES", "UnsupportedLocaleError", "is_supported"]

theorem length_lookupModule (p : ClassPrefix) : p.lookupModule.length = p.text.length := by
  have hascii : ∀ c ∈ p.text, c.isAscii = true := by
    have h := p.accepted
    simp only [Identifier.isClassPrefix, Bool.and_eq_true, List.all_eq_true] at h
    exact h.1.1.1
  rw [ClassPrefix.lookupModule, Text.lower_eq_map hascii, List.length_map]

/-- The three names made of the prefix differ from each other by their lengths. -/
theorem nodup_made (p : ClassPrefix) : [p.base, p.lookup, p.delegate].Nodup := by
  have hlookup : p.lookup.length = p.text.length + 7 := by
    rw [ClassPrefix.lookup, List.length_append, length_lookupModule]
    exact Nat.add_comm _ _
  have hdelegate : p.delegate.length = p.text.length + 8 := by
    rw [ClassPrefix.delegate, List.length_append]
    rfl
  have hne {x y : Text} (h : x.length ≠ y.length) : x ≠ y := fun heq => h (heq ▸ rfl)
  have hbase : p.base.length = p.text.length := rfl
  have h₁ : p.base ≠ p.lookup := hne (by omega)
  have h₂ : p.base ≠ p.delegate := hne (by omega)
  have h₃ : p.lookup ≠ p.delegate := hne (by omega)
  simp [h₁, h₂, h₃]

/-- Of names that neither begin as the lookup does nor end as the delegate, only the base can be
one. -/
theorem nodup_append_made_iff {fixed : List Text} (hfixed : fixed.Nodup)
    (hshape : ∀ name ∈ fixed, ¬ Text.ofString "lookup_" <+: name ∧
      ¬ Text.ofString "Delegate" <:+ name) :
    (fixed ++ [p.base, p.lookup, p.delegate]).Nodup ↔ p.text ∉ fixed := by
  have hlookup : p.lookup ∉ fixed := fun h => (hshape _ h).1 (List.prefix_append _ _)
  have hdelegate : p.delegate ∉ fixed := fun h => (hshape _ h).2 (List.suffix_append _ _)
  have hbase : p.base = p.text := rfl
  rw [List.nodup_append', List.disjoint_left]
  constructor
  · rintro ⟨_, _, hdisjoint⟩ hmem
    exact hdisjoint (hbase ▸ hmem) List.mem_cons_self
  · refine fun hnot => ⟨hfixed, nodup_made p, fun name hname hmade => ?_⟩
    simp only [List.mem_cons, List.not_mem_nil, or_false] at hmade
    rcases hmade with rfl | rfl | rfl
    · exact hnot hname
    · exact hlookup hname
    · exact hdelegate hname

theorem nodup_names_iff : (names p).Nodup ↔ p.text ∉ fixedNames := by
  have hperm : (names p).Perm (fixedNames ++ [p.base, p.lookup, p.delegate]) :=
    (List.Perm.swap _ _ _).append_left (fixedNames.take 8)
  rw [hperm.nodup_iff, nodup_append_made_iff (by decide) (by decide)]

theorem nodup_exports_iff : (exports p).Nodup ↔ p.text ∉ fixedExports := by
  have hfixed : (exports p).Perm (fixedExports ++ [p.lookup, p.base, p.delegate]) :=
    (@List.perm_append_comm _ [p.base, p.delegate] _) |>.append_left (fixedExports.take 2)
  have hperm : (exports p).Perm (fixedExports ++ [p.base, p.lookup, p.delegate]) :=
    hfixed.trans ((List.Perm.swap _ _ _).append_left fixedExports)
  rw [hperm.nodup_iff, nodup_append_made_iff (by decide) (by decide)]

/-- The names that the lookup module binds are distinct exactly if the prefix is not one of those
that it binds in any case, and so are the names that it exports. Both lists are read from the text
of the module, for groups of plain locales and keys of accessors. -/
theorem names_distinct_iff (named : Text → Option CodePoint) (p : ClassPrefix)
    {gs : List LanguageGroup} (plain : ∀ l ∈ Groups.locales gs, l.IsPlain) {keys : List Text}
    (hkeys : ∀ key ∈ keys, Identifier.isAccessor key = true) :
    boundNames named (source p (.ofGroups p gs) keys) = some (names p) ∧
    ((names p).Nodup ↔ p.text ∉ fixedNames) ∧
    exportedNames named (source p (.ofGroups p gs) keys) = some (exports p) ∧
    ((exports p).Nodup ↔ p.text ∉ fixedExports) := by
  have htargets : ∀ target ∈ (LookupTable.ofGroups p gs).targets, LookupSource.IsNamed target := by
    intro target htarget
    obtain ⟨l, hl, rfl⟩ := LookupTable.mem_targets_iff.mp htarget
    exact LookupSource.isNamed_ofLocale p (plain l hl)
  exact ⟨boundNames_source named plain htargets hkeys, nodup_names_iff,
    exportedNames_source named plain, nodup_exports_iff⟩

/-- A French module with a regional variant. -/
def frenchGroups : List LanguageGroup :=
  Groups.ofLocales [⟨"fr", none⟩, ⟨"fr", some "CA"⟩]

theorem isPlain_frenchGroups : ∀ l ∈ Groups.locales frenchGroups, l.IsPlain := by
  intro l hl
  have hl := Groups.mem_locales_ofLocales.mp hl
  simp only [List.mem_cons, List.not_mem_nil, or_false] at hl
  rcases hl with rfl | rfl
  · exact ⟨by decide, by simp⟩
  · refine ⟨by decide, ?_⟩
    rintro code ⟨⟩
    decide

theorem isAccessor_hello : ∀ key ∈ [Text.ofString "hello"], Identifier.isAccessor key = true := by
  rw [List.forall_mem_singleton]
  exact Identifier.isAccessor_of_isName ⟨by decide, by decide, by decide⟩ (by decide) (by decide)

theorem names_distinct_usual :
    (names .usual).Nodup ∧ (exports .usual).Nodup ∧
    boundNames (fun _ => none) (source .usual (.ofGroups .usual frenchGroups) ["hello"]) =
      some (names .usual) := by
  obtain ⟨hbound, hnames, _, hexports⟩ :=
    names_distinct_iff (fun _ => none) .usual isPlain_frenchGroups isAccessor_hello
  exact ⟨hnames.mpr (by decide), hexports.mpr (by decide), hbound⟩

/-- A prefix that is accepted although the module has an error class of that name. -/
def clashing : ClassPrefix where
  text := "UnsupportedLocaleError"
  accepted := by decide

theorem not_distinct_clashing :
    Identifier.isClassPrefix "UnsupportedLocaleError" = true ∧
    boundNames (fun _ => none) (source clashing (.ofGroups clashing frenchGroups) ["hello"]) =
      some (names clashing) ∧ ¬(names clashing).Nodup ∧
    exportedNames (fun _ => none) (source clashing (.ofGroups clashing frenchGroups) ["hello"]) =
      some (exports clashing) ∧ ¬(exports clashing).Nodup := by
  have htargets : ∀ target ∈ (LookupTable.ofGroups clashing frenchGroups).targets,
      LookupSource.IsNamed target := by
    intro target htarget
    obtain ⟨l, hl, rfl⟩ := LookupTable.mem_targets_iff.mp htarget
    exact LookupSource.isNamed_ofLocale clashing (isPlain_frenchGroups l hl)
  refine ⟨clashing.accepted, boundNames_source _ isPlain_frenchGroups htargets isAccessor_hello, ?_,
    exportedNames_source _ isPlain_frenchGroups, ?_⟩
  · rw [nodup_names_iff]
    decide
  · rw [nodup_exports_iff]
    decide

end LookupModule

end Phrasebook
