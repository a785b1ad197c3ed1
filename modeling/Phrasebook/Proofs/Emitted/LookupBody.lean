import Mathlib
import Phrasebook.Emitted.LookupBody
import Phrasebook.Proofs.ClassNames
import Phrasebook.Proofs.Emitted.LookupTable
import Phrasebook.Proofs.Emitted.Source
import Phrasebook.Proofs.Locale.Groups

/-! The emitted lookup read as what it is: matches whose cases are tried from the top. Read back, it
answers every request as the table does. -/

namespace Phrasebook

/-- A case of a match: its pattern, the module that it imports from, and the class whose instance
it returns. -/
structure MatchCase (π : Type) where
  pattern : π
  moduleName : Text
  className : Text

/-- A lookup: a match on language and region, if there is one, and a match on the language. -/
structure LookupSource where
  byPair : Option (List (MatchCase (Text × Text)))
  byLanguage : List (MatchCase Text)

namespace LookupSource

open Source

/-! ### The reader -/

variable {π : Type}

def readPair (t : Text) : Option ((Text × Text) × Text) := do
  let t ← skip "(" t
  let (first, t) ← readLiteral t
  let t ← skip ", " t
  let (second, t) ← readLiteral t
  let t ← skip ")" t
  return ((first, second), t)

/-- A case imports a name from a module and returns an instance of the class of that name. -/
def readCase (readPattern : Text → Option (π × Text)) (t : Text) :
    Option (MatchCase π × Text) := do
  let t ← skip "        case " t
  let (pattern, t) ← readPattern t
  let t ← skip ":\n            from ." t
  let (moduleName, t) ← readName t
  let t ← skip " import " t
  let (className, t) ← readName t
  let t ← skip "\n\n            return " t
  let (returned, t) ← readName t
  let t ← skip "()\n" t
  if returned = className then return (⟨pattern, moduleName, className⟩, t) else none

/-- The cases at the front, and what follows them. -/
def readCases (readPattern : Text → Option (π × Text)) (t : Text) :
    Option (List (MatchCase π) × Text) :=
  if (skip "        case " t).isNone then some ([], t)
  else match readCase readPattern t with
    | none => none
    | some (c, rest) =>
      if rest.length < t.length then
        (readCases readPattern rest).map fun e => (c :: e.1, e.2)
      else none
termination_by t.length

/-- A match: its header and at least one case. -/
def readMatch (header : Text) (readPattern : Text → Option (π × Text)) (t : Text) :
    Option (List (MatchCase π) × Text) := do
  let t ← skip header t
  let (cases, t) ← readCases readPattern t
  if cases.isEmpty then none else return (cases, t)

def pairHeader : Text := "\n    match (language, region):\n"

def languageHeader : Text := "\n    match language:\n"

/-- The lookup that a text is. -/
def read (t : Text) : Option LookupSource := do
  let (byPair, t) ←
    if (skip pairHeader t).isNone then some (none, t)
    else (readMatch pairHeader readPair t).map fun e => (some e.1, e.2)
  let (byLanguage, t) ← readMatch languageHeader readLiteral t
  if t.isEmpty then return ⟨byPair, byLanguage⟩ else none

/-- The module and the class that answer a request: those of the first case whose pattern is the
language and the region, or else of the first whose pattern is the language. -/
def select (s : LookupSource) (language : Text) (region : Option Text) : Option (Text × Text) :=
  match (s.byPair.getD []).find? fun c => c.pattern.1 = language ∧ some c.pattern.2 = region with
  | some c => some (c.moduleName, c.className)
  | none => (s.byLanguage.find? fun c => c.pattern = language).map
      fun c => (c.moduleName, c.className)

theorem select_eq (s : LookupSource) (language : Text) (region : Option Text) :
    s.select language region =
      (((s.byPair.getD []).find? fun c => c.pattern.1 = language ∧ some c.pattern.2 = region).map
        fun c => (c.moduleName, c.className)).or
      ((s.byLanguage.find? fun c => c.pattern = language).map
        fun c => (c.moduleName, c.className)) := by
  unfold select
  cases (s.byPair.getD []).find? _ <;> rfl

/-! ### Reading cases back -/

/-- The source of a case with a pattern's source. -/
def caseSource (pattern moduleName className : Text) : Text :=
  "        case " ++ (pattern ++ (":\n            from ." ++ (moduleName ++ (" import " ++
    (className ++ ("\n\n            return " ++ (className ++ "()\n")))))))

theorem length_caseSource_pos (pattern moduleName className : Text) :
    0 < (caseSource pattern moduleName className).length := by
  have hcase : (Text.ofString "        case ").length = 13 := rfl
  rw [caseSource, List.length_append]
  omega

/-- The pattern's source reads back as the pattern. -/
def Reads (readPattern : Text → Option (π × Text)) (source : Text) (pattern : π) : Prop :=
  ∀ rest, Text.EndsRun isMark rest → readPattern (source ++ rest) = some (pattern, rest)

theorem reads_literal (t : Text) : Reads readLiteral t.quoted t :=
  fun _ hrest => readLiteral_quoted t hrest

def pairSource (e : Text × Text) : Text :=
  "(" ++ (e.1.quoted ++ (", " ++ (e.2.quoted ++ ")")))

theorem reads_pair (e : Text × Text) : Reads readPair (pairSource e) e := by
  intro rest _
  have hcomma (u : Text) : Text.EndsRun isMark (Text.ofString ", " ++ u) :=
    Text.endsRun_append (by decide) u
  have hclose (u : Text) : Text.EndsRun isMark (Text.ofString ")" ++ u) :=
    Text.endsRun_append (by decide) u
  simp only [readPair, pairSource, List.append_assoc, skip_append,
    readLiteral_quoted _ (hcomma _), readLiteral_quoted _ (hclose _), Option.bind_eq_bind,
    Option.bind_some]
  rfl

theorem readCase_caseSource {readPattern : Text → Option (π × Text)} {source : Text} {pattern : π}
    (h : Reads readPattern source pattern) {moduleName className : Text}
    (hmodule : Identifier.IsName moduleName) (hclass : Identifier.IsName className) (rest : Text) :
    readCase readPattern (caseSource source moduleName className ++ rest) =
      some (⟨pattern, moduleName, className⟩, rest) := by
  have hcolon (u : Text) : Text.EndsRun isMark (Text.ofString ":\n            from ." ++ u) :=
    Text.endsRun_append (by decide) u
  have himport (u : Text) :
      Text.EndsRun Identifier.isContinue (Text.ofString " import " ++ u) :=
    Text.endsRun_append (by decide +kernel) u
  have hreturn (u : Text) :
      Text.EndsRun Identifier.isContinue (Text.ofString "\n\n            return " ++ u) :=
    Text.endsRun_append (by decide +kernel) u
  have hcall (u : Text) : Text.EndsRun Identifier.isContinue (Text.ofString "()\n" ++ u) :=
    Text.endsRun_append (by decide +kernel) u
  simp only [readCase, caseSource, List.append_assoc, skip_append, h _ (hcolon _),
    readName_append hmodule (himport _), readName_append hclass (hreturn _),
    readName_append hclass (hcall _), Option.bind_eq_bind, Option.bind_some, if_pos]
  rfl

/-- Cases read back one after the other. -/
theorem readCases_flatMap {α : Type} {readPattern : Text → Option (π × Text)}
    {source : α → Text} {pattern : α → π} {moduleName className : α → Text} {es : List α}
    (h : ∀ e ∈ es, Reads readPattern (source e) (pattern e) ∧
      Identifier.IsName (moduleName e) ∧ Identifier.IsName (className e))
    {rest : Text} (hrest : skip "        case " rest = none) :
    readCases readPattern
        (es.flatMap (fun e => caseSource (source e) (moduleName e) (className e)) ++ rest) =
      some (es.map fun e => ⟨pattern e, moduleName e, className e⟩, rest) := by
  induction es with
  | nil =>
    rw [List.flatMap_nil, List.nil_append, readCases, hrest]
    rfl
  | cons e es ih =>
    rw [List.forall_mem_cons] at h
    obtain ⟨⟨hpattern, hmodule, hclass⟩, hes⟩ := h
    have hcase := readCase_caseSource hpattern hmodule hclass
    have hlength := length_caseSource_pos (source e) (moduleName e) (className e)
    rw [List.flatMap_cons, List.append_assoc, readCases, hcase]
    simp only [ih hes]
    rw [if_neg (by simp [caseSource]),
      if_pos (by simp only [List.length_append]; omega)]
    rfl

theorem readMatch_append {α : Type} (header : Text) {readPattern : Text → Option (π × Text)}
    {source : α → Text} {pattern : α → π} {moduleName className : α → Text} {es : List α}
    (h : ∀ e ∈ es, Reads readPattern (source e) (pattern e) ∧
      Identifier.IsName (moduleName e) ∧ Identifier.IsName (className e))
    (hne : es ≠ []) {rest : Text} (hrest : skip "        case " rest = none) :
    readMatch header readPattern (header ++
        (es.flatMap (fun e => caseSource (source e) (moduleName e) (className e)) ++ rest)) =
      some (es.map fun e => ⟨pattern e, moduleName e, className e⟩, rest) := by
  simp only [readMatch, skip_append, Option.bind_eq_bind, Option.bind_some,
    readCases_flatMap h hrest]
  rw [if_neg (by simpa using hne)]
  rfl

/-! ### The emitted lookup -/

variable {t : LookupTable}

theorem regionCase_eq (e : (Text × Text) × LookupTarget) : LookupTable.regionCase e =
    caseSource (pairSource e.1) e.2.moduleName e.2.className := by
  have hopen : Text.ofString "        case (" =
      Text.ofString "        case " ++ Text.ofString "(" := by
    decide
  have hclose : Text.ofString "):\n            from ." =
      Text.ofString ")" ++ Text.ofString ":\n            from ." := by
    decide
  simp [LookupTable.regionCase, regionCaseSkeleton, Skeleton.fill, caseSource, pairSource, hopen,
    hclose]

theorem languageCase_eq (e : Text × LookupTarget) : LookupTable.languageCase e =
    caseSource e.1.quoted e.2.moduleName e.2.className := by
  simp [LookupTable.languageCase, languageCaseSkeleton, Skeleton.fill, caseSource]

/-- The case for an entry of a table. -/
def ofEntry (e : π × LookupTarget) : MatchCase π :=
  ⟨e.1, e.2.moduleName, e.2.className⟩

/-- A target whose names are names. -/
def IsNamed (target : LookupTarget) : Prop :=
  Identifier.IsName target.moduleName ∧ Identifier.IsName target.className

/-- The emitted lookup reads back as the table's entries. -/
theorem read_lookupBody (hregion : ∀ e ∈ t.byRegion, IsNamed e.2)
    (hlanguage : ∀ e ∈ t.byLanguage, IsNamed e.2) (hne : t.byLanguage ≠ []) :
    read t.lookupBody =
      some ⟨if t.byRegion = [] then none else some (t.byRegion.map ofEntry),
        t.byLanguage.map ofEntry⟩ := by
  have hlang : readMatch languageHeader readLiteral t.languageMatch =
      some (t.byLanguage.map ofEntry, []) := by
    have heq : t.languageMatch = languageHeader ++ (t.byLanguage.flatMap
        (fun e => caseSource e.1.quoted e.2.moduleName e.2.className) ++ []) := by
      rw [List.append_nil, LookupTable.languageMatch]
      simp only [← languageCase_eq]
      rfl
    rw [heq]
    exact readMatch_append languageHeader (fun e he => ⟨reads_literal e.1, hlanguage e he⟩) hne rfl
  have hother : skip pairHeader t.languageMatch = none ∧
      skip "        case " t.languageMatch = none := ⟨rfl, rfl⟩
  by_cases hempty : t.byRegion = []
  · have hbody : t.lookupBody = t.languageMatch := by
      rw [LookupTable.lookupBody, LookupTable.regionMatch, if_pos hempty, List.nil_append]
    rw [hbody, if_pos hempty, read, if_pos (by rw [hother.1]; rfl)]
    simp only [Option.bind_eq_bind, Option.bind_some, hlang]
    rfl
  · have hbody : t.lookupBody = pairHeader ++ (t.byRegion.flatMap
        (fun e => caseSource (pairSource e.1) e.2.moduleName e.2.className) ++
          t.languageMatch) := by
      rw [LookupTable.lookupBody, LookupTable.regionMatch, if_neg hempty, List.append_assoc]
      simp only [← regionCase_eq]
      rfl
    have hpairs := readMatch_append pairHeader
      (fun e he => ⟨reads_pair e.1, hregion e he⟩) hempty hother.2
    rw [hbody, if_neg hempty, read, if_neg (by simp), hpairs]
    simp only [Option.bind_eq_bind, Option.bind_some, Option.map_some, hlang]
    rfl

theorem find?_ofEntry [BEq π] [LawfulBEq π] [DecidableEq π] (es : List (π × LookupTarget)) (x : π) :
    ((es.map ofEntry).find? fun c => c.pattern = x).map (fun c => (c.moduleName, c.className)) =
      (es.lookup x).map fun target => (target.moduleName, target.className) := by
  induction es with
  | nil => rfl
  | cons e es ih =>
    obtain ⟨y, target⟩ := e
    by_cases hxy : y = x
    · subst hxy
      simp [ofEntry]
    · have hne : (x == y) = false := beq_false_of_ne (Ne.symm hxy)
      rw [List.map_cons, List.find?_cons_of_neg (by simp [ofEntry, hxy]), ih,
        List.lookup_cons, hne]

/-- Cases made from the entries of a table select what the table resolves. -/
theorem select_ofEntries (t : LookupTable) (language : Text) (region : Option Text) :
    select ⟨if t.byRegion = [] then none else some (t.byRegion.map ofEntry),
        t.byLanguage.map ofEntry⟩ language region =
      (t.resolve language region).toOption.map
        fun target => (target.moduleName, target.className) := by
  have hpairs : (if t.byRegion = [] then none else some (t.byRegion.map ofEntry)).getD [] =
      t.byRegion.map ofEntry := by
    split_ifs with h
    · rw [h]
      rfl
    · rfl
  have hown : ((t.byRegion.map ofEntry).find? fun c =>
      c.pattern.1 = language ∧ some c.pattern.2 = region).map
        (fun c => (c.moduleName, c.className)) =
      (region.bind fun code => t.byRegion.lookup (language, code)).map
        fun target => (target.moduleName, target.className) := by
    cases region with
    | none => simp
    | some code =>
      have hpattern (c : MatchCase (Text × Text)) :
          (c.pattern.1 = language ∧ some c.pattern.2 = some code) ↔
            c.pattern = (language, code) := by
        rw [Prod.ext_iff, Option.some_inj]
      simp only [hpattern]
      exact find?_ofEntry t.byRegion (language, code)
  rw [select_eq, LookupTable.toOption_resolve, Option.map_or, hpairs, hown, find?_ofEntry]

theorem isNamed_ofLocale (p : ClassPrefix) {l : Locale} (h : l.IsPlain) :
    IsNamed (LookupTarget.ofLocale p l) :=
  ⟨p.isName_moduleOf h.language, p.isName_classOf h⟩

variable {inputDir : Text} {ls : List Locale} {gs : List LanguageGroup}

theorem byLanguage_ne_nil (p : ClassPrefix) (hne : ls ≠ [])
    (h : (Groups.build inputDir ls).outcome = .ok gs) :
    (LookupTable.ofGroups p gs).byLanguage ≠ [] := by
  obtain ⟨rfl, hfallback⟩ := Groups.build_ok_iff.mp h
  obtain ⟨l, rest, rfl⟩ := List.exists_cons_of_ne_nil hne
  have hdefault := Groups.mem_locales_ofLocales.mpr (hfallback l (List.mem_cons_self ..))
  exact List.ne_nil_of_mem (List.mem_filterMap.mpr ⟨_, hdefault, rfl⟩)

/-- The emitted lookup of plain locales is a lookup that selects, for every request, the module and
the class that the table resolves, and none exactly where the request is unsupported. -/
theorem lookupBody_refines (p : ClassPrefix) (hne : ls ≠ []) (plain : ∀ l ∈ ls, l.IsPlain)
    (h : (Groups.build inputDir ls).outcome = .ok gs) :
    ∃ s, read (LookupTable.ofGroups p gs).lookupBody = some s ∧
      s.byPair ≠ some [] ∧ s.byLanguage ≠ [] ∧
      ∀ language region,
        s.select language region =
          ((LookupTable.ofGroups p gs).resolve language region).toOption.map
            (fun target => (target.moduleName, target.className)) ∧
        (s.select language region = none ↔ ∃ code,
          (LookupTable.ofGroups p gs).resolve language region =
            .error (.unsupportedLocale code)) := by
  have hlanguages := byLanguage_ne_nil p hne h
  obtain ⟨rfl, _⟩ := Groups.build_ok_iff.mp h
  have hplain : ∀ l ∈ Groups.locales (Groups.ofLocales ls), l.IsPlain :=
    fun l hl => plain l (Groups.mem_locales_ofLocales.mp hl)
  have hread := read_lookupBody (t := LookupTable.ofGroups p (Groups.ofLocales ls))
    (fun e he => by
      obtain ⟨hl, htarget⟩ := LookupTable.of_mem_byRegion he
      exact htarget ▸ isNamed_ofLocale p (hplain _ hl))
    (fun e he => by
      obtain ⟨hl, htarget⟩ := LookupTable.of_mem_byLanguage he
      exact htarget ▸ isNamed_ofLocale p (hplain _ hl))
    hlanguages
  refine ⟨_, hread, ?_, by simpa using hlanguages, ?_⟩
  · split_ifs with hempty
    · simp
    · simpa using hempty
  · intro language region
    have hselect := select_ofEntries (LookupTable.ofGroups p (Groups.ofLocales ls)) language region
    refine ⟨hselect, ?_⟩
    rw [hselect, Option.map_eq_none_iff]
    exact LookupTable.toOption_resolve_eq_none_iff

theorem lookupBody_refines_french :
    ∃ s, read (LookupTable.ofGroups .usual
        (Groups.ofLocales [⟨"fr", none⟩, ⟨"fr", some "CA"⟩])).lookupBody = some s ∧
      s.byPair ≠ some [] ∧ s.byLanguage ≠ [] := by
  have plain : ∀ l ∈ ([⟨"fr", none⟩, ⟨"fr", some "CA"⟩] : List Locale), l.IsPlain := by
    rw [List.forall_mem_cons, List.forall_mem_singleton]
    refine ⟨⟨by decide, by simp⟩, ⟨by decide, ?_⟩⟩
    rintro code ⟨⟩
    decide
  have hgroups : (Groups.build "phrases" [⟨"fr", none⟩, ⟨"fr", some "CA"⟩]).outcome =
      .ok (Groups.ofLocales [⟨"fr", none⟩, ⟨"fr", some "CA"⟩]) :=
    Groups.build_ok_iff.mpr ⟨rfl, by decide⟩
  obtain ⟨s, hread, hpair, hlanguage, _⟩ :=
    lookupBody_refines .usual (by simp) plain hgroups
  exact ⟨s, hread, hpair, hlanguage⟩

end LookupSource

end Phrasebook
