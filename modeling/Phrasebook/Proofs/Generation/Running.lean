import Mathlib
import Phrasebook.Proofs.Emitted.Modules
import Phrasebook.Proofs.Generation.Outputs
import Phrasebook.Proofs.Generation.Writing
import Phrasebook.Proofs.Phrases
import Phrasebook.Proofs.Text.Normal

/-! Runs that can write. What is built is written, up to the first module that something in the
output directory is in the way of. -/

namespace Phrasebook.Generator

variable {g : Generator} {d : Disk} {tags : List Text} {built made : Generated}

theorem run_of_build_error (tags : List Text) (check : Bool) {t : Trouble}
    (h : (g.build d).outcome = .error t) :
    (g.run tags check d).1 = d ∧ (g.run tags check d).2.outcome = .error t := by
  unfold run
  dsimp only
  rw [h]
  exact ⟨rfl, h⟩

/-- A run writes what it has built. -/
theorem run_of_build (tags : List Text) (h : (g.build d).outcome = .ok made) :
    (g.run tags false d).1 = (Output.write tags g.settings.outputDir d made.outputs).1 ∧
      (g.run tags false d).2.outcome =
        (Output.write tags g.settings.outputDir d made.outputs).2.outcome.map fun written =>
          { made with written } := by
  unfold run
  dsimp only
  rw [h]
  refine ⟨rfl, ?_⟩
  dsimp only
  rw [if_neg (by simp), Traced.outcome_bind, h]
  show (Traced.outcome _) = _
  rw [Traced.outcome_bind]
  cases (Output.write tags g.settings.outputDir d made.outputs).2.outcome <;> rfl

/-- What `made` is once all outputs are written. -/
def written (g : Generator) (made : Generated) : Generated :=
  { made with written := made.outputs.map fun o => g.settings.outputDir.joinText o.1 }

/-- What has been built can be encoded, and there can be a directory for it with unused names for
the scratch files. -/
structure Ready (g : Generator) (d : Disk) (tags : List Text) (built : Generated) : Prop where
  wellFormed : d.WellFormed
  normal : g.settings.outputDir.IsNormal
  hold : d.CanHold g.settings.outputDir
  build : (g.build d).outcome = .ok built
  isTag : ∀ tag ∈ tags, IsTag tag
  fresh : Output.Fresh (d.ensureDirectories g.settings.outputDir).1 g.settings.outputDir tags
    built.outputs
  encodable : ∀ o ∈ built.outputs, Text.IsEncodable o.2

theorem Ready.exists_splits (h : g.Ready d tags built) : ∃ written rest,
    Output.Splits tags d g.settings.outputDir built.outputs written rest := by
  obtain ⟨st⟩ := stages_of_build h.build
  exact Output.exists_splits h.wellFormed h.normal h.hold (st.plain_outputs h.wellFormed)
    st.nodup_outputs (fun o ho => Utf8.exists_encode_iff.mpr (h.encodable o ho)) h.isTag h.fresh

/-- With nothing in the way, a run puts all that it builds into the output directory. -/
theorem Ready.run_of_replaceable (h : g.Ready d tags built)
    (hreplaceable : ∀ o ∈ built.outputs,
      (d.ensureDirectories g.settings.outputDir).1.Replaceable g.settings.outputDir o.1) :
    (g.run tags false d).2.outcome = .ok (g.written built) ∧
      Output.HasWritten d g.settings.outputDir built.outputs (g.run tags false d).1 := by
  obtain ⟨hdisk, houtcome⟩ := run_of_build tags h.build
  obtain ⟨written, rest, hsplits⟩ := h.exists_splits
  cases hrest : rest with
  | nil =>
    have hfiles := hsplits.files_eq
    rw [hrest, List.append_nil] at hfiles
    rw [hdisk, houtcome, hsplits.finished hrest]
    exact ⟨rfl, hfiles ▸ hsplits.holds⟩
  | cons o more =>
    have ho : o ∈ built.outputs := by
      rw [hsplits.files_eq, hrest]
      simp
    exact absurd (hreplaceable o ho) (hsplits.stopped o more hrest).1

/-- Where something is in the way of one module, a run fails, and has put the modules before that
one into the output directory. -/
theorem Ready.run_of_blocked {before after : List (Text × Text)} {o : Text × Text}
    (h : g.Ready d tags built) (houtputs : built.outputs = before ++ o :: after)
    (hreplaceable : ∀ o ∈ before,
      (d.ensureDirectories g.settings.outputDir).1.Replaceable g.settings.outputDir o.1)
    (hblocked :
      ¬(d.ensureDirectories g.settings.outputDir).1.Replaceable g.settings.outputDir o.1) :
    (∃ reason, (g.run tags false d).2.outcome =
      .error (.failure (.unwritable (g.settings.outputDir.joinText o.1).toText reason))) ∧
      Output.HasWritten d g.settings.outputDir before (g.run tags false d).1 := by
  obtain ⟨hdisk, houtcome⟩ := run_of_build tags h.build
  obtain ⟨written, rest, hsplits⟩ := h.exists_splits
  have heq : written = before ∧ rest = o :: after := by
    have hfiles := hsplits.files_eq.symm.trans houtputs
    rcases List.append_eq_append_iff.mp hfiles with ⟨more, rfl, hrest⟩ | ⟨more, rfl, hrest⟩
    · cases more with
      | nil => exact ⟨by simp, hrest⟩
      | cons f more =>
        exact absurd (hreplaceable f (by simp)) (hsplits.stopped f _ hrest).1
    · cases more with
      | nil => exact ⟨by simp, hrest.symm⟩
      | cons f more =>
        obtain ⟨rfl, _⟩ := List.cons_eq_cons.mp hrest
        exact absurd (hsplits.replaceable o (by simp)) hblocked
  obtain ⟨rfl, rfl⟩ := heq
  obtain ⟨reason, hstopped⟩ := (hsplits.stopped o after rfl).2
  rw [hdisk, houtcome, hstopped]
  exact ⟨⟨reason, rfl⟩, hsplits.holds⟩

/-! ### Runs for English -/

/-- The phrases `hello: Hello` as a file holds them. -/
def greeting : Bytes :=
  Utf8.encodeChars "\x7b\"hello\": \"Hello\"\x7d".toList

def greetingName : Text := "en.json"

def englishReference : Reference where
  languages := [("en", "English")]
  regions := []

/-- A generator that reads English phrases. -/
def greeter (input output : Path) : Generator where
  settings := { settingsFor input "en" with outputDir := output }
  source := .given englishReference

def greetingSet (dir : Path) : PhraseSet :=
  ⟨⟨"en", none⟩, dir.joinText greetingName, [("hello", "Hello")]⟩

def greetingClass : AccessorClass :=
  AccessorClass.ofSet .usual (greetingSet ⟨.relative, []⟩)

def greetingTable : LookupTable :=
  LookupTable.ofGroups .usual [⟨"en", [none]⟩]

def greetingOutputs : List (Text × Text) :=
  (greeter ⟨.relative, []⟩ ⟨.relative, []⟩).outputs englishReference [("en", [greetingClass])]
    greetingTable ["hello"]

theorem isEncodable_greetingOutputs : ∀ o ∈ greetingOutputs, Text.IsEncodable o.2 := by
  have hprefix : ClassPrefix.usual.text.IsEncodable := by decide
  have hmodule : ClassPrefix.usual.lookupModule.IsEncodable := by decide
  have hclass : greetingClass.IsEncodable englishReference := by
    constructor <;> decide
  have htarget : ∀ e ∈ greetingTable.byLanguage, e.2.IsEncodable := by
    have hlanguages : greetingTable.byLanguage =
        [(Text.ofString "en", LookupTarget.ofLocale .usual ⟨"en", none⟩)] := by
      decide
    rw [hlanguages, List.forall_mem_singleton]
    constructor <;> decide
  rw [greetingOutputs, outputs, List.forall_mem_append, List.forall_mem_map,
    List.forall_mem_singleton, List.forall_mem_cons, List.forall_mem_singleton]
  refine ⟨?_, ?_, isEncodable_packageSource hprefix hmodule⟩
  · exact isEncodable_languageModuleSource hprefix hmodule (by decide) (by decide)
      (by simpa using hclass)
  · have hregions : greetingTable.byRegion = [] := by decide
    exact LookupModule.isEncodable_source hprefix hmodule (by decide) (by simp [hregions])
      htarget (by decide)

def greetingNames : List Text :=
  ["l10n_en.py", "l10n.py", "__init__.py"]

theorem names_greetingOutputs : greetingOutputs.map (·.1) = greetingNames := by
  decide

/-- The scratch files of the modules are free, if their names are. -/
theorem fresh_of_names {dir : Path} (h : ∀ name ∈ greetingNames, ∃ tag ∈ tags,
      d.look (d.place dir ++ [Disk.scratchName name tag]) = none ∧
      Disk.scratchName name tag ∉ greetingNames) :
    Output.Fresh d dir tags greetingOutputs := by
  rw [← names_greetingOutputs] at h
  exact fun o ho => h o.1 (List.mem_map_of_mem ho)

/-- A directory with nothing but the phrase file, whatever path leads to it. -/
structure LeadsToGreeting (d : Disk) (dir : Path) : Prop where
  find : d.find dir = .ok (.directory [(greetingName, .file greeting)])
  length : byteLength (dir.joinText greetingName).toText ≤ maxPathLength

namespace LeadsToGreeting

variable {input output : Path}

theorem short (h : LeadsToGreeting d input) : ¬d.IsOverlong input := by
  rintro (⟨_, hlong⟩ | ⟨held, hfind, hlong⟩)
  · exact absurd (h.find.symm.trans hlong) (by simp)
  · obtain rfl := DiskNode.directory.inj (Except.ok.inj (h.find.symm.trans hfind))
    obtain ⟨e, he, hlong⟩ := hlong
    obtain rfl := List.mem_singleton.mp he
    exact absurd h.length (Nat.not_le_of_lt hlong)

theorem phraseFiles (h : LeadsToGreeting d input) :
    d.phraseFiles input = [(greetingName, greeting)] := by
  simp only [Disk.phraseFiles, h.find]
  decide

theorem inDirectory (h : LeadsToGreeting d input) (wf : d.WellFormed) :
    (PhraseFile.inDirectory d input englishReference).outcome =
      .ok [⟨⟨"en", none⟩, input.joinText greetingName⟩] := by
  have hlocale : Locale.ofFileName englishReference greetingName = .ok ⟨"en", none⟩ := by
    decide
  exact PhraseFile.inDirectory_singleton wf h.find h.short h.phraseFiles hlocale

theorem loadAll (h : LeadsToGreeting d input) (wf : d.WellFormed) :
    (PhraseFile.loadAll d (Phrases.fileLoader Phrases.maxFileSize)
      [⟨⟨"en", none⟩, input.joinText greetingName⟩]).outcome = .ok [greetingSet input] := by
  have hentry : (greetingName, greeting) ∈ d.phraseFiles input := by
    simp [h.phraseFiles]
  obtain ⟨hunbarred, hread⟩ := PhraseFile.read_entry wf h.find h.short hentry
  have hphrases : Phrases.ofBytes Phrases.maxFileSize greeting = .ok [("hello", "Hello")] := by
    decide +kernel
  have hload := (Phrases.fileLoader_ok_iff hunbarred hread).mpr hphrases
  simp only [PhraseFile.loadAll, Traced.outcome_bind]
  rw [PhraseFile.load_ok hload]
  rfl

theorem build (h : LeadsToGreeting d input) (wf : d.WellFormed) (output : Path) :
    ∃ built, ((greeter input output).build d).outcome = .ok built ∧
      built.outputs = greetingOutputs := by
  have hgroups : Groups.ofLocales [(⟨"en", none⟩ : Locale)] = [⟨"en", [none]⟩] := by
    cbv
  have htemplate : PhraseFile.templateOf [⟨⟨"en", none⟩, input.joinText greetingName⟩] input "en" =
      .ok ⟨⟨"en", none⟩, input.joinText greetingName⟩ := by
    have hwanted : Locale.normalize ((PhraseFile.templateName "en").before '.') = "en" := by
      decide
    simp only [PhraseFile.templateOf, hwanted]
    rfl
  have haccessor : ∀ key ∈ (greetingSet input).keys, Identifier.isAccessor key = true := by
    have hkeys : (greetingSet input).keys = [Text.ofString "hello"] := rfl
    rw [hkeys, List.forall_mem_singleton]
    apply Identifier.isAccessor_of_isName
    · exact Identifier.isName_cons (by decide) (by decide) (by decide)
    · decide
    · decide
  have haccepts : ((⟨⟨"en", none⟩, (greetingSet input).path, ["hello"]⟩ : Schema).checkAll
      [greetingSet input]).outcome = .ok () := by
    rfl
  have hbundles : (Bundle.ofGroups .usual [greetingSet input] [⟨"en", [none]⟩]).outcome =
      .ok [("en", [greetingClass])] := by
    rfl
  have hbuild := build_of_stages (g := greeter input output) rfl (h.inDirectory wf) htemplate
    hgroups (by simp [Locale.default]) (h.loadAll wf) (t := greetingSet input) rfl haccessor
    haccepts hbundles
  exact ⟨_, hbuild, rfl⟩

/-- Into a directory that stands already the modules can be written. -/
theorem ready (h : LeadsToGreeting d input) (wf : d.WellFormed) (normal : output.IsNormal)
    (hlength : byteLength output.toText ≤ maxPathLength) (hleads : d.Leads output)
    (htags : ∀ tag ∈ tags, IsTag tag) (hfresh : Output.Fresh d output tags greetingOutputs) :
    ∃ built, built.outputs = greetingOutputs ∧ (greeter input output).Ready d tags built := by
  obtain ⟨built, hbuild, houtputs⟩ := h.build wf output
  have hstands := Disk.ensureDirectories_of_leads normal.unbarred hlength hleads
  have houtput : (greeter input output).settings.outputDir = output := rfl
  refine ⟨built, houtputs, wf, normal, Disk.canHold_of_leads wf normal hlength hleads, hbuild,
    htags, ?_, ?_⟩
  · rw [houtput, hstands, houtputs]
    exact hfresh
  · rw [houtputs]
    exact isEncodable_greetingOutputs

end LeadsToGreeting

/-! ### The modules next to the phrases -/

def greetingDir : Path :=
  ⟨.relative, ["i18n"]⟩

/-- A disk with an English phrase file. -/
def greetingDisk : Disk where
  root := .directory [("i18n", .directory [(greetingName, .file greeting)])]
  workingDirectory := []

theorem isEntryName_greetingName : IsEntryName greetingName := by
  constructor <;> decide

theorem isEntryName_directory : IsEntryName "i18n" := by
  constructor <;> decide

theorem wellFormed_greetingDisk : greetingDisk.WellFormed := by
  have hinner : DiskNode.Proper (.directory [(greetingName, .file greeting)]) :=
    DiskNode.proper_nil.cons isEntryName_greetingName (by simp) (DiskNode.proper_file greeting)
  exact DiskNode.proper_nil.cons isEntryName_directory (by simp) hinner

theorem greetingDir_eq : greetingDir = .ofText "i18n" := by
  decide

theorem isNormal_greetingDir : greetingDir.IsNormal := by
  refine ⟨?_, by decide⟩
  rw [greetingDir, List.forall_mem_singleton]
  constructor <;> decide

theorem leads_greetingDir : greetingDisk.Leads greetingDir :=
  ⟨_, rfl, rfl⟩

theorem fresh_greeting : Output.Fresh greetingDisk greetingDir ["abcdefgh"] greetingOutputs := by
  apply fresh_of_names
  decide

theorem replaceable_greeting :
    ∀ o ∈ greetingOutputs, greetingDisk.Replaceable greetingDir o.1 := by
  have hnames : ∀ name ∈ greetingOutputs.map (·.1),
      greetingDisk.Replaceable greetingDir name := by
    rw [names_greetingOutputs, greetingNames, List.forall_mem_cons, List.forall_mem_cons,
      List.forall_mem_singleton]
    refine ⟨⟨?_, ?_, ⟨?_, ?_⟩⟩, ⟨?_, ?_, ⟨?_, ?_⟩⟩, ⟨?_, ?_, ⟨?_, ?_⟩⟩⟩ <;> decide
  exact fun o ho => hnames o.1 (List.mem_map_of_mem ho)

/-- The directory of the modules stands, and each of them can be put there. -/
theorem LeadsToGreeting.run {input : Path} (h : LeadsToGreeting greetingDisk input) :
    ∃ made, ((greeter input greetingDir).run ["abcdefgh"] false greetingDisk).2.outcome =
        .ok made ∧
      made.outputs = greetingOutputs ∧
      Output.HasWritten greetingDisk greetingDir greetingOutputs
        ((greeter input greetingDir).run ["abcdefgh"] false greetingDisk).1 := by
  have hlength : byteLength greetingDir.toText ≤ maxPathLength := by decide
  have hstands := congrArg Prod.fst (Disk.ensureDirectories_of_leads isNormal_greetingDir.unbarred
    hlength leads_greetingDir)
  have houtput : (greeter input greetingDir).settings.outputDir = greetingDir := rfl
  obtain ⟨built, houtputs, hready⟩ := h.ready wellFormed_greetingDisk isNormal_greetingDir hlength
    leads_greetingDir Output.isTag_letters fresh_greeting
  have hrun := hready.run_of_replaceable
  rw [houtput, hstands, houtputs] at hrun
  obtain ⟨hok, hwritten⟩ := hrun replaceable_greeting
  exact ⟨_, hok, houtputs, hwritten⟩

/-! ### A path that takes detours -/

/-- Parts that lead to a directory by way of the directory above it, over and over. -/
def detourParts : Nat → List Text
  | 0 => ["i18n"]
  | n + 1 => "i18n" :: upward :: detourParts n

def detour (n : Nat) : Path :=
  ⟨.relative, detourParts n⟩

theorem walk_detour (n : Nat) : greetingDisk.walk (detour n) =
    .ok [("i18n", .directory [(greetingName, .file greeting)])] := by
  rw [Disk.walk_eq]
  show (detourParts n).foldlM greetingDisk.enter [] = _
  induction n with
  | zero => rfl
  | succ n ih =>
    have hfirst : greetingDisk.enter [] "i18n" =
        .ok [("i18n", .directory [(greetingName, .file greeting)])] := rfl
    have hback : greetingDisk.enter [("i18n", .directory [(greetingName, .file greeting)])] upward =
        .ok [] := rfl
    rw [detourParts, List.foldlM_cons, hfirst]
    show List.foldlM _ _ _ = _
    rw [List.foldlM_cons, hback]
    exact ih

theorem byteLength_detour (n : Nat) : byteLength (Text.joined [Path.slash] (detourParts n)) =
    8 * n + 4 := by
  induction n with
  | zero => decide
  | succ n ih =>
    have hname : byteLength "i18n" = 4 := by decide
    have hupward : byteLength upward = 2 := by decide
    have hslash : byteLength [Path.slash] = 1 := by decide
    have hparts : detourParts n ≠ [] := by cases n <;> simp [detourParts]
    rw [detourParts, Text.joined_cons (by simp), Text.joined_cons hparts]
    simp only [byteLength_append, ih, hname, hupward, hslash]
    omega

theorem byteLength_joinText_detour {name : Text} (hname : IsEntryName name) (n : Nat) :
    byteLength ((detour n).joinText name).toText = 8 * n + 5 + byteLength name := by
  have hparts : detourParts n ≠ [] := by cases n <;> simp [detourParts]
  have hroot : byteLength Path.Root.relative.text = 0 := rfl
  have hslash : byteLength [Path.slash] = 1 := by decide
  rw [Disk.joinText_entryName hname, detour, Path.toText_append_singleton, Path.lead,
    if_neg hparts]
  simp only [byteLength_append, byteLength_detour, hroot, hslash]
  omega

/-- With as many detours the path still leads to the directory. -/
theorem find_detour {n : Nat} (h : n ≤ 511) :
    greetingDisk.find (detour n) = .ok (.directory [(greetingName, .file greeting)]) := by
  have hparts : detourParts n ≠ [] := by cases n <;> simp [detourParts]
  have hroot : byteLength Path.Root.relative.text = 0 := rfl
  have hdir : byteLength (detour n).toText ≤ maxPathLength := by
    rw [detour, Path.toText, if_neg (by simp [hparts]), byteLength_append, byteLength_detour,
      hroot, maxPathLength]
    omega
  exact Disk.find_eq_ok_iff.mpr ⟨hdir, _, walk_detour n, rfl⟩

/-- With one detour less the path still leads to the phrase file. -/
theorem leadsToGreeting_detour {n : Nat} (h : n ≤ 510) :
    LeadsToGreeting greetingDisk (detour n) := by
  have hfile : byteLength greetingName = 7 := by decide
  constructor
  · exact find_detour (by omega)
  · rw [byteLength_joinText_detour isEntryName_greetingName, hfile, maxPathLength]
    omega

end Phrasebook.Generator
