import Mathlib
import Phrasebook.Proofs.Generation.Acceptance
import Phrasebook.Proofs.Generation.Failing
import Phrasebook.Proofs.PhraseFile.Stable

/-! Running a generator again. A successful run leaves its phrase files as they are, and a second
run makes and writes the same and changes nothing, unless the first has put something into the
input directory that the disk refuses to look at. -/

namespace Phrasebook

/-- No module is a phrase file. -/
theorem nameSuffix_moduleFile_ne (name : Text) :
    nameSuffix (moduleFile name) ≠ PhraseFile.ending := by
  have hlast : (moduleFile name).getLast? = some ('y' : CodePoint) := by
    rw [moduleFile, List.getLast?_append]
    rfl
  intro h
  unfold nameSuffix at h
  dsimp only at h
  split_ifs at h with hnone
  · exact absurd h (by decide)
  · have hend := congrArg List.getLast? h
    rw [List.getLast?_drop, hlast] at hend
    split_ifs at hend
    · exact absurd hend (by decide)
    · exact absurd hend (by decide)

namespace Output

variable {d : Disk} {dir : Path} {tags : List Text} {files : List (Text × Text)}

/-- Files that stand already are written again without a change. -/
theorem writeFiles_again (wf : d.WellFormed) (htags : ∀ tag ∈ tags, IsTag tag)
    (hleads : d.Leads dir) (hunbarred : Disk.hasBarred dir = false)
    (hplain : ∀ f ∈ files, IsPlainName f.1)
    (hfree : ∀ f ∈ files, d.HasTag (d.place dir) tags f.1)
    (hstands : ∀ f ∈ files, d.Replaceable dir f.1 ∧ ∃ bytes, Utf8.encode f.2 = .ok bytes ∧
      d.look (d.place dir ++ [f.1]) = some (.file bytes)) :
    (writeFiles tags dir d files).1 = d ∧
      (writeFiles tags dir d files).2.outcome = .ok (files.map fun f => dir.joinText f.1) := by
  induction files with
  | nil => exact ⟨rfl, rfl⟩
  | cons f files ih =>
    rw [List.forall_mem_cons] at hplain hfree hstands
    obtain ⟨⟨hreplaceable, bytes, hbytes, hlook⟩, hstands⟩ := hstands
    have hreplace := Disk.replaceFile_of_replaceable wf htags hfree.1 hleads hunbarred hplain.1
      hreplaceable hbytes
    rw [Disk.put_self wf hlook, ← joinText_plain hplain.1] at hreplace
    obtain ⟨hdisk, houtcome⟩ := writeFiles_cons_ok files hreplace
    obtain ⟨hrest, hpaths⟩ := ih hplain.2 hfree.2 hstands
    exact ⟨hdisk.trans hrest, by rw [houtcome, hpaths]; rfl⟩

end Output

namespace Generator

variable {g : Generator} {d d' : Disk} {tags : List Text} {made : Generated}

/-- What a run leaves that has put all outputs into the output directory: they stand there and
could be replaced, and in the input directory are the same phrase files. -/
structure Leaves (g : Generator) (d : Disk) (outputs : List (Text × Text)) (d' : Disk) : Prop where
  wellFormed : d'.WellFormed
  same : d.SamePhrases d' g.settings.inputDir
  unbarred : Disk.hasBarred g.settings.outputDir = false
  length : byteLength g.settings.outputDir.toText ≤ maxPathLength
  leads : d'.Leads g.settings.outputDir
  plain : ∀ o ∈ outputs, IsPlainName o.1
  stands : ∀ o ∈ outputs, d'.Replaceable g.settings.outputDir o.1 ∧
    ∃ bytes, Utf8.encode o.2 = .ok bytes ∧
      d'.look (d'.place g.settings.outputDir ++ [o.1]) = some (.file bytes)

/-- Modules do not show up among the phrase files. -/
theorem samePhrases_fill {d₁ : Disk} {p dir : Path} {filled : List (Text × Bytes)}
    (hd : Disk.Extends d p d₁) (htakes : d₁.Takes (d.place p) filled)
    (hmodules : ∀ f ∈ filled, ∃ name, f.1 = moduleFile name) :
    d.SamePhrases (d₁.fill (d.place p) filled) dir where
  keeps := hd.keeps.trans (Disk.keeps_fill htakes)
  files name content hsuffix := by
    rw [Disk.look_fill_of_notMem htakes, hd.look_file]
    intro f hf heq
    obtain ⟨base, hbase⟩ := hmodules f hf
    have hname : name = f.1 := (List.append_inj' heq rfl).2 |> List.singleton_inj.mp
    exact nameSuffix_moduleFile_ne base (hbase ▸ hname ▸ hsuffix)

theorem leaves_of_reaches {built : Generated} {filled : List (Text × Bytes)}
    {rest : List (Text × Text)} (wf : d.WellFormed) (normal : g.settings.outputDir.IsNormal)
    (hmade : (d.ensureDirectories g.settings.outputDir).2 = .ok ()) (st : Stages g d built)
    (hreaches : Output.Reaches tags g.settings.outputDir
      (d.ensureDirectories g.settings.outputDir).1 built.outputs built.outputs filled rest) :
    g.Leaves d built.outputs ((d.ensureDirectories g.settings.outputDir).1.fill
      ((d.ensureDirectories g.settings.outputDir).1.place g.settings.outputDir) filled) := by
  have hextends := Disk.extends_ensureDirectories wf normal
  obtain ⟨hleads, hlength⟩ := Disk.leads_ensureDirectories wf normal hmade
  have htakes := hreaches.takes hleads
  have hkeeps := Disk.keeps_fill htakes
  refine ⟨hreaches.wellFormed hextends.wellFormed hleads (st.plain_outputs wf), ?_, normal.unbarred,
    hlength, hkeeps.leads hleads, st.plain_outputs wf, ?_⟩
  · rw [hextends.keeps.place] at htakes ⊢
    apply samePhrases_fill hextends htakes
    intro f hf
    obtain ⟨o, ho, hname⟩ := Output.exists_written hreaches.encodes hf
    obtain ⟨name, hmodule, _⟩ := st.exists_moduleFile wf ho
    exact ⟨name, hname.symm.trans hmodule⟩
  · intro o ho
    obtain ⟨bytes, hbytes, hlook⟩ := hreaches.look_written hleads st.nodup_outputs ho
    have hreplaceable := hreaches.replaceable o ho
    rw [hkeeps.place]
    refine ⟨⟨?_, hreplaceable.length, hkeeps.absolute _ ▸ hreplaceable.room⟩, bytes, hbytes, hlook⟩
    rw [hkeeps.place, hlook]
    simp

/-- A run that succeeds has built its outputs and put all of them into the output directory. -/
theorem leaves_of_run {text : Text} (wf : d.WellFormed)
    (houtput : g.settings.outputDir = .ofText text) (htags : ∀ tag ∈ tags, IsTag tag)
    (h : (g.run tags false d).2.outcome = .ok made) :
    ∃ built, (g.build d).outcome = .ok built ∧ made = g.written built ∧
      g.Leaves d built.outputs (g.run tags false d).1 := by
  cases hbuild : (g.build d).outcome with
  | error t => exact absurd ((run_of_build_error tags false hbuild).2.symm.trans h) (by simp)
  | ok built =>
    rcases run_cases wf houtput htags hbuild with
      ⟨⟨t, ht⟩, _⟩ | ⟨normal, hmade, written, filled, rest, hreaches, hdisk, houtcome⟩
    · exact absurd (h.symm.trans ht) (by simp)
    · have hrest : rest = [] := by
        cases hrest : rest with
        | nil => rfl
        | cons o more =>
          obtain ⟨t, _, hstopped⟩ := hreaches.stopped o more hrest
          rw [houtcome, hstopped] at h
          exact absurd h (by simp [Except.map])
      have hfiles := hreaches.files_eq
      rw [hrest, List.append_nil] at hfiles
      subst hfiles
      rw [houtcome, hreaches.finished hrest] at h
      obtain ⟨st⟩ := stages_of_build hbuild
      refine ⟨built, rfl, (Except.ok.inj h).symm, ?_⟩
      rw [hdisk, hreaches.disk]
      exact leaves_of_reaches wf normal hmade st hreaches

/-- Outputs that stand already are written again without a change. -/
theorem run_of_leaves {built : Generated} (hleaves : g.Leaves d built.outputs d')
    (htags : ∀ tag ∈ tags, IsTag tag)
    (hfree : ∀ o ∈ built.outputs, d'.HasTag (d'.place g.settings.outputDir) tags o.1)
    (hbuild : (g.build d').outcome = .ok built) :
    (g.run tags false d').1 = d' ∧ (g.run tags false d').2.outcome = .ok (g.written built) := by
  obtain ⟨hdisk, houtcome⟩ := run_of_build tags hbuild
  have hmade := Disk.ensureDirectories_of_leads hleaves.unbarred hleaves.length hleaves.leads
  rw [Output.write_of_made _ _ hleaves.unbarred (by rw [hmade]), hmade] at hdisk houtcome
  obtain ⟨hsame, hpaths⟩ := Output.writeFiles_again hleaves.wellFormed htags hleaves.leads
    hleaves.unbarred hleaves.plain hfree hleaves.stands
  exact ⟨hdisk.trans hsame, by rw [houtcome, hpaths]; rfl⟩

/-! ### Generators that read phrase files -/

variable {s : Settings} {r : Reference}

/-- A generator with given tables, whose phrases are in the files. -/
def reading (s : Settings) (r : Reference) : Generator where
  settings := s
  source := .given r

theorem Stages.reference_reading (st : Stages (reading s r) d made) : st.reference = r :=
  (Except.ok.inj st.reference_eq).symm

theorem Stages.found (st : Stages (reading s r) d made) :
    (PhraseFile.inDirectory d s.inputDir r).outcome = .ok st.files := by
  have hfiles := st.files_eq
  rwa [st.reference_reading] at hfiles

theorem Stages.discovered (st : Stages (reading s r) d made) (wf : d.WellFormed) :
    Discovered d s.inputDir r st.files := by
  obtain ⟨hshort, held, hheld⟩ := PhraseFile.standing_of_inDirectory wf st.found
  exact PhraseFile.mem_inDirectory wf hheld hshort st.found

/-- The sets stand for what the files of the directory give. -/
theorem Stages.loaded (st : Stages (reading s r) d made) (wf : d.WellFormed) :
    Loaded r (d.phraseFiles s.inputDir) s.template st.sets st.templateSet := by
  obtain ⟨hshort, held, hheld⟩ := PhraseFile.standing_of_inDirectory wf st.found
  exact {
    gives := gives_iff wf hheld hshort (st.discovered wf) st.loads
    mem := st.templateSet_mem
    wanted := st.templateSet_locale ▸ (PhraseFile.templateOf_ok st.template_eq).2
    distinct := st.nodup_sets }

theorem exists_files {built : Generated} (h : ((reading s r).build d).outcome = .ok built) :
    ∃ files, (PhraseFile.inDirectory d s.inputDir r).outcome = .ok files := by
  obtain ⟨st⟩ := stages_of_build h
  exact ⟨st.files, st.found⟩

/-- From the same phrase files the same is made. -/
theorem build_congr {built : Generated} (wf : d.WellFormed) (wf' : d'.WellFormed)
    (hsame : d.SamePhrases d' s.inputDir) (hshort : ¬d'.IsOverlong s.inputDir)
    (h : ((reading s r).build d).outcome = .ok built) :
    ((reading s r).build d').outcome = .ok built := by
  obtain ⟨files, hfound⟩ := exists_files h
  obtain ⟨hbefore, held, hdir⟩ := PhraseFile.standing_of_inDirectory wf hfound
  have hfiles := PhraseFile.inDirectory_congr (r := r) hsame wf wf' hdir hbefore hshort
  have hloads : PhraseFile.loadAll d' (reading s r).loader files =
      PhraseFile.loadAll d (reading s r).loader files := by
    apply PhraseFile.loadAll_congr
    intro f hf
    obtain ⟨content, hread, hread'⟩ := PhraseFile.read_congr hsame wf wf' hfound hf
    simp only [reading, Phrases.fileLoader, hread, hread']
  rw [outcome_build] at h ⊢
  have hgiven : Trouble.ofFailure (reading s r).reference = .ok r := rfl
  have hinput : (reading s r).settings.inputDir = s.inputDir := rfl
  simp only [hgiven, hinput, hfiles, hfound, bind, Except.bind, hloads] at h ⊢
  exact h

/-- A run that succeeds leaves its phrase files as they were, and a second run changes nothing. It
makes and writes the same, exactly if the disk does not refuse to look at what is now in the input
directory; where it refuses, that ends the run. Disks are taken to be without links and
permissions. -/
theorem run_again_iff {text : Text} {tags' : List Text} {first : Traced Trouble Generated}
    (wf : d.WellFormed) (houtput : s.outputDir = .ofText text) (htags : ∀ tag ∈ tags, IsTag tag)
    (hrun : (reading s r).run tags false d = (d', first)) (hfirst : first.outcome = .ok made)
    (htags' : ∀ tag ∈ tags', IsTag tag)
    (hfree : ∀ o ∈ made.outputs, d'.HasTag (d'.place s.outputDir) tags' o.1) :
    (∃ files, (PhraseFile.inDirectory d s.inputDir r).outcome = .ok files ∧
      ∀ f ∈ files, ∃ content, d.read f.path = .ok content ∧ d'.read f.path = .ok content) ∧
    ((reading s r).run tags' false d').1 = d' ∧
    (((reading s r).run tags' false d').2.outcome = .ok made ↔ ¬d'.IsOverlong s.inputDir) ∧
    (d'.IsOverlong s.inputDir → ∃ e, e.cause = .nameTooLong ∧
      ((reading s r).run tags' false d').2.outcome = .error (.disk e)) := by
  have hok : ((reading s r).run tags false d).2.outcome = .ok made := by
    rw [hrun, hfirst]
  obtain ⟨built, hbuild, rfl, hleaves⟩ :=
    leaves_of_run (g := reading s r) wf houtput htags hok
  rw [hrun] at hleaves
  obtain ⟨files, hfiles⟩ := exists_files hbuild
  have hsame : d.SamePhrases d' s.inputDir := hleaves.same
  refine ⟨⟨files, hfiles, fun f hf =>
    PhraseFile.read_congr hsame wf hleaves.wellFormed hfiles hf⟩, ?_⟩
  by_cases hlong : d'.IsOverlong s.inputDir
  · obtain ⟨e, hcause, herror⟩ := build_of_overlong (r := r) hleaves.wellFormed hlong
    obtain ⟨hdisk, houtcome⟩ := run_of_build_error tags' false herror
    refine ⟨hdisk, ⟨?_, fun hshort => absurd hlong hshort⟩, fun _ => ⟨e, hcause, houtcome⟩⟩
    intro hagain
    exact absurd (hagain.symm.trans houtcome) (by simp)
  · have hbuild' := build_congr wf hleaves.wellFormed hsame hlong hbuild
    obtain ⟨hdisk, houtcome⟩ := run_of_leaves hleaves htags' hfree hbuild'
    exact ⟨hdisk, ⟨fun _ => hlong, fun _ => houtcome⟩, fun h => absurd h hlong⟩

theorem run_again_iff_greeting :
    greetingDisk.WellFormed ∧ greetingDir = .ofText "i18n" ∧ ∃ d' first made,
      (greeter (detour 0) greetingDir).run ["abcdefgh"] false greetingDisk = (d', first) ∧
      first.outcome = .ok made ∧
      (∀ o ∈ made.outputs, d'.HasTag (d'.place greetingDir) ["abcdefgh"] o.1) ∧
      (∃ files, (PhraseFile.inDirectory greetingDisk (detour 0) englishReference).outcome =
          .ok files ∧
        ∀ f ∈ files, ∃ content, greetingDisk.read f.path = .ok content ∧
          d'.read f.path = .ok content) ∧
      ((greeter (detour 0) greetingDir).run ["abcdefgh"] false d').1 = d' ∧
      (((greeter (detour 0) greetingDir).run ["abcdefgh"] false d').2.outcome = .ok made ↔
        ¬d'.IsOverlong (detour 0)) ∧
      (d'.IsOverlong (detour 0) → ∃ e, e.cause = .nameTooLong ∧
        ((greeter (detour 0) greetingDir).run ["abcdefgh"] false d').2.outcome =
          .error (.disk e)) := by
  obtain ⟨made, hmade, houtputs, hwritten⟩ := (leadsToGreeting_detour (Nat.zero_le 510)).run
  generalize hrun : (greeter (detour 0) greetingDir).run ["abcdefgh"] false greetingDisk = result
    at hmade hwritten
  obtain ⟨d', first⟩ := result
  have hfree : ∀ o ∈ made.outputs, d'.HasTag (d'.place greetingDir) ["abcdefgh"] o.1 := by
    rw [houtputs]
    exact hwritten.hasTag leads_greetingDir fresh_greeting
  exact ⟨wellFormed_greetingDisk, greetingDir_eq, d', first, made, rfl, hmade, hfree,
    run_again_iff (s := (greeter (detour 0) greetingDir).settings) wellFormed_greetingDisk
      greetingDir_eq Output.isTag_letters hrun hmade Output.isTag_letters hfree⟩

/-- By way of 510 detours the phrase file can still be looked at, but not the package's index. -/
theorem isOverlong_detour {n : Nat} (hn : n = 510) (wf : d.WellFormed)
    (hsame : greetingDisk.SamePhrases d (detour n))
    (hwritten : Output.HasWritten greetingDisk greetingDir greetingOutputs d) :
    d.IsOverlong (detour n) := by
  obtain ⟨held, hfind⟩ := hsame.find (leadsToGreeting_detour hn.le).find
  have hpackage : packageFile ∈ greetingOutputs.map (·.1) := by
    rw [names_greetingOutputs]
    decide
  obtain ⟨o, ho, hname⟩ := List.mem_map.mp hpackage
  obtain ⟨bytes, _, hlook⟩ := hwritten.files o ho
  have hplace : greetingDisk.place (detour n) = greetingDisk.place greetingDir :=
    (Disk.location_walk (walk_detour n)).symm
  apply Disk.isOverlong_of_look wf hfind
  · rw [hsame.keeps.place, hplace, hlook]
    simp
  · have hentry : IsEntryName packageFile := by constructor <;> decide
    have hlength : byteLength packageFile = 11 := by decide
    rw [hname, byteLength_joinText_detour hentry, hlength, maxPathLength]
    omega

theorem run_detour {n : Nat} (hn : n = 510) : ∃ made d' first,
    (greeter (detour n) greetingDir).run ["abcdefgh"] false greetingDisk = (d', first) ∧
    first.outcome = .ok made ∧
    ∃ e, ((greeter (detour n) greetingDir).run ["abcdefgh"] false d').2.outcome =
      .error (.disk e) := by
  obtain ⟨made, hmade, houtputs, hwritten⟩ := (leadsToGreeting_detour hn.le).run
  obtain ⟨built, _, _, hleaves⟩ := leaves_of_run (g := greeter (detour n) greetingDir)
    wellFormed_greetingDisk greetingDir_eq Output.isTag_letters hmade
  generalize hrun : (greeter (detour n) greetingDir).run ["abcdefgh"] false greetingDisk = result
    at hmade hwritten hleaves
  obtain ⟨d', first⟩ := result
  have hlong := isOverlong_detour hn hleaves.wellFormed hleaves.same hwritten
  obtain ⟨e, _, he⟩ := build_of_overlong (s := (greeter (detour n) greetingDir).settings)
    (r := englishReference) hleaves.wellFormed hlong
  exact ⟨made, d', first, rfl, hmade, e, (run_of_build_error _ _ he).2⟩

/-- By way of 510 detours a run makes the package, but a second one cannot look at it. -/
theorem run_detour_not_again : ∃ made d' first,
    (greeter (detour 510) greetingDir).run ["abcdefgh"] false greetingDisk = (d', first) ∧
    first.outcome = .ok made ∧
    ∃ e, ((greeter (detour 510) greetingDir).run ["abcdefgh"] false d').2.outcome =
      .error (.disk e) :=
  run_detour rfl

end Generator

end Phrasebook
