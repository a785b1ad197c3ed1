import Mathlib
import Phrasebook.Proofs.Disk.Refusals
import Phrasebook.Proofs.Generation.Running

/-! Runs that fail. They leave the files in the output directory alone, unless a later module is the
first that cannot be written: then the modules before it have been written already. -/

namespace Phrasebook

namespace Disk

variable {d d' : Disk} {l : Location} {written : List (Text × Text)}

/-- Below a place the same files stand on both disks, with the same content. -/
def SameFiles (d d' : Disk) (l : Location) : Prop :=
  ∀ m content, d'.look (l ++ m) = some (.file content) ↔ d.look (l ++ m) = some (.file content)

/-- The files on `d'` are those on `d`, with the given ones written into a directory. -/
structure GivenFiles (d : Disk) (l : Location) (written : List (Text × Text)) (d' : Disk) :
    Prop where
  holds : ∀ o ∈ written, ∃ bytes, Utf8.encode o.2 = .ok bytes ∧
    d'.look (l ++ [o.1]) = some (.file bytes)
  others : ∀ m, (∀ o ∈ written, m ≠ l ++ [o.1]) → ∀ content,
    d'.look m = some (.file content) ↔ d.look m = some (.file content)

theorem givenFiles_nil (h : ∀ m content,
    d'.look m = some (.file content) ↔ d.look m = some (.file content)) :
    GivenFiles d l [] d' :=
  ⟨by simp, fun m _ => h m⟩

/-- Nothing has changed for the files exactly if those that were written stood there before. -/
theorem GivenFiles.sameFiles_iff (h : GivenFiles d l written d') :
    SameFiles d d' l ↔ ∀ o ∈ written, ∃ bytes, Utf8.encode o.2 = .ok bytes ∧
      d.look (l ++ [o.1]) = some (.file bytes) := by
  constructor
  · intro hsame o ho
    obtain ⟨bytes, hbytes, hlook⟩ := h.holds o ho
    exact ⟨bytes, hbytes, (hsame [o.1] bytes).mp hlook⟩
  · intro hstood m content
    by_cases hm : ∃ o ∈ written, m = [o.1]
    · obtain ⟨o, ho, rfl⟩ := hm
      obtain ⟨bytes, hbytes, hlook⟩ := h.holds o ho
      obtain ⟨bytes', hbytes', hlook'⟩ := hstood o ho
      obtain rfl := Except.ok.inj (hbytes.symm.trans hbytes')
      rw [hlook, hlook']
    · apply h.others
      intro o ho heq
      exact hm ⟨o, ho, List.append_cancel_left heq⟩

end Disk

namespace Generator

variable {g : Generator} {d : Disk} {tags : List Text} {made : Generated} {f : Failure}

/-- Files put into a directory are what is given to it. -/
theorem givenFiles_of_reaches {dir : Path} {d₁ : Disk} {files written rest : List (Text × Text)}
    {filled : List (Text × Bytes)} (hd : Disk.Extends d dir d₁) (hleads : d₁.Leads dir)
    (hdistinct : (files.map (·.1)).Nodup)
    (h : Output.Reaches tags dir d₁ files written filled rest) :
    Disk.GivenFiles d (d.place dir) written (Output.writeFiles tags dir d₁ files).1 := by
  rw [h.disk, ← hd.keeps.place]
  constructor
  · exact fun o ho => h.look_written hleads hdistinct ho
  · intro m hm content
    rw [h.look_other hleads hm, hd.look_file]

/-- Either the output directory cannot be made, and then a run changes no file, or the run is the
writing of the outputs into it. -/
theorem run_cases {text : Text} (wf : d.WellFormed) (houtput : g.settings.outputDir = .ofText text)
    (htags : ∀ tag ∈ tags, IsTag tag) (hbuild : (g.build d).outcome = .ok made) :
    ((∃ t, (g.run tags false d).2.outcome = .error t) ∧ ∀ m content,
      (g.run tags false d).1.look m = some (.file content) ↔ d.look m = some (.file content)) ∨
    (g.settings.outputDir.IsNormal ∧ (d.ensureDirectories g.settings.outputDir).2 = .ok () ∧
      ∃ written filled rest,
        Output.Reaches tags g.settings.outputDir (d.ensureDirectories g.settings.outputDir).1
          made.outputs written filled rest ∧
        (g.run tags false d).1 = (Output.writeFiles tags g.settings.outputDir
          (d.ensureDirectories g.settings.outputDir).1 made.outputs).1 ∧
        (g.run tags false d).2.outcome = (Output.writeFiles tags g.settings.outputDir
          (d.ensureDirectories g.settings.outputDir).1 made.outputs).2.outcome.map fun written =>
            { made with written }) := by
  obtain ⟨st⟩ := stages_of_build hbuild
  obtain ⟨hdisk, houtcome⟩ := run_of_build tags hbuild
  cases hbarred : Disk.hasBarred g.settings.outputDir with
  | true =>
    rw [hdisk, houtcome, Output.write_of_barred hbarred]
    exact .inl ⟨⟨_, rfl⟩, fun _ _ => Iff.rfl⟩
  | false =>
    have normal : g.settings.outputDir.IsNormal := by
      rw [houtput] at hbarred ⊢
      exact Path.isNormal_ofText hbarred
    have hextends := Disk.extends_ensureDirectories wf normal
    cases hmade : (d.ensureDirectories g.settings.outputDir).2 with
    | error t =>
      obtain ⟨hdisk', houtcome'⟩ :=
        Output.write_of_refused tags made.outputs hbarred hmade
      rw [hdisk, houtcome, hdisk', houtcome']
      exact .inl ⟨⟨_, rfl⟩, hextends.look_file⟩
    | ok u =>
      have hleads := (Disk.leads_ensureDirectories wf normal hmade).1
      obtain ⟨written, filled, rest, hreaches⟩ :=
        Output.exists_reaches hextends.wellFormed htags hleads (st.plain_outputs wf)
      rw [hdisk, houtcome, Output.write_of_made _ _ hbarred hmade]
      exact .inr ⟨normal, rfl, written, filled, rest, hreaches, rfl, rfl⟩

/-- What a run that fails has written: nothing, or the modules before one that could not be. -/
theorem exists_givenFiles {text : Text} (wf : d.WellFormed)
    (houtput : g.settings.outputDir = .ofText text) (htags : ∀ tag ∈ tags, IsTag tag)
    (h : (g.run tags false d).2.outcome = .error (.failure f)) :
    ∃ written, Disk.GivenFiles d (d.place g.settings.outputDir) written (g.run tags false d).1 ∧
      (written ≠ [] → ∃ made o rest reason, (g.build d).outcome = .ok made ∧
        made.outputs = written ++ o :: rest ∧
        f = .unwritable (g.settings.outputDir.joinText o.1).toText reason) := by
  cases hbuild : (g.build d).outcome with
  | error t =>
    rw [(run_of_build_error tags false hbuild).1]
    exact ⟨[], Disk.givenFiles_nil (by simp), by simp⟩
  | ok made =>
    rcases run_cases wf houtput htags hbuild with
      ⟨_, hsame⟩ | ⟨normal, hmade, written, filled, rest, hreaches, hdisk, houtcome⟩
    · exact ⟨[], Disk.givenFiles_nil hsame, by simp⟩
    · obtain ⟨st⟩ := stages_of_build hbuild
      have hextends := Disk.extends_ensureDirectories wf normal
      have hleads := (Disk.leads_ensureDirectories wf normal hmade).1
      refine ⟨written, ?_, fun _ => ?_⟩
      · rw [hdisk]
        exact givenFiles_of_reaches hextends hleads st.nodup_outputs hreaches
      · rw [houtcome] at h
        cases hrest : rest with
        | nil => exact absurd h (by simp [hreaches.finished hrest, Except.map])
        | cons o more =>
          obtain ⟨t, ht, hstopped⟩ := hreaches.stopped o more hrest
          rw [hstopped] at h
          have hfailure : Output.refusal (g.settings.outputDir.joinText o.1) t = .failure f :=
            Except.error.inj h
          cases t with
          | disk e =>
            refine ⟨made, o, more, e.message, rfl, hrest ▸ hreaches.files_eq, ?_⟩
            exact (Trouble.failure.inj hfailure).symm
          | failure f' => exact absurd (congrArg Prod.snd ht) (Disk.replaceFile_ne_failure f')
          | _ => exact absurd hfailure (by simp [Output.refusal])

/-- A run that fails leaves the files below the output directory as they were, exactly if the
modules that it has written stood there before. It has written none, unless the failure is about
one after them. Disks are taken to be without links and permissions. -/
theorem run_failure_sameFiles_iff {text : Text} (wf : d.WellFormed)
    (houtput : g.settings.outputDir = .ofText text) (htags : ∀ tag ∈ tags, IsTag tag)
    (h : (g.run tags false d).2.outcome = .error (.failure f)) :
    ∃ written, Disk.GivenFiles d (d.place g.settings.outputDir) written (g.run tags false d).1 ∧
      (written ≠ [] → ∃ made o rest reason, (g.build d).outcome = .ok made ∧
        made.outputs = written ++ o :: rest ∧
        f = .unwritable (g.settings.outputDir.joinText o.1).toText reason) ∧
      (Disk.SameFiles d (g.run tags false d).1 (d.place g.settings.outputDir) ↔
        ∀ o ∈ written, ∃ bytes, Utf8.encode o.2 = .ok bytes ∧
          d.look (d.place g.settings.outputDir ++ [o.1]) = some (.file bytes)) := by
  obtain ⟨written, hgiven, hwritten⟩ := exists_givenFiles wf houtput htags h
  exact ⟨written, hgiven, hwritten, hgiven.sameFiles_iff⟩

/-! ### A run that fails half-way -/

/-- A disk with an English phrase file, and a directory where the module for the look-up is to be
written. -/
def halfBlockedDisk : Disk where
  root := .directory [("i18n", .directory [(greetingName, .file greeting)]),
    ("out", .directory [("l10n.py", .directory [])])]
  workingDirectory := []

theorem wellFormed_halfBlockedDisk : halfBlockedDisk.WellFormed := by
  have hout : IsEntryName "out" := by constructor <;> decide
  have hmodule : IsEntryName "l10n.py" := by constructor <;> decide
  have hblocked : DiskNode.Proper (.directory [("l10n.py", .directory [])]) :=
    DiskNode.proper_nil.cons hmodule (by simp) DiskNode.proper_nil
  have hphrases : DiskNode.Proper (.directory [(greetingName, .file greeting)]) :=
    DiskNode.proper_nil.cons isEntryName_greetingName (by simp) (DiskNode.proper_file greeting)
  exact (DiskNode.proper_nil.cons hout (by simp) hblocked).cons isEntryName_directory
    (by decide) hphrases

/-- A run stops at that directory, but the English module has been written. -/
theorem run_halfBlockedDisk :
    (∃ f, ((greeter greetingDir Output.outDir).run ["abcdefgh"] false halfBlockedDisk).2.outcome =
      .error (.failure f)) ∧
    ∃ content, ((greeter greetingDir Output.outDir).run ["abcdefgh"] false halfBlockedDisk).1.look
      ["out", "l10n_en.py"] = some (.file content) := by
  have hinput : LeadsToGreeting halfBlockedDisk greetingDir := ⟨rfl, by decide⟩
  have hlength : byteLength Output.outDir.toText ≤ maxPathLength := by decide
  have hleads : halfBlockedDisk.Leads Output.outDir := ⟨_, rfl, rfl⟩
  have hfresh : Output.Fresh halfBlockedDisk Output.outDir ["abcdefgh"] greetingOutputs := by
    apply fresh_of_names
    decide
  obtain ⟨built, houtputs, hready⟩ := hinput.ready wellFormed_halfBlockedDisk
    Output.isNormal_outDir hlength hleads Output.isTag_letters hfresh
  have hstands := congrArg Prod.fst (Disk.ensureDirectories_of_leads
    Output.isNormal_outDir.unbarred hlength hleads)
  have houtput : (greeter greetingDir Output.outDir).settings.outputDir = Output.outDir := rfl
  obtain ⟨english, rest, hrest, henglish, hnames⟩ := List.map_eq_cons_iff.mp names_greetingOutputs
  obtain ⟨blocked, after, rfl, hblocked, _⟩ := List.map_eq_cons_iff.mp hnames
  have hbuilt : built.outputs = [english] ++ blocked :: after := houtputs.trans hrest
  have hrun := hready.run_of_blocked hbuilt
  rw [houtput, hstands, List.forall_mem_singleton, henglish, hblocked] at hrun
  have hreplaceable : halfBlockedDisk.Replaceable Output.outDir "l10n_en.py" := by
    refine ⟨?_, ?_, ?_, ?_⟩ <;> decide
  obtain ⟨⟨reason, hfailure⟩, hwritten⟩ := hrun hreplaceable fun h => h.not_directory rfl
  obtain ⟨bytes, _, hlook⟩ := hwritten.files english (List.mem_singleton_self _)
  exact ⟨⟨_, hfailure⟩, bytes, henglish ▸ hlook⟩

theorem run_failure_sameFiles_iff_halfBlockedDisk :
    halfBlockedDisk.WellFormed ∧ Output.outDir = .ofText "out" ∧
    (∀ tag ∈ [("abcdefgh" : Text)], IsTag tag) ∧
    ∃ f, ((greeter greetingDir Output.outDir).run ["abcdefgh"] false halfBlockedDisk).2.outcome =
        .error (.failure f) ∧
      ∃ written, Disk.GivenFiles halfBlockedDisk (halfBlockedDisk.place Output.outDir) written
          ((greeter greetingDir Output.outDir).run ["abcdefgh"] false halfBlockedDisk).1 ∧
        (written ≠ [] → ∃ made o rest reason,
          ((greeter greetingDir Output.outDir).build halfBlockedDisk).outcome = .ok made ∧
          made.outputs = written ++ o :: rest ∧
          f = .unwritable (Output.outDir.joinText o.1).toText reason) ∧
        (Disk.SameFiles halfBlockedDisk
            ((greeter greetingDir Output.outDir).run ["abcdefgh"] false halfBlockedDisk).1
            (halfBlockedDisk.place Output.outDir) ↔
          ∀ o ∈ written, ∃ bytes, Utf8.encode o.2 = .ok bytes ∧
            halfBlockedDisk.look (halfBlockedDisk.place Output.outDir ++ [o.1]) =
              some (.file bytes)) := by
  obtain ⟨⟨f, hf⟩, _⟩ := run_halfBlockedDisk
  have houtput : Output.outDir = .ofText "out" := by decide
  exact ⟨wellFormed_halfBlockedDisk, houtput, Output.isTag_letters, f, hf,
    run_failure_sameFiles_iff (g := greeter greetingDir Output.outDir) wellFormed_halfBlockedDisk
      houtput Output.isTag_letters hf⟩

/-- The run has failed, but not all files are as they were. -/
theorem not_sameFiles_halfBlockedDisk :
    ∃ f, ((greeter greetingDir Output.outDir).run ["abcdefgh"] false halfBlockedDisk).2.outcome =
        .error (.failure f) ∧
      ¬Disk.SameFiles halfBlockedDisk
        ((greeter greetingDir Output.outDir).run ["abcdefgh"] false halfBlockedDisk).1
        (halfBlockedDisk.place Output.outDir) := by
  obtain ⟨⟨f, hf⟩, content, hcontent⟩ := run_halfBlockedDisk
  refine ⟨f, hf, fun hsame => ?_⟩
  have hbefore : halfBlockedDisk.look ["out", "l10n_en.py"] = none := rfl
  have hafter := (hsame ["l10n_en.py"] content).mp hcontent
  exact absurd (hbefore.symm.trans hafter) (by simp)

end Generator

end Phrasebook
