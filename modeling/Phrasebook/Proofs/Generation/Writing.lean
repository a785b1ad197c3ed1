import Mathlib
import Phrasebook.Generation
import Phrasebook.Proofs.Disk.Directories
import Phrasebook.Proofs.Disk.Replacement

/-! Writing files into a directory. What is written is a beginning of the files: each of them is put
in its place as a whole, up to the first that cannot be replaced, and nothing else changes. -/

namespace Phrasebook

namespace Disk

variable {d : Disk} {l : Location} {f : Text × Bytes} {files : List (Text × Bytes)}

/-- Puts files into a directory, one after the other. -/
def fill (d : Disk) (l : Location) (files : List (Text × Bytes)) : Disk :=
  files.foldl (fun d f => d.put (l ++ [f.1]) (.file f.2)) d

@[simp] theorem fill_nil (d : Disk) (l : Location) : d.fill l [] = d := rfl

theorem fill_cons (d : Disk) (l : Location) (f : Text × Bytes) (files : List (Text × Bytes)) :
    d.fill l (f :: files) = (d.put (l ++ [f.1]) (.file f.2)).fill l files := rfl

/-- A directory that has no directories under the names of the files. -/
structure Takes (d : Disk) (l : Location) (files : List (Text × Bytes)) : Prop where
  directory : d.look l = some .directory
  clear : ∀ f ∈ files, d.look (l ++ [f.1]) ≠ some .directory

theorem Takes.keeps (h : Takes d l (f :: files)) :
    Keeps d (d.put (l ++ [f.1]) (.file f.2)) :=
  keeps_put_file f.2 h.directory (h.clear f (List.mem_cons_self ..))

theorem Takes.look_put (h : Takes d l (f :: files)) (l' : Location) :
    (d.put (l ++ [f.1]) (.file f.2)).look l' =
      if l' = l ++ [f.1] then some (.file f.2) else d.look l' :=
  Disk.look_put h.directory rfl (h.clear f (List.mem_cons_self ..)) l'

theorem Takes.tail (h : Takes d l (f :: files)) :
    Takes (d.put (l ++ [f.1]) (.file f.2)) l files where
  directory := h.keeps.directory l h.directory
  clear f' hf' := by
    rw [h.look_put]
    split_ifs
    · simp
    · exact h.clear f' (List.mem_cons_of_mem _ hf')

theorem keeps_fill (h : Takes d l files) : Keeps d (d.fill l files) := by
  induction files generalizing d with
  | nil => exact .refl d
  | cons f files ih => exact h.keeps.trans (ih h.tail)

theorem look_fill_of_notMem (h : Takes d l files) {l' : Location}
    (hl' : ∀ f ∈ files, l' ≠ l ++ [f.1]) : (d.fill l files).look l' = d.look l' := by
  induction files generalizing d with
  | nil => rfl
  | cons f files ih =>
    rw [List.forall_mem_cons] at hl'
    rw [fill_cons, ih h.tail hl'.2, h.look_put, if_neg hl'.1]

theorem look_fill_of_mem (h : Takes d l files) (hdistinct : (files.map (·.1)).Nodup)
    (hf : f ∈ files) : (d.fill l files).look (l ++ [f.1]) = some (.file f.2) := by
  induction files generalizing d with
  | nil => exact absurd hf (by simp)
  | cons first files ih =>
    rw [List.map_cons, List.nodup_cons] at hdistinct
    rw [fill_cons]
    rcases List.mem_cons.mp hf with rfl | hf
    · rw [look_fill_of_notMem h.tail, h.look_put, if_pos rfl]
      intro f' hf' heq
      apply hdistinct.1
      have hname : f.1 = f'.1 := by simpa using heq
      exact hname ▸ List.mem_map_of_mem hf'
    · exact ih h.tail hdistinct.2 hf

theorem WellFormed.fill (wf : d.WellFormed) (h : Takes d l files)
    (hname : ∀ f ∈ files, IsEntryName f.1) : (d.fill l files).WellFormed := by
  induction files generalizing d with
  | nil => exact wf
  | cons f files ih =>
    rw [List.forall_mem_cons] at hname
    exact ih (wf.put (DiskNode.proper_file f.2) hname.1 h.directory) h.tail hname.2

end Disk

namespace Output

variable {d : Disk} {dir : Path} {tags : List Text} {files : List (Text × Text)}

/-- A file with its text, and the file with the encoded text. -/
structure Encodes (f : Text × Text) (filled : Text × Bytes) : Prop where
  name : filled.1 = f.1
  bytes : Utf8.encode f.2 = .ok filled.2

/-- How the trouble with a file at a path is reported. -/
def refusal (path : Path) : Trouble → Trouble
  | .disk e => .failure (.unwritable path.toText e.message)
  | t => t

theorem writeFiles_cons_error (files : List (Text × Text)) {name content : Text} {d' : Disk}
    {t : Trouble} (h : d.replaceFile tags (dir.joinText name) content = (d', .error t)) :
    (writeFiles tags dir d ((name, content) :: files)).1 = d' ∧
      (writeFiles tags dir d ((name, content) :: files)).2.outcome =
        .error (refusal (dir.joinText name) t) := by
  rw [writeFiles, h]
  cases t <;> exact ⟨rfl, rfl⟩

theorem writeFiles_cons_ok (files : List (Text × Text)) {name content : Text} {d' : Disk}
    (h : d.replaceFile tags (dir.joinText name) content = (d', .ok ())) :
    (writeFiles tags dir d ((name, content) :: files)).1 = (writeFiles tags dir d' files).1 ∧
      (writeFiles tags dir d ((name, content) :: files)).2.outcome =
        (writeFiles tags dir d' files).2.outcome.map fun paths => dir.joinText name :: paths := by
  rw [writeFiles, h]
  refine ⟨rfl, ?_⟩
  dsimp only
  rw [Traced.outcome_bind, Traced.outcome_note, Traced.outcome_bind]
  cases (writeFiles tags dir d' files).2.outcome <;> rfl

/-- How far writing came: `written` are the files that were put, as `filled`, and `rest` those from
the first on that could not be. -/
structure Reaches (tags : List Text) (dir : Path) (d : Disk) (files written : List (Text × Text))
    (filled : List (Text × Bytes)) (rest : List (Text × Text)) : Prop where
  files_eq : files = written ++ rest
  encodes : List.Forall₂ Encodes written filled
  replaceable : ∀ f ∈ written, d.Replaceable dir f.1
  disk : (writeFiles tags dir d files).1 = d.fill (d.place dir) filled
  finished : rest = [] → (writeFiles tags dir d files).2.outcome =
    .ok (files.map fun f => dir.joinText f.1)
  stopped : ∀ f more, rest = f :: more → ∃ t,
    (d.fill (d.place dir) filled).replaceFile tags (dir.joinText f.1) f.2 =
      (d.fill (d.place dir) filled, .error t) ∧
    (writeFiles tags dir d files).2.outcome = .error (refusal (dir.joinText f.1) t)

theorem joinText_plain {name : Text} (h : IsPlainName name) (dir : Path) :
    dir.joinText name = ⟨dir.root, dir.parts ++ [name]⟩ :=
  Disk.joinText_part h.toIsPart dir

/-- What may be replaced could be replaced before anything else was put. -/
theorem replaceable_of_keeps {d' : Disk} {name : Text} (hd : Disk.Keeps d d')
    (h : d'.Replaceable dir name) : d.Replaceable dir name where
  not_directory hdir := by
    apply h.not_directory
    rw [hd.place]
    exact hd.directory _ hdir
  length := h.length
  room := hd.absolute dir ▸ h.room

theorem reaches_of_error (wf : d.WellFormed) {name content : Text} (hname : IsPlainName name)
    {d' : Disk} {t : Trouble}
    (h : d.replaceFile tags (dir.joinText name) content = (d', .error t)) :
    Reaches tags dir d ((name, content) :: files) [] [] ((name, content) :: files) := by
  obtain ⟨hdisk, houtcome⟩ := writeFiles_cons_error files h
  obtain rfl := Disk.replaceFile_error wf (joinText_plain hname dir ▸ h)
  refine ⟨rfl, .nil, by simp, hdisk, by simp, ?_⟩
  intro f more heq
  obtain ⟨rfl, rfl⟩ := List.cons_eq_cons.mp heq
  exact ⟨t, h, houtcome⟩

/-- Writing goes on from the disk with the file that was put. -/
theorem Reaches.cons {name content : Text} {bytes : Bytes} {written rest : List (Text × Text)}
    {filled : List (Text × Bytes)}
    (h : d.replaceFile tags (dir.joinText name) content =
      (d.put (d.place dir ++ [name]) (.file bytes), .ok ()))
    (hreplaceable : d.Replaceable dir name) (hbytes : Utf8.encode content = .ok bytes)
    (hkeeps : Disk.Keeps d (d.put (d.place dir ++ [name]) (.file bytes)))
    (hrest : Reaches tags dir (d.put (d.place dir ++ [name]) (.file bytes)) files written filled
      rest) :
    Reaches tags dir d ((name, content) :: files) ((name, content) :: written)
      ((name, bytes) :: filled) rest := by
  obtain ⟨hdisk, houtcome⟩ := writeFiles_cons_ok files h
  refine ⟨?_, .cons ⟨rfl, hbytes⟩ hrest.encodes, ?_, ?_, ?_, ?_⟩
  · rw [hrest.files_eq, List.cons_append]
  · rw [List.forall_mem_cons]
    exact ⟨hreplaceable, fun f hf => replaceable_of_keeps hkeeps (hrest.replaceable f hf)⟩
  · rw [hdisk, hrest.disk, hkeeps.place]
    rfl
  · intro hnil
    rw [houtcome, hrest.finished hnil]
    rfl
  · intro f more hmore
    obtain ⟨t, ht, hstopped⟩ := hrest.stopped f more hmore
    rw [hkeeps.place] at ht
    exact ⟨t, ht, by rw [houtcome, hstopped]; rfl⟩

/-- Each file is put as a whole, up to the first that cannot be. -/
theorem exists_reaches (wf : d.WellFormed) (htags : ∀ tag ∈ tags, IsTag tag) (hleads : d.Leads dir)
    (hplain : ∀ f ∈ files, IsPlainName f.1) :
    ∃ written filled rest, Reaches tags dir d files written filled rest := by
  induction files generalizing d with
  | nil => exact ⟨[], [], [], rfl, .nil, by simp, rfl, fun _ => rfl, by simp⟩
  | cons f files ih =>
    obtain ⟨name, content⟩ := f
    rw [List.forall_mem_cons] at hplain
    cases hfirst : d.replaceFile tags (dir.joinText name) content with
    | mk d₁ outcome =>
      cases outcome with
      | error t => exact ⟨_, _, _, reaches_of_error wf hplain.1 hfirst⟩
      | ok u =>
        obtain ⟨hdir, hreplaceable, bytes, hbytes, rfl⟩ :=
          Disk.replaceFile_ok wf htags (joinText_plain hplain.1 dir ▸ hfirst)
        have hkeeps := Disk.keeps_put_file bytes hdir hreplaceable.not_directory
        have hwf := wf.put (DiskNode.proper_file bytes)
          (hplain.1.entryName hreplaceable.short) hdir
        obtain ⟨written, filled, rest, hrest⟩ := ih hwf (hkeeps.leads hleads) hplain.2
        exact ⟨_, _, _, hrest.cons hfirst hreplaceable hbytes hkeeps⟩

section Reaches

variable {written rest : List (Text × Text)} {filled : List (Text × Bytes)}

theorem map_name_encodes (h : List.Forall₂ Encodes written filled) :
    filled.map (·.1) = written.map (·.1) :=
  (map_eq_map_of_forall₂ h fun _ _ he => he.name.symm).symm

theorem exists_written (h : List.Forall₂ Encodes written filled) {f : Text × Bytes}
    (hf : f ∈ filled) : ∃ f' ∈ written, f'.1 = f.1 := by
  obtain ⟨f', hf', he⟩ := exists_mem_left h hf
  exact ⟨f', hf', he.name.symm⟩

theorem Reaches.takes (h : Reaches tags dir d files written filled rest)
    (hleads : d.Leads dir) : d.Takes (d.place dir) filled where
  directory := hleads.look
  clear f hf := by
    obtain ⟨f', hf', hname⟩ := exists_written h.encodes hf
    rw [← hname]
    exact (h.replaceable f' hf').not_directory

theorem Reaches.wellFormed (h : Reaches tags dir d files written filled rest) (wf : d.WellFormed)
    (hleads : d.Leads dir) (hplain : ∀ f ∈ files, IsPlainName f.1) :
    (d.fill (d.place dir) filled).WellFormed := by
  apply wf.fill (h.takes hleads)
  intro f hf
  obtain ⟨f', hf', hname⟩ := exists_written h.encodes hf
  rw [← hname]
  have hmem : f' ∈ files := h.files_eq ▸ List.mem_append_left _ hf'
  exact (hplain f' hmem).entryName (h.replaceable f' hf').short

/-- For each file one of the tags gives its scratch file a name that is neither in use nor the name
of one of the files. -/
def Fresh (d : Disk) (dir : Path) (tags : List Text) (files : List (Text × Text)) : Prop :=
  ∀ f ∈ files, ∃ tag ∈ tags, d.look (d.place dir ++ [Disk.scratchName f.1 tag]) = none ∧
    Disk.scratchName f.1 tag ∉ files.map (·.1)

/-- What was put stands there, with the encoded text. -/
theorem Reaches.look_written (h : Reaches tags dir d files written filled rest)
    (hleads : d.Leads dir) (hdistinct : (files.map (·.1)).Nodup) {f : Text × Text}
    (hf : f ∈ written) : ∃ bytes, Utf8.encode f.2 = .ok bytes ∧
      (d.fill (d.place dir) filled).look (d.place dir ++ [f.1]) = some (.file bytes) := by
  have hfilled : (filled.map (·.1)).Nodup := by
    rw [map_name_encodes h.encodes]
    rw [h.files_eq, List.map_append] at hdistinct
    exact hdistinct.of_append_left
  obtain ⟨f', hf', he⟩ := exists_mem_right h.encodes hf
  exact ⟨f'.2, he.bytes, he.name ▸ Disk.look_fill_of_mem (h.takes hleads) hfilled hf'⟩

/-- Nothing else has been touched. -/
theorem Reaches.look_other (h : Reaches tags dir d files written filled rest)
    (hleads : d.Leads dir) {l : Location} (hl : ∀ f ∈ written, l ≠ d.place dir ++ [f.1]) :
    (d.fill (d.place dir) filled).look l = d.look l := by
  apply Disk.look_fill_of_notMem (h.takes hleads)
  intro f hf
  obtain ⟨f', hf', hname⟩ := exists_written h.encodes hf
  exact hname ▸ hl f' hf'

/-- What was put does not matter to a name that is not among those of the files. -/
theorem Reaches.look_of_notMem (h : Reaches tags dir d files written filled rest)
    (hleads : d.Leads dir) {name : Text} (hname : name ∉ written.map (·.1)) :
    (d.fill (d.place dir) filled).look (d.place dir ++ [name]) =
      d.look (d.place dir ++ [name]) := by
  apply h.look_other hleads
  intro f hf heq
  have heq' : name = f.1 := by simpa using heq
  exact hname (heq' ▸ List.mem_map_of_mem hf)

/-- Fresh tags stay free while files are put. -/
theorem Reaches.hasTag (h : Reaches tags dir d files written filled rest) (hleads : d.Leads dir)
    (hfresh : Fresh d dir tags files) {f : Text × Text} (hf : f ∈ files) :
    (d.fill (d.place dir) filled).HasTag ((d.fill (d.place dir) filled).place dir) tags f.1 := by
  obtain ⟨tag, htag, hnone, hother⟩ := hfresh f hf
  refine ⟨tag, htag, ?_⟩
  rw [(Disk.keeps_fill (h.takes hleads)).place, h.look_of_notMem hleads, hnone]
  intro hwritten
  apply hother
  rw [h.files_eq, List.map_append]
  exact List.mem_append_left _ hwritten

/-- The files that were put are not in the way of the next one. -/
theorem Reaches.replaceable_next {f : Text × Text} {more : List (Text × Text)}
    (h : Reaches tags dir d files written filled (f :: more)) (hleads : d.Leads dir)
    (hdistinct : (files.map (·.1)).Nodup) (hreplaceable : d.Replaceable dir f.1) :
    (d.fill (d.place dir) filled).Replaceable dir f.1 := by
  have hkeeps := Disk.keeps_fill (h.takes hleads)
  refine ⟨?_, hreplaceable.length, hkeeps.absolute dir ▸ hreplaceable.room⟩
  rw [hkeeps.place, h.look_of_notMem hleads]
  · exact hreplaceable.not_directory
  · rw [h.files_eq, List.map_append, List.map_cons, List.nodup_append] at hdistinct
    intro hwritten
    exact hdistinct.2.2 _ hwritten _ (List.mem_cons_self ..) rfl

/-- With fresh tags, writing stops only at a file that cannot be replaced, and the disk says so. -/
theorem Reaches.not_replaceable {f : Text × Text} {more : List (Text × Text)}
    (h : Reaches tags dir d files written filled (f :: more)) (wf : d.WellFormed)
    (hleads : d.Leads dir) (hunbarred : Disk.hasBarred dir = false)
    (htags : ∀ tag ∈ tags, IsTag tag) (hfresh : Fresh d dir tags files)
    (hplain : ∀ f ∈ files, IsPlainName f.1) (hdistinct : (files.map (·.1)).Nodup)
    {bytes : Bytes} (hbytes : Utf8.encode f.2 = .ok bytes) :
    ¬d.Replaceable dir f.1 ∧ ∃ reason, (writeFiles tags dir d files).2.outcome =
      .error (.failure (.unwritable (dir.joinText f.1).toText reason)) := by
  have hleads' := (Disk.keeps_fill (h.takes hleads)).leads hleads
  have hwf := h.wellFormed wf hleads hplain
  have hmem : f ∈ files := by
    rw [h.files_eq]
    simp
  have hname := hplain f hmem
  have hfree := h.hasTag hleads hfresh hmem
  obtain ⟨t, ht, hstopped⟩ := h.stopped f more rfl
  rw [joinText_plain hname] at ht
  have hblocked : ¬(d.fill (d.place dir) filled).Replaceable dir f.1 := by
    intro hreplaceable
    have hok := Disk.replaceFile_of_replaceable hwf htags hfree hleads' hunbarred hname hreplaceable
      hbytes
    exact absurd (Prod.mk.inj (ht.symm.trans hok)).2 (by simp)
  refine ⟨fun hreplaceable => hblocked (h.replaceable_next hleads hdistinct hreplaceable), ?_⟩
  obtain ⟨e, he⟩ := Disk.replaceFile_of_not_replaceable hwf htags hfree hleads' hunbarred hname
    hblocked hbytes
  obtain rfl : t = .disk e := Except.error.inj (Prod.mk.inj (ht.symm.trans he)).2
  exact ⟨e.message, hstopped⟩

end Reaches

/-- The disk `d'` is `d` with a directory made, and those above it, and exactly the given files put
into it. -/
structure HasWritten (d : Disk) (dir : Path) (written : List (Text × Text)) (d' : Disk) : Prop where
  workingDirectory : d'.workingDirectory = d.workingDirectory
  files : ∀ f ∈ written, ∃ bytes, Utf8.encode f.2 = .ok bytes ∧
    d'.look (d.place dir ++ [f.1]) = some (.file bytes)
  directories : ∀ l, d.OnWay dir l → d'.look l = some .directory
  others : ∀ l, ¬d.OnWay dir l → (∀ f ∈ written, l ≠ d.place dir ++ [f.1]) → d'.look l = d.look l

theorem write_of_barred (h : Disk.hasBarred dir = true) :
    write tags dir d files = (d, throw (.ofBarred dir)) :=
  if_pos h

theorem write_of_refused (tags : List Text) (files : List (Text × Text)) {t : Trouble}
    (hunbarred : Disk.hasBarred dir = false) (h : (d.ensureDirectories dir).2 = .error t) :
    (write tags dir d files).1 = (d.ensureDirectories dir).1 ∧
      (write tags dir d files).2.outcome = .error (refusal dir t) := by
  unfold write
  rw [if_neg (by simp [hunbarred])]
  generalize d.ensureDirectories dir = made at h
  obtain ⟨d₁, outcome⟩ := made
  obtain rfl : outcome = .error t := h
  cases t <;> exact ⟨rfl, rfl⟩

/-- Where the directory can be made, the files are written into it. -/
theorem write_of_made (tags : List Text) (files : List (Text × Text))
    (hunbarred : Disk.hasBarred dir = false)
    (h : (d.ensureDirectories dir).2 = .ok ()) :
    write tags dir d files = writeFiles tags dir (d.ensureDirectories dir).1 files := by
  unfold write
  rw [if_neg (by simp [hunbarred])]
  generalize d.ensureDirectories dir = made at h
  obtain ⟨d₁, outcome⟩ := made
  obtain rfl : outcome = .ok () := h
  rfl

theorem hasWritten_of_reaches {written rest : List (Text × Text)} {filled : List (Text × Bytes)}
    (wf : d.WellFormed) (normal : dir.IsNormal) (h : d.CanHold dir)
    (hdistinct : (files.map (·.1)).Nodup)
    (hreaches : Reaches tags dir (d.ensureDirectories dir).1 files written filled rest) :
    HasWritten d dir written (write tags dir d files).1 := by
  have hok := (Disk.ensureDirectories_ok_iff wf normal).mpr h
  have hkeeps := (Disk.extends_ensureDirectories wf normal).keeps
  have hleads := (Disk.leads_ensureDirectories wf normal hok).1
  obtain ⟨hway, hother⟩ := Disk.look_ensureDirectories wf normal h
  have htakes := hreaches.takes hleads
  rw [write_of_made tags files normal.unbarred hok, hreaches.disk]
  constructor
  · rw [(Disk.keeps_fill htakes).workingDirectory, hkeeps.workingDirectory]
  · rw [← hkeeps.place]
    exact fun f hf => hreaches.look_written hleads hdistinct hf
  · intro l hl
    exact (Disk.keeps_fill htakes).directory l (hway l hl)
  · intro l hl hnot
    rw [← hkeeps.place] at hnot
    rw [hreaches.look_other hleads hnot, hother l hl]

/-- After the writing the tags that were fresh are free again. -/
theorem HasWritten.hasTag {d' : Disk} (h : HasWritten d dir files d') (hleads : d.Leads dir)
    (hfresh : Fresh d dir tags files) :
    ∀ f ∈ files, d'.HasTag (d'.place dir) tags f.1 := by
  have hplace : d'.place dir = d.place dir := by
    rw [Disk.place, Disk.place, Disk.route, Disk.route, h.workingDirectory]
  intro f hf
  obtain ⟨tag, htag, hnone, hother⟩ := hfresh f hf
  refine ⟨tag, htag, ?_⟩
  rw [hplace, h.others, hnone]
  · intro hway
    exact absurd ((Disk.leads_iff.mp hleads).2 _ hway) (by simp [hnone])
  · intro f' hf' heq
    have hname : Disk.scratchName f.1 tag = f'.1 := by simpa using heq
    exact hother (hname ▸ List.mem_map_of_mem hf')

/-- How writing ends: `written` are the files that have been put, and `rest` those from the first on
that cannot be. That one is reported. -/
structure Splits (tags : List Text) (d : Disk) (dir : Path)
    (files written rest : List (Text × Text)) : Prop where
  files_eq : files = written ++ rest
  holds : HasWritten d dir written (write tags dir d files).1
  replaceable : ∀ f ∈ written, (d.ensureDirectories dir).1.Replaceable dir f.1
  finished : rest = [] →
    (write tags dir d files).2.outcome = .ok (files.map fun f => dir.joinText f.1)
  stopped : ∀ f more, rest = f :: more → ¬(d.ensureDirectories dir).1.Replaceable dir f.1 ∧
    ∃ reason, (write tags dir d files).2.outcome =
      .error (.failure (.unwritable (dir.joinText f.1).toText reason))

theorem exists_splits (wf : d.WellFormed) (normal : dir.IsNormal) (h : d.CanHold dir)
    (hplain : ∀ f ∈ files, IsPlainName f.1) (hdistinct : (files.map (·.1)).Nodup)
    (hencodable : ∀ f ∈ files, ∃ bytes, Utf8.encode f.2 = .ok bytes)
    (htags : ∀ tag ∈ tags, IsTag tag)
    (hfresh : Fresh (d.ensureDirectories dir).1 dir tags files) :
    ∃ written rest, Splits tags d dir files written rest := by
  have hok := (Disk.ensureDirectories_ok_iff wf normal).mpr h
  have hwf := (Disk.extends_ensureDirectories wf normal).wellFormed
  have hleads := (Disk.leads_ensureDirectories wf normal hok).1
  obtain ⟨written, filled, rest, hreaches⟩ := exists_reaches hwf htags hleads hplain
  have hdisk := hasWritten_of_reaches wf normal h hdistinct hreaches
  have hwrite := write_of_made tags files normal.unbarred hok
  refine ⟨written, rest, hreaches.files_eq, hdisk, hreaches.replaceable, ?_, ?_⟩
  · intro hrest
    rw [hwrite, hreaches.finished hrest]
  · rintro f more rfl
    obtain ⟨bytes, hbytes⟩ := hencodable f (by rw [hreaches.files_eq]; simp)
    rw [hwrite]
    exact hreaches.not_replaceable hwf hleads normal.unbarred htags hfresh hplain hdistinct hbytes

/-- Writing replaces the files as wholes and in order, up to the first that cannot be replaced. That
one is reported; nothing but the directory and the files before it is new or different, and of the
scratch files nothing remains. Disks are taken to be without links and permissions: besides a
directory in its place, only the limits on names and paths keep a file from being replaced. -/
theorem write_splits (wf : d.WellFormed) (normal : dir.IsNormal) (h : d.CanHold dir)
    (hplain : ∀ f ∈ files, IsPlainName f.1) (hdistinct : (files.map (·.1)).Nodup)
    (hencodable : ∀ f ∈ files, ∃ bytes, Utf8.encode f.2 = .ok bytes)
    (htags : ∀ tag ∈ tags, IsTag tag)
    (hfresh : Fresh (d.ensureDirectories dir).1 dir tags files) :
    ∃ written rest, files = written ++ rest ∧
      HasWritten d dir written (write tags dir d files).1 ∧
      (∀ f ∈ written, (d.ensureDirectories dir).1.Replaceable dir f.1) ∧
      (rest = [] →
        (write tags dir d files).2.outcome = .ok (files.map fun f => dir.joinText f.1)) ∧
      ∀ f more, rest = f :: more → ¬(d.ensureDirectories dir).1.Replaceable dir f.1 ∧
        ∃ reason, (write tags dir d files).2.outcome =
          .error (.failure (.unwritable (dir.joinText f.1).toText reason)) := by
  obtain ⟨written, rest, hsplits⟩ :=
    exists_splits wf normal h hplain hdistinct hencodable htags hfresh
  exact ⟨written, rest, hsplits.files_eq, hsplits.holds, hsplits.replaceable, hsplits.finished,
    hsplits.stopped⟩

/-- A disk whose only directory holds a directory where a file may be wanted. -/
def blockedDisk : Disk where
  root := .directory [("out", .directory [("b.py", .directory [])])]
  workingDirectory := []

/-- The directory on that disk. -/
def outDir : Path :=
  ⟨.relative, ["out"]⟩

theorem wellFormed_blockedDisk : blockedDisk.WellFormed := by
  have hinner : IsEntryName "b.py" := by constructor <;> decide
  have houter : IsEntryName "out" := by constructor <;> decide
  have hout : DiskNode.Proper (.directory [("b.py", .directory [])]) :=
    DiskNode.proper_nil.cons hinner (by simp) DiskNode.proper_nil
  exact DiskNode.proper_nil.cons houter (by simp) hout

theorem isNormal_outDir : outDir.IsNormal := by
  refine ⟨?_, by decide⟩
  intro part hpart
  obtain rfl : part = "out" := by simpa [outDir] using hpart
  constructor <;> decide

theorem canHold_outDir : blockedDisk.CanHold outDir :=
  Disk.canHold_of_leads wellFormed_blockedDisk isNormal_outDir (by decide) ⟨_, rfl, rfl⟩

theorem isTag_letters : ∀ tag ∈ [("abcdefgh" : Text)], IsTag tag := by
  rw [List.forall_mem_singleton]
  constructor <;> decide

/-- Two files, of which only the first can be written there. -/
def twoFiles : List (Text × Text) :=
  [("a.py", "x"), ("b.py", "y")]

theorem write_splits_blockedDisk :
    blockedDisk.WellFormed ∧ outDir.IsNormal ∧ blockedDisk.CanHold outDir ∧
    ∃ written rest, twoFiles = written ++ rest ∧
      HasWritten blockedDisk outDir written
        (write ["abcdefgh"] outDir blockedDisk twoFiles).1 ∧
      (∀ f ∈ written, (blockedDisk.ensureDirectories outDir).1.Replaceable outDir f.1) ∧
      (rest = [] → (write ["abcdefgh"] outDir blockedDisk twoFiles).2.outcome =
        .ok (twoFiles.map fun f => outDir.joinText f.1)) ∧
      ∀ f more, rest = f :: more →
        ¬(blockedDisk.ensureDirectories outDir).1.Replaceable outDir f.1 ∧ ∃ reason,
          (write ["abcdefgh"] outDir blockedDisk twoFiles).2.outcome =
            .error (.failure (.unwritable (outDir.joinText f.1).toText reason)) := by
  refine ⟨wellFormed_blockedDisk, isNormal_outDir, canHold_outDir, ?_⟩
  apply write_splits wellFormed_blockedDisk isNormal_outDir canHold_outDir
  · rw [twoFiles, List.forall_mem_cons, List.forall_mem_singleton]
    constructor <;> refine ⟨⟨?_, ?_, ?_⟩, ?_, ?_⟩ <;> decide
  · decide
  · rw [twoFiles, List.forall_mem_cons, List.forall_mem_singleton]
    exact ⟨⟨_, rfl⟩, ⟨_, rfl⟩⟩
  · exact isTag_letters
  · rw [twoFiles, Fresh, List.forall_mem_cons, List.forall_mem_singleton]
    refine ⟨⟨"abcdefgh", by simp, ?_, ?_⟩, ⟨"abcdefgh", by simp, ?_, ?_⟩⟩ <;> decide

/-- A file name of 250 letters. -/
def longName : Text :=
  List.replicate 250 ('a' : CodePoint)

/-- No directory stands under a long name, but its scratch file cannot be made. -/
theorem write_longName :
    IsPlainName longName ∧ (∃ bytes, Utf8.encode "x" = .ok bytes) ∧
    Fresh (blockedDisk.ensureDirectories outDir).1 outDir ["abcdefgh"] [(longName, "x")] ∧
    (blockedDisk.ensureDirectories outDir).1.look (blockedDisk.place outDir ++ [longName]) = none ∧
    (write ["abcdefgh"] outDir blockedDisk [(longName, "x")]).2.outcome =
      .error (.failure (.unwritable (outDir.joinText longName).toText
        (DiskError.message ⟨.nameTooLong,
          Path.toText ⟨.single, ["out", Disk.scratchName longName "abcdefgh"]⟩, none⟩))) := by
  refine ⟨⟨⟨?_, ?_, ?_⟩, ?_, ?_⟩, ⟨_, rfl⟩, ?_, ?_, ?_⟩
  case refine_6 =>
    rw [Fresh, List.forall_mem_singleton]
    refine ⟨"abcdefgh", by simp, ?_, ?_⟩ <;> decide
  all_goals decide +kernel

end Output

end Phrasebook
