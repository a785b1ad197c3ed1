import Mathlib
import Phrasebook.Proofs.Disk.Lengths
import Phrasebook.Proofs.Disk.Places

/-! Replacing a file. It either puts the new content at the target's place or leaves the disk as it
was, and nothing is left of the scratch file. With an unused tag it is refused exactly where a
directory stands or the scratch file's name or path would be too long. -/

namespace Phrasebook.Disk

variable {d d' opened moved : Disk} {dir target : Path} {root : Path.Root}
  {parts : List Text} {name content : Text} {tags : List Text} {scratch : Scratch} {bytes : Bytes}

/-! ### The scratch file -/

/-- A scratch file is made where nothing stood, under a name with one of the tags. -/
theorem createScratch_ok (h : d.createScratch dir name tags = .ok (opened, scratch)) :
    ∃ tag ∈ tags, d.spot ⟨dir.root, dir.parts ++ [scratchName name tag]⟩ =
        .ok (.named scratch.location) ∧
      d.Leads dir ∧ scratch.location = d.place dir ++ [scratchName name tag] ∧
      d.look scratch.location = none ∧ opened = d.put scratch.location (.file []) := by
  induction tags with
  | nil => exact absurd h (by simp [createScratch])
  | cons tag tags ih =>
    unfold createScratch at h
    dsimp only at h
    split_ifs at h
    split at h
    next => exact absurd h (by simp)
    next => exact absurd h (by simp)
    next l hl =>
      split at h
      next =>
        obtain ⟨tag', htag', hrest⟩ := ih h
        exact ⟨tag', List.mem_cons_of_mem _ htag', hrest⟩
      next hnone =>
        obtain ⟨rfl, rfl⟩ := Prod.mk.inj (Except.ok.inj h)
        obtain ⟨_, hleads, _, _, hlocation⟩ := spot_eq_named.mp hl
        exact ⟨tag, List.mem_cons_self .., hl, hleads, hlocation, look_eq_none.mpr hnone, rfl⟩

/-- One of the tags is not in use for a file in a directory. -/
def HasTag (d : Disk) (dir : Location) (tags : List Text) (name : Text) : Prop :=
  ∃ tag ∈ tags, d.look (dir ++ [scratchName name tag]) = none

/-- Names and paths of scratch files for a file in a directory are within the limits. -/
structure HasRoom (dir : Path) (name : Text) : Prop where
  short : byteLength name + scratchExtra ≤ maxNameLength
  length : byteLength (Path.toText ⟨dir.root, dir.parts ++ [name]⟩) + scratchExtra ≤ maxPathLength

theorem byteLength_scratchPath {tag : Text} (htag : IsTag tag) (dir : Path) (name : Text) :
    byteLength (Path.toText ⟨dir.root, dir.parts ++ [scratchName name tag]⟩) =
      byteLength (Path.toText ⟨dir.root, dir.parts ++ [name]⟩) + scratchExtra := by
  simp only [Path.toText_append_singleton, byteLength_append,
    byteLength_scratchName_of_isTag htag]
  omega

theorem hasBarred_scratch {tag : Text} (htag : IsTag tag)
    (h : hasBarred ⟨dir.root, dir.parts ++ [name]⟩ = false) :
    hasBarred { dir with parts := dir.parts ++ [scratchName name tag] } = false := by
  rw [Path.hasBarred_append_singleton] at h ⊢
  exact ⟨h.1, isNameable_scratchName htag h.2⟩

theorem spot_scratch {tag : Text} (htag : IsTag tag) (hleads : d.Leads dir) :
    d.spot ⟨dir.root, dir.parts ++ [scratchName name tag]⟩ =
      .ok (.named (d.place dir ++ [scratchName name tag])) ↔ HasRoom dir name := by
  rw [spot_eq_named, byteLength_scratchPath htag, byteLength_scratchName_of_isTag htag]
  constructor
  · rintro ⟨hpath, _, _, hname, _⟩
    exact ⟨hname, hpath⟩
  · rintro ⟨hname, hpath⟩
    exact ⟨hpath, hleads, scratchName_ne_upward name tag, hname, rfl⟩

/-- With a tag that is not in use a scratch file is made, if there is room for its name. -/
theorem exists_createScratch (hunbarred : hasBarred ⟨dir.root, dir.parts ++ [name]⟩ = false)
    (htags : ∀ tag ∈ tags, IsTag tag) (hleads : d.Leads dir) (hroom : HasRoom dir name)
    (hfree : HasTag d (d.place dir) tags name) :
    ∃ opened scratch, d.createScratch dir name tags = .ok (opened, scratch) := by
  induction tags with
  | nil =>
    obtain ⟨tag, htag, _⟩ := hfree
    exact absurd htag (by simp)
  | cons tag tags ih =>
    rw [List.forall_mem_cons] at htags
    rw [createScratch]
    rw [if_neg (by simp [hasBarred_scratch htags.1 hunbarred]),
      (spot_scratch htags.1 hleads).mpr hroom]
    dsimp only
    cases hget : d.get (d.place dir ++ [scratchName name tag]) with
    | none => exact ⟨_, _, rfl⟩
    | some n =>
      apply ih htags.2
      obtain ⟨tag', htag', hnone⟩ := hfree
      rcases List.mem_cons.mp htag' with rfl | htag'
      · exact absurd (look_eq_none.mp hnone) (by simp [hget])
      · exact ⟨tag', htag', hnone⟩

/-- Without room for its name no scratch file is made. -/
theorem createScratch_of_not_hasRoom
    (hunbarred : hasBarred ⟨dir.root, dir.parts ++ [name]⟩ = false)
    (htags : ∀ tag ∈ tags, IsTag tag) (hleads : d.Leads dir) (hroom : ¬HasRoom dir name) :
    ∃ e, d.createScratch dir name tags = .error (.disk e) := by
  cases tags with
  | nil => exact ⟨_, rfl⟩
  | cons tag tags =>
    rw [List.forall_mem_cons] at htags
    rw [createScratch]
    rw [if_neg (by simp [hasBarred_scratch htags.1 hunbarred])]
    split
    next => exact ⟨_, rfl⟩
    next => exact ⟨_, rfl⟩
    next l hl =>
      obtain ⟨_, _, _, _, rfl⟩ := spot_eq_named.mp hl
      exact absurd ((spot_scratch htags.1 hleads).mp hl) hroom

/-! ### Moving onto the target -/

theorem moveOnto_eq_ok : d.moveOnto scratch bytes ⟨root, parts ++ [name]⟩ = .ok moved ↔
    hasBarred ⟨root, parts ++ [name]⟩ = false ∧
      d.spot ⟨root, parts ++ [name]⟩ = .ok (.named (d.place ⟨root, parts⟩ ++ [name])) ∧
      d.look (d.place ⟨root, parts⟩ ++ [name]) ≠ some .directory ∧
      moved = (d.put (d.place ⟨root, parts⟩ ++ [name]) (.file bytes)).erase scratch.location := by
  unfold moveOnto
  dsimp only
  constructor
  · intro h
    split_ifs at h with hbarred
    split at h
    next => exact absurd h (by simp)
    next => exact absurd h (by simp)
    next l hl =>
      obtain ⟨_, _, _, _, rfl⟩ := spot_eq_named.mp hl
      split at h
      next => exact absurd h (by simp)
      next hnode =>
        refine ⟨by simpa using hbarred, hl, ?_, (Except.ok.inj h).symm⟩
        rw [ne_eq, look_eq_directory]
        rintro ⟨held, hheld⟩
        exact hnode held hheld
  · rintro ⟨hunbarred, hspot, hdir, rfl⟩
    rw [if_neg (by simp [hunbarred]), hspot]
    dsimp only
    split
    next held hheld => exact absurd (look_eq_directory.mpr ⟨held, hheld⟩) hdir
    next => rfl

/-- A target without barred code points is refused by the disk only. -/
theorem moveOnto_error {t : Trouble} (hunbarred : hasBarred target = false)
    (h : d.moveOnto scratch bytes target = .error t) : ∃ e, t = .disk e := by
  unfold moveOnto at h
  dsimp only at h
  rw [if_neg (by simp [hunbarred])] at h
  split at h
  next => exact ⟨_, (Except.error.inj h).symm⟩
  next => exact ⟨_, (Except.error.inj h).symm⟩
  next =>
    split at h
    next => exact ⟨_, (Except.error.inj h).symm⟩
    next => exact absurd h (by simp)

/-! ### The whole replacement -/

/-- Without a scratch file nothing is replaced. -/
theorem replaceFile_of_no_scratch {t : Trouble}
    (hscratch : d.createScratch (d.absolute dir) name tags = .error t) :
    d.replaceFile tags ⟨dir.root, dir.parts ++ [name]⟩ content = (d, .error t) := by
  simp only [replaceFile, Path.parent, Path.name, List.dropLast_concat, List.getLastD_concat,
    hscratch]

/-- Once a scratch file is made, the rest is moving it onto the target. -/
theorem replaceFile_of_scratch (content : Text) (wf : d.WellFormed)
    (hscratch : d.createScratch (d.absolute dir) name tags = .ok (opened, scratch)) :
    d.replaceFile tags ⟨dir.root, dir.parts ++ [name]⟩ content =
      match Utf8.encode content with
      | .error e => (d, .error (.encoding e))
      | .ok bytes =>
        match (d.put scratch.location (.file bytes)).moveOnto scratch bytes
            ⟨dir.root, dir.parts ++ [name]⟩ with
        | .error t => (d, .error t)
        | .ok moved => (moved, .ok ()) := by
  obtain ⟨tag, _, _, hleads, hlocation, hnone, rfl⟩ := createScratch_ok hscratch
  rw [hlocation] at hnone hscratch ⊢
  simp only [replaceFile, Path.parent, Path.name, List.dropLast_concat, List.getLastD_concat,
    hscratch, hlocation]
  cases Utf8.encode content with
  | error e =>
    dsimp only
    rw [erase_put wf hleads.look hnone]
  | ok bytes =>
    dsimp only
    rewrite [put_put hleads.look, erase_put wf hleads.look hnone]
    rfl

/-- A replacement that fails leaves the disk as it was. -/
theorem replaceFile_error {t : Trouble} (wf : d.WellFormed)
    (h : d.replaceFile tags ⟨dir.root, dir.parts ++ [name]⟩ content = (d', .error t)) :
    d' = d := by
  cases hscratch : d.createScratch (d.absolute dir) name tags with
  | error t' =>
    rw [replaceFile_of_no_scratch hscratch] at h
    exact (Prod.mk.inj h).1.symm
  | ok made =>
    rw [replaceFile_of_scratch content wf hscratch] at h
    split at h
    next => exact (Prod.mk.inj h).1.symm
    next =>
      split at h
      next => exact (Prod.mk.inj h).1.symm
      next => exact absurd (Prod.mk.inj h).2 (by simp)

theorem keeps_scratch (bytes : Bytes) {tag : Text} (hl : d.look (d.place dir) = some .directory)
    (hnone : d.look (d.place dir ++ [scratchName name tag]) = none) :
    Keeps d (d.put (d.place dir ++ [scratchName name tag]) (.file bytes)) :=
  keeps_put_file bytes hl (by simp [hnone])

/-- What may be replaced: no directory stands there, and the paths that are needed are within the
limits. -/
structure Replaceable (d : Disk) (dir : Path) (name : Text) : Prop where
  not_directory : d.look (d.place dir ++ [name]) ≠ some .directory
  length : byteLength (Path.toText ⟨dir.root, dir.parts ++ [name]⟩) ≤ maxPathLength
  room : HasRoom (d.absolute dir) name

theorem Replaceable.short (h : Replaceable d dir name) : byteLength name ≤ maxNameLength :=
  Nat.le_trans (Nat.le_add_right _ _) h.room.short

/-- A replacement that succeeds puts the encoded text at the target's place, and that is all. -/
theorem replaceFile_ok (wf : d.WellFormed) (htags : ∀ tag ∈ tags, IsTag tag)
    (h : d.replaceFile tags ⟨dir.root, dir.parts ++ [name]⟩ content = (d', .ok ())) :
    d.look (d.place dir) = some .directory ∧ Replaceable d dir name ∧
      ∃ bytes, Utf8.encode content = .ok bytes ∧
        d' = d.put (d.place dir ++ [name]) (.file bytes) := by
  cases hscratch : d.createScratch (d.absolute dir) name tags with
  | error t =>
    rw [replaceFile_of_no_scratch hscratch] at h
    exact absurd (Prod.mk.inj h).2 (by simp)
  | ok made =>
    obtain ⟨opened, scratch⟩ := made
    rw [replaceFile_of_scratch content wf hscratch] at h
    obtain ⟨tag, htag, hspot, hleads, hlocation, hnone, _⟩ := createScratch_ok hscratch
    rw [hlocation, spot_scratch (htags tag htag) hleads] at hspot
    have hdir := hleads.look
    rw [place_absolute] at hlocation hdir
    rw [hlocation] at hnone h
    cases hbytes : Utf8.encode content with
    | error e => exact absurd h (by simp [hbytes])
    | ok bytes =>
      rw [hbytes] at h
      dsimp only at h
      split at h
      next => exact absurd (Prod.mk.inj h).2 (by simp)
      next moved hmoved =>
        obtain ⟨rfl, _⟩ := Prod.mk.inj h
        obtain ⟨_, htarget, hnot, rfl⟩ := moveOnto_eq_ok.mp hmoved
        have hlength := (spot_eq_named.mp htarget).1
        have hkeeps := keeps_scratch bytes hdir hnone
        rw [hkeeps.place] at hnot ⊢
        refine ⟨hdir, ⟨fun h => hnot (hkeeps.directory _ h), hlength, hspot⟩, bytes, rfl, ?_⟩
        rw [hlocation]
        exact erase_put_put wf hdir hnone (scratchName_ne name tag)

theorem hasBarred_absolute (wf : d.WellFormed) (hleads : d.Leads dir) (hname : IsPlainName name) :
    hasBarred ⟨(d.absolute dir).root, (d.absolute dir).parts ++ [name]⟩ = false := by
  rw [Path.hasBarred_append_singleton]
  refine ⟨?_, hname.nameable⟩
  rw [hasBarred_eq_false, parts_absolute]
  intro part hpart
  exact (wf.entryName_of_mem (by simp [hleads.look]) hpart).nameable

/-- With a tag that is not in use, what may be replaced is replaced. -/
theorem replaceFile_of_replaceable (wf : d.WellFormed) (htags : ∀ tag ∈ tags, IsTag tag)
    (hfree : HasTag d (d.place dir) tags name) (hleads : d.Leads dir)
    (hunbarred : hasBarred dir = false) (hname : IsPlainName name) (h : Replaceable d dir name)
    (hbytes : Utf8.encode content = .ok bytes) :
    d.replaceFile tags ⟨dir.root, dir.parts ++ [name]⟩ content =
      (d.put (d.place dir ++ [name]) (.file bytes), .ok ()) := by
  have habsolute := hleads.absolute wf
  rw [← place_absolute] at hfree
  obtain ⟨opened, scratch, hscratch⟩ := exists_createScratch (hasBarred_absolute wf hleads hname)
    htags habsolute h.room hfree
  obtain ⟨tag, htag, _, _, hlocation, hnone, _⟩ := createScratch_ok hscratch
  rw [place_absolute] at hlocation
  rw [hlocation] at hnone
  have hkeeps := keeps_scratch bytes hleads.look hnone
  have hmoved : (d.put scratch.location (.file bytes)).moveOnto scratch bytes
      ⟨dir.root, dir.parts ++ [name]⟩ =
        .ok (((d.put scratch.location (.file bytes)).put (d.place dir ++ [name])
          (.file bytes)).erase scratch.location) := by
    rw [hlocation]
    apply moveOnto_eq_ok.mpr
    refine ⟨Path.hasBarred_append_singleton.mpr ⟨hunbarred, hname.nameable⟩,
      spot_eq_named.mpr ⟨h.length, hkeeps.leads hleads, hname.not_upward, h.short, rfl⟩, ?_, ?_⟩
    · rw [hkeeps.place, look_put hleads.look rfl (by simp [hnone]), if_neg]
      · exact h.not_directory
      · simpa using (scratchName_ne name tag).symm
    · rw [hkeeps.place, hlocation]
  rw [replaceFile_of_scratch content wf hscratch, hbytes]
  dsimp only
  rw [hmoved, hlocation]
  dsimp only
  rw [erase_put_put wf hleads.look hnone (scratchName_ne name tag)]

/-- What may not be replaced is refused by the disk. -/
theorem replaceFile_of_not_replaceable (wf : d.WellFormed) (htags : ∀ tag ∈ tags, IsTag tag)
    (hfree : HasTag d (d.place dir) tags name) (hleads : d.Leads dir)
    (hunbarred : hasBarred dir = false) (hname : IsPlainName name) (h : ¬Replaceable d dir name)
    (hbytes : Utf8.encode content = .ok bytes) :
    ∃ e, d.replaceFile tags ⟨dir.root, dir.parts ++ [name]⟩ content = (d, .error (.disk e)) := by
  have hscratchUnbarred := hasBarred_absolute wf hleads hname
  have habsolute := hleads.absolute wf
  by_cases hroom : HasRoom (d.absolute dir) name
  · rw [← place_absolute] at hfree
    obtain ⟨opened, scratch, hscratch⟩ :=
      exists_createScratch hscratchUnbarred htags habsolute hroom hfree
    have hreplace := replaceFile_of_scratch content wf hscratch
    rw [hbytes] at hreplace
    dsimp only at hreplace
    split at hreplace
    next t ht =>
      obtain ⟨e, rfl⟩ := moveOnto_error (Path.hasBarred_append_singleton.mpr
        ⟨hunbarred, hname.nameable⟩) ht
      exact ⟨e, hreplace⟩
    next => exact absurd (replaceFile_ok wf htags hreplace).2.1 h
  · obtain ⟨e, he⟩ := createScratch_of_not_hasRoom hscratchUnbarred htags habsolute hroom
    exact ⟨e, replaceFile_of_no_scratch he⟩

end Phrasebook.Disk
