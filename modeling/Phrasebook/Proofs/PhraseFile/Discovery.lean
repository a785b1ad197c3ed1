import Mathlib
import Phrasebook.PhraseFile
import Phrasebook.Proofs.Disk.Walk
import Phrasebook.Proofs.Locale.Code
import Phrasebook.Proofs.Outcome
import Phrasebook.Proofs.Text.Order

/-! Discovery finds exactly the phrase files that stand directly in the input directory. Where it
succeeds their names denote locales, no two of them the same. The disk refuses only to look at a
path that is too long. -/

namespace Phrasebook

/-- The phrase files among what a node holds, by name. -/
def DiskNode.phraseFiles (n : DiskNode) : List (Text × Bytes) :=
  n.entries.filterMap fun e =>
    match e.2 with
    | .file content => if nameSuffix e.1 = PhraseFile.ending then some (e.1, content) else none
    | .directory _ => none

theorem DiskNode.map_fst_phraseFiles (n : DiskNode) : n.phraseFiles.map (·.1) =
    ((n.entries.filter fun e => !e.2.isDirectory).map (·.1)).filter
      fun name => nameSuffix name == PhraseFile.ending := by
  unfold phraseFiles
  induction n.entries with
  | nil => rfl
  | cons e held ih =>
    obtain ⟨name, n⟩ := e
    cases n with
    | directory inner => simpa [isDirectory] using ih
    | file content =>
      by_cases hsuffix : nameSuffix name = PhraseFile.ending
      · simpa [isDirectory, hsuffix] using ih
      · simpa [isDirectory, hsuffix] using ih

namespace Disk

/-- The phrase files directly in a directory; none where no directory is found. -/
def phraseFiles (d : Disk) (dir : Path) : List (Text × Bytes) :=
  match d.find dir with
  | .ok n => n.phraseFiles
  | .error _ => []

/-- Looking at a directory or at what it holds takes a path or a name that is too long. -/
def IsOverlong (d : Disk) (dir : Path) : Prop :=
  (hasBarred dir = false ∧ d.find dir = .error .nameTooLong) ∨
    ∃ held, d.find dir = .ok (.directory held) ∧
      ∃ e ∈ held, maxPathLength < byteLength (dir.joinText e.1).toText

variable {d : Disk} {dir : Path} {held : List (Text × DiskNode)}

theorem not_isOverlong (h : d.find dir = .ok (.directory held))
    (hlength : ∀ e ∈ held, byteLength (dir.joinText e.1).toText ≤ maxPathLength) :
    ¬d.IsOverlong dir := by
  rintro (⟨_, hlong⟩ | ⟨held', hheld', e, he, hlong⟩)
  · exact absurd (h.symm.trans hlong) (by simp)
  · obtain rfl := DiskNode.directory.inj (Except.ok.inj (h.symm.trans hheld'))
    exact absurd (hlength e he) (Nat.not_le_of_lt hlong)

theorem mem_phraseFiles (h : d.find dir = .ok (.directory held)) {name : Text} {content : Bytes} :
    (name, content) ∈ d.phraseFiles dir ↔
      (name, .file content) ∈ held ∧ nameSuffix name = PhraseFile.ending := by
  simp only [phraseFiles, h, DiskNode.phraseFiles, DiskNode.entries, List.mem_filterMap]
  constructor
  · rintro ⟨⟨name', n⟩, he, hfile⟩
    cases n with
    | directory inner => exact absurd hfile (by simp)
    | file content' =>
      dsimp only at hfile
      split_ifs at hfile with hsuffix
      obtain ⟨rfl, rfl⟩ := Prod.mk.inj (Option.some.inj hfile)
      exact ⟨he, hsuffix⟩
  · rintro ⟨he, hsuffix⟩
    exact ⟨(name, .file content), he, by simp [hsuffix]⟩

theorem nodup_phraseFiles (wf : d.WellFormed) (h : d.find dir = .ok (.directory held)) :
    ((d.phraseFiles dir).map (·.1)).Nodup := by
  have hsublist : (held.filter fun e => !e.2.isDirectory).Sublist held := List.filter_sublist
  simp only [phraseFiles, h, DiskNode.map_fst_phraseFiles]
  exact (List.filter_sublist.trans (hsublist.map _)).nodup (wf.properEntries h).distinct

end Disk

namespace PhraseFile

variable {d : Disk} {dir : Path} {held : List (Text × DiskNode)} {r : Reference}

/-! ### The names -/

theorem names_eq (h : d.find dir = .ok (.directory held)) :
    names d dir =
      ((held.map (·.1)).filterM fun name => d.isFile (dir.joinText name)) >>= fun files =>
        .ok ((files.filter fun name => nameSuffix name == ending).mergeSort Text.le) := by
  simp only [names, Disk.list, h]
  rfl

theorem isFile_entry (wf : d.WellFormed) (h : d.find dir = .ok (.directory held))
    {e : Text × DiskNode} (he : e ∈ held)
    (hlength : byteLength (dir.joinText e.1).toText ≤ maxPathLength) :
    d.isFile (dir.joinText e.1) = .ok (!e.2.isDirectory) := by
  have proper : ProperEntries held := wf.properEntries h
  apply Disk.stands_of_find
  · rw [Disk.hasBarred_joinText (proper.named e he)]
    exact Disk.hasBarred_of_find wf h
  · exact Disk.find_joinText h proper he hlength

theorem name_entry (wf : d.WellFormed) (h : d.find dir = .ok (.directory held))
    {e : Text × Bytes} (he : e ∈ d.phraseFiles dir) : (dir.joinText e.1).name = e.1 := by
  obtain ⟨he, _⟩ := (Disk.mem_phraseFiles h).mp he
  exact Disk.name_joinText ((wf.properEntries h).named _ he) dir

/-- Within the limits the files among the entries are told apart. -/
theorem filterM_isFile (wf : d.WellFormed) (h : d.find dir = .ok (.directory held))
    (hshort : ¬d.IsOverlong dir) :
    (held.map (·.1)).filterM (fun name => d.isFile (dir.joinText name)) =
      .ok ((held.filter fun e => !e.2.isDirectory).map (·.1)) := by
  have hlookup : ∀ e ∈ held, held.lookup e.1 = some e.2 :=
    fun e he => (wf.properEntries h).lookup_eq_some.mpr he
  -- a name alone decides whether a file stands there, since the entries' names differ
  have htest : ∀ name ∈ held.map (·.1), d.isFile (dir.joinText name) =
      .ok ((held.lookup name).any fun n => !n.isDirectory) := by
    intro name hname
    obtain ⟨e, he, rfl⟩ := List.mem_map.mp hname
    rw [isFile_entry wf h he, hlookup e he]
    · rfl
    · by_contra hlong
      exact hshort (.inr ⟨held, h, e, he, by omega⟩)
  rw [filterM_ok htest, List.filter_map]
  congr 2
  apply List.filter_congr
  intro e he
  rw [Function.comp_apply, hlookup e he]
  rfl

/-- Within the limits the names are those of the phrase files, strictly in order. -/
theorem names_ok (wf : d.WellFormed) (h : d.find dir = .ok (.directory held))
    (hshort : ¬d.IsOverlong dir) :
    ∃ found, names d dir = .ok found ∧ found.Pairwise Text.Precedes ∧
      found.Perm ((d.phraseFiles dir).map (·.1)) ∧
      ∀ name ∈ found, (dir.joinText name).name = name := by
  have hnames : names d dir = .ok (((d.phraseFiles dir).map (·.1)).mergeSort Text.le) := by
    rw [names_eq h, filterM_isFile wf h hshort]
    simp only [Disk.phraseFiles, h, DiskNode.map_fst_phraseFiles]
    rfl
  have hperm := List.mergeSort_perm ((d.phraseFiles dir).map (·.1)) Text.le
  refine ⟨_, hnames, ?_, hperm, ?_⟩
  · apply Text.pairwise_precedes (Text.pairwise_mergeSort _)
    rw [hperm.nodup_iff]
    exact Disk.nodup_phraseFiles wf h
  · intro name hname
    obtain ⟨e, he, rfl⟩ := List.mem_map.mp (hperm.mem_iff.mp hname)
    exact name_entry wf h he

/-- Beyond the limits there are no names. -/
theorem names_error (h : d.find dir = .ok (.directory held)) (wf : d.WellFormed)
    (hlong : ∃ e ∈ held, maxPathLength < byteLength (dir.joinText e.1).toText) :
    ∃ e, e.cause = .nameTooLong ∧ names d dir = .error e := by
  obtain ⟨entry, hentry, hlength⟩ := hlong
  have hunbarred : Disk.hasBarred (dir.joinText entry.1) = false := by
    rw [Disk.hasBarred_joinText ((wf.properEntries h).named entry hentry)]
    exact Disk.hasBarred_of_find wf h
  have hrefused : ∃ name ∈ held.map (·.1), ∃ e, d.isFile (dir.joinText name) = .error e := by
    have hfind := Disk.find_of_long (d := d) hlength
    exact ⟨entry.1, List.mem_map_of_mem hentry, _,
      Disk.stands_eq_error_iff.mpr ⟨hunbarred, hfind, rfl⟩⟩
  have hcauses : ∀ name ∈ held.map (·.1), ∀ e, d.isFile (dir.joinText name) = .error e →
      e.cause = .nameTooLong := by
    intro name _ e he
    rw [(Disk.stands_eq_error_iff.mp he).2.2]
  obtain ⟨e, hcause, he⟩ := filterM_error hcauses hrefused
  exact ⟨e, hcause, by rw [names_eq h, he]; rfl⟩

/-! ### Taking files -/

/-- Files that were taken: each denotes its locale, and no locale is denoted twice. -/
structure Taken (r : Reference) (files : List PhraseFile) : Prop where
  denoted : ∀ f ∈ files, Locale.ofPath r f.path = .ok f.locale
  distinct : (files.map (·.locale)).Nodup

theorem Taken.nil : Taken r [] :=
  ⟨by simp, by simp⟩

theorem Taken.exists_of_path {files : List PhraseFile} (h : Taken r files) {p : Path}
    (hp : p ∈ files.map (·.path)) : ∃ f ∈ files, f.path = p ∧ Locale.ofPath r p = .ok f.locale := by
  obtain ⟨f, hf, rfl⟩ := List.mem_map.mp hp
  exact ⟨f, hf, rfl, h.denoted f hf⟩

theorem Taken.append_singleton {found : List PhraseFile} (h : Taken r found) {f : PhraseFile}
    (hf : Locale.ofPath r f.path = .ok f.locale) (hnew : ∀ g ∈ found, g.locale ≠ f.locale) :
    Taken r (found ++ [f]) := by
  constructor
  · rw [List.forall_mem_append, List.forall_mem_singleton]
    exact ⟨h.denoted, hf⟩
  · rw [List.map_append, List.nodup_append]
    refine ⟨h.distinct, by simp, ?_⟩
    intro l hl l' hl'
    obtain ⟨g, hg, rfl⟩ := List.mem_map.mp hl
    obtain rfl : l' = f.locale := by simpa using hl'
    exact hnew g hg

/-- Taking adds files for the paths, in order. -/
theorem take_ok {found files : List PhraseFile} {paths : List Path} (hfound : Taken r found)
    (h : (take r found paths).outcome = .ok files) :
    Taken r files ∧ files.map (·.path) = found.map (·.path) ++ paths := by
  induction paths generalizing found with
  | nil =>
    obtain rfl : found = files := Except.ok.inj h
    exact ⟨hfound, by simp⟩
  | cons path paths ih =>
    unfold take at h
    split at h
    next => exact absurd h (by simp)
    next l hl =>
      split at h
      next => exact absurd h (by simp)
      next hnone =>
        have hnew : ∀ g ∈ found, g.locale ≠ l := by
          simpa using List.find?_eq_none.mp hnone
        obtain ⟨htaken, hpaths⟩ := ih (hfound.append_singleton hl hnew) h
        exact ⟨htaken, by simpa using hpaths⟩

/-- Why a path cannot be taken after others: its name denotes no locale, or that of one of them. -/
inductive Refused (r : Reference) (taken : List PhraseFile) (path : Path) : Failure → Prop
  | unparsed {f : Failure} (h : Locale.ofPath r path = .error f) : Refused r taken path f
  | repeated {first : PhraseFile} (mem : first ∈ taken)
      (h : Locale.ofPath r path = .ok first.locale) :
    Refused r taken path
      (.duplicateLocale first.locale.canonical first.path.toText path.toText)

/-- Taking fails at the first path that cannot be taken after those before it. -/
theorem exists_refused {found : List PhraseFile} {paths : List Path} {t : Trouble}
    (h : (take r found paths).outcome = .error t) :
    ∃ earlier path later taken f, paths = earlier ++ path :: later ∧
      (take r found earlier).outcome = .ok taken ∧ Refused r taken path f ∧ t = .failure f := by
  induction paths generalizing found with
  | nil => exact absurd h (by simp [take])
  | cons path paths ih =>
    unfold take at h
    split at h
    next f hf =>
      exact ⟨[], path, paths, found, f, rfl, rfl, .unparsed hf, (Except.error.inj h).symm⟩
    next l hl =>
      split at h
      next first hfirst =>
        obtain rfl : first.locale = l := by simpa using List.find?_some hfirst
        exact ⟨[], path, paths, found, _, rfl, rfl,
          .repeated (List.mem_of_find?_eq_some hfirst) hl, (Except.error.inj h).symm⟩
      next hnone =>
        obtain ⟨earlier, next, later, taken, f, rfl, htake, hrefused, ht⟩ := ih h
        refine ⟨path :: earlier, next, later, taken, f, rfl, ?_, hrefused, ht⟩
        simp only [take, hl, hnone]
        exact htake

theorem Taken.of_perm {files files' : List PhraseFile} (h : Taken r files)
    (hperm : files'.Perm files) : Taken r files' where
  denoted f hf := h.denoted f (hperm.mem_iff.mp hf)
  distinct := (hperm.map _).nodup_iff.mpr h.distinct

/-! ### The input directory -/

/-- What is discovered are files sorted by their locales. -/
theorem inDirectory_ok {files : List PhraseFile} (h : (inDirectory d dir r).outcome = .ok files) :
    Taken r files ∧ (files.map (·.locale)).Pairwise fun a b => Locale.le a b = true := by
  unfold inDirectory at h
  split at h
  next => exact absurd h (by simp)
  next => exact absurd h (by simp)
  next =>
    split at h
    next => exact absurd h (by simp)
    next =>
      rw [Traced.outcome_bind, bind_eq_ok] at h
      obtain ⟨taken, htake, hsort⟩ := h
      obtain rfl := Except.ok.inj hsort
      refine ⟨(take_ok .nil htake).1.of_perm (List.mergeSort_perm _ _), ?_⟩
      rw [List.pairwise_map]
      exact List.pairwise_mergeSort (fun a b c => Locale.le_trans a.locale b.locale c.locale)
        (fun a b => Locale.le_total a.locale b.locale) _

theorem read_entry (wf : d.WellFormed) (h : d.find dir = .ok (.directory held))
    (hshort : ¬d.IsOverlong dir) {e : Text × Bytes} (he : e ∈ d.phraseFiles dir) :
    Disk.hasBarred (dir.joinText e.1) = false ∧ d.read (dir.joinText e.1) = .ok e.2 := by
  have proper : ProperEntries held := wf.properEntries h
  obtain ⟨he, _⟩ := (Disk.mem_phraseFiles h).mp he
  have hlength : byteLength (dir.joinText e.1).toText ≤ maxPathLength := by
    by_contra hlong
    exact hshort (.inr ⟨held, h, (e.1, .file e.2), he, Nat.lt_of_not_le hlong⟩)
  constructor
  · rw [Disk.hasBarred_joinText (proper.named _ he)]
    exact Disk.hasBarred_of_find wf h
  · rw [Disk.read, Disk.find_joinText h proper he hlength]

theorem outcome_inDirectory (wf : d.WellFormed) (h : d.find dir = .ok (.directory held))
    {found : List Text} (hnames : names d dir = .ok found) :
    (inDirectory d dir r).outcome = (take r [] (found.map dir.joinText)).outcome >>= fun files =>
      .ok (files.mergeSort fun a b => a.locale.le b.locale) := by
  have hdir : d.isDirectory dir = .ok true := Disk.stands_of_find (Disk.hasBarred_of_find wf h) h
  simp only [inDirectory, hdir, hnames, Traced.outcome_bind, Traced.outcome_pure]

/-- Within the limits there is one discovered file for each phrase file. -/
theorem paths_perm (wf : d.WellFormed) (h : d.find dir = .ok (.directory held))
    (hshort : ¬d.IsOverlong dir) {files : List PhraseFile}
    (hfiles : (inDirectory d dir r).outcome = .ok files) :
    (files.map (·.path)).Perm ((d.phraseFiles dir).map fun e => dir.joinText e.1) := by
  obtain ⟨found, hnames, _, hperm, _⟩ := names_ok wf h hshort
  rw [outcome_inDirectory wf h hnames, bind_eq_ok] at hfiles
  obtain ⟨taken, htake, hsort⟩ := hfiles
  obtain rfl := Except.ok.inj hsort
  have hpaths := (take_ok .nil htake).2
  rw [List.map_nil, List.nil_append] at hpaths
  have hsorted := (List.mergeSort_perm taken fun a b => a.locale.le b.locale).map (·.path)
  rw [hpaths] at hsorted
  have hjoined := hperm.map dir.joinText
  rw [List.map_map] at hjoined
  exact hsorted.trans hjoined

/-- A phrase file is discovered, as the file that its name denotes. -/
theorem exists_of_mem_phraseFiles (wf : d.WellFormed) (h : d.find dir = .ok (.directory held))
    (hshort : ¬d.IsOverlong dir) {files : List PhraseFile}
    (hfiles : (inDirectory d dir r).outcome = .ok files) {e : Text × Bytes}
    (he : e ∈ d.phraseFiles dir) :
    ∃ f ∈ files, f.path = dir.joinText e.1 ∧ Locale.ofFileName r e.1 = .ok f.locale := by
  have hp : dir.joinText e.1 ∈ files.map (·.path) :=
    (paths_perm wf h hshort hfiles).mem_iff.mpr (List.mem_map_of_mem he)
  obtain ⟨f, hf, hpath, hlocale⟩ := (inDirectory_ok hfiles).1.exists_of_path hp
  rw [Locale.ofPath, name_entry wf h he] at hlocale
  exact ⟨f, hf, hpath, hlocale⟩

/-- The discovered files are the phrase files of the directory with the locales of their names. -/
theorem mem_inDirectory (wf : d.WellFormed) (h : d.find dir = .ok (.directory held))
    (hshort : ¬d.IsOverlong dir) {files : List PhraseFile}
    (hfiles : (inDirectory d dir r).outcome = .ok files) (f : PhraseFile) :
    f ∈ files ↔ ∃ e ∈ d.phraseFiles dir,
      Locale.ofFileName r e.1 = .ok f.locale ∧ f.path = dir.joinText e.1 := by
  constructor
  · intro hf
    have hp := (paths_perm wf h hshort hfiles).mem_iff.mp (List.mem_map_of_mem hf)
    obtain ⟨e, he, hpath⟩ := List.mem_map.mp hp
    have hlocale := (inDirectory_ok hfiles).1.denoted f hf
    rw [← hpath, Locale.ofPath, name_entry wf h he] at hlocale
    exact ⟨e, he, hlocale, hpath.symm⟩
  · rintro ⟨e, he, hlocale, hpath⟩
    obtain ⟨g, hg, hgpath, hglocale⟩ := exists_of_mem_phraseFiles wf h hshort hfiles he
    obtain ⟨l, p⟩ := f
    obtain ⟨l', p'⟩ := g
    obtain rfl : l = l' := Except.ok.inj (hlocale.symm.trans hglocale)
    obtain rfl : p = p' := hpath.trans hgpath.symm
    exact hg

/-- Beyond the limits the disk refuses, for excessive length. -/
theorem inDirectory_of_overlong (wf : d.WellFormed) (hlong : d.IsOverlong dir) :
    ∃ e, e.cause = .nameTooLong ∧ (inDirectory d dir r).outcome = .error (.disk e) := by
  rcases hlong with ⟨hunbarred, hfind⟩ | ⟨held, hfind, hentry⟩
  · have hdir : d.isDirectory dir = .error ⟨.nameTooLong, dir.toText, none⟩ :=
      Disk.stands_eq_error_iff.mpr ⟨hunbarred, hfind, rfl⟩
    refine ⟨⟨.nameTooLong, dir.toText, none⟩, rfl, ?_⟩
    simp only [inDirectory, hdir, Traced.outcome_throw]
  · have hdir : d.isDirectory dir = .ok true :=
      Disk.stands_of_find (Disk.hasBarred_of_find wf hfind) hfind
    obtain ⟨e, hcause, hnames⟩ := names_error hfind wf hentry
    refine ⟨e, hcause, ?_⟩
    simp only [inDirectory, hdir, hnames, Traced.outcome_throw]

/-- Where no directory stands, this is reported. -/
theorem inDirectory_of_missing (h : ∀ held, d.find dir ≠ .ok (.directory held))
    (hshort : ¬d.IsOverlong dir) :
    (inDirectory d dir r).outcome =
      .error (.failure (.missingInputDirectory dir.toText)) := by
  have hdir : d.isDirectory dir = .ok false := by
    cases hdir : d.isDirectory dir with
    | error e =>
      obtain ⟨hunbarred, hfind, _⟩ := Disk.stands_eq_error_iff.mp hdir
      exact absurd (.inl ⟨hunbarred, hfind⟩) hshort
    | ok b =>
      cases b with
      | false => rfl
      | true =>
        obtain ⟨_, n, hfind, hn⟩ := Disk.stands_eq_true_iff.mp hdir
        cases n with
        | file content => exact absurd hn (by simp [DiskNode.isDirectory])
        | directory held => exact absurd hfind (h held)
  simp only [inDirectory, hdir, Traced.outcome_throw]

/-- What is discovered is found in a directory that stands, within the limits. -/
theorem standing_of_inDirectory (wf : d.WellFormed) {files : List PhraseFile}
    (h : (inDirectory d dir r).outcome = .ok files) :
    ¬d.IsOverlong dir ∧ ∃ held, d.find dir = .ok (.directory held) := by
  have hshort : ¬d.IsOverlong dir := by
    intro hlong
    obtain ⟨e, _, he⟩ := inDirectory_of_overlong (r := r) wf hlong
    exact absurd (h.symm.trans he) (by simp)
  refine ⟨hshort, ?_⟩
  by_contra hdir
  have hmissing := inDirectory_of_missing (r := r) (not_exists.mp hdir) hshort
  exact absurd (h.symm.trans hmissing) (by simp)

/-- Where discovery succeeds, every name denotes a locale, and no two names denote the same. -/
theorem names_of_inDirectory (wf : d.WellFormed) {files : List PhraseFile}
    (h : (inDirectory d dir r).outcome = .ok files) :
    (∀ e ∈ d.phraseFiles dir, ∃ l, Locale.ofFileName r e.1 = .ok l) ∧
    ∀ e ∈ d.phraseFiles dir, ∀ e' ∈ d.phraseFiles dir, ∀ l,
      Locale.ofFileName r e.1 = .ok l → Locale.ofFileName r e'.1 = .ok l → e.1 = e'.1 := by
  obtain ⟨hshort, held, hheld⟩ := standing_of_inDirectory wf h
  constructor
  · intro e he
    obtain ⟨f, _, _, hlocale⟩ := exists_of_mem_phraseFiles wf hheld hshort h he
    exact ⟨f.locale, hlocale⟩
  · intro e he e' he' l hl hl'
    obtain ⟨f, hf, hpath, hlocale⟩ := exists_of_mem_phraseFiles wf hheld hshort h he
    obtain ⟨f', hf', hpath', hlocale'⟩ := exists_of_mem_phraseFiles wf hheld hshort h he'
    have hsame : f.locale = f'.locale := by
      rw [Except.ok.inj (hlocale.symm.trans hl), Except.ok.inj (hlocale'.symm.trans hl')]
    have heq : f = f' := List.inj_on_of_nodup_map (inDirectory_ok h).1.distinct hf hf' hsame
    rw [← name_entry wf hheld he, ← hpath, heq, hpath', name_entry wf hheld he']

/-- A phrase file that is the only one is found. -/
theorem inDirectory_singleton (wf : d.WellFormed) (h : d.find dir = .ok (.directory held))
    (hshort : ¬d.IsOverlong dir) {name : Text} {content : Bytes}
    (honly : d.phraseFiles dir = [(name, content)]) {l : Locale}
    (hlocale : Locale.ofFileName r name = .ok l) :
    (inDirectory d dir r).outcome = .ok [⟨l, dir.joinText name⟩] := by
  obtain ⟨found, hnames, _, hperm, hname⟩ := names_ok wf h hshort
  rw [honly] at hperm
  obtain rfl : found = [name] := List.perm_singleton.mp hperm
  have htake : (take r [] ([name].map dir.joinText)).outcome = .ok [⟨l, dir.joinText name⟩] := by
    simp only [List.map_cons, List.map_nil, take, Locale.ofPath, hname name (by simp), hlocale]
    rfl
  rw [outcome_inDirectory wf h hnames, htake]
  show Except.ok _ = _
  rw [List.mergeSort_singleton]

end PhraseFile

end Phrasebook
