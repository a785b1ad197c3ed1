import Mathlib
import Phrasebook.Proofs.PhraseFile.Discovery

/-! Faults of names. Discovery depends on which phrase files a directory holds, and not on the order
in which they are listed: it is refused for the first name in order that denotes no locale or the
locale of a name before it. -/

namespace Phrasebook

namespace PhraseFile

variable {d d' : Disk} {dir : Path} {held held' : List (Text × DiskNode)} {r : Reference}
  {names names' : List Text} {name : Text} {f : Failure}

/-! ### What discovery depends on -/

/-- The same phrase files are discovered in whatever order they are listed. -/
theorem inDirectory_of_sameFiles (wf : d.WellFormed) (wf' : d'.WellFormed)
    (hdir : d.find dir = .ok (.directory held)) (hdir' : d'.find dir = .ok (.directory held'))
    (hshort : ¬d.IsOverlong dir) (hshort' : ¬d'.IsOverlong dir)
    (same : ∀ e, e ∈ d'.phraseFiles dir ↔ e ∈ d.phraseFiles dir) :
    inDirectory d' dir r = inDirectory d dir r := by
  obtain ⟨found, hfound, hordered, hperm, _⟩ := names_ok wf hdir hshort
  obtain ⟨found', hfound', hordered', hperm', _⟩ := names_ok wf' hdir' hshort'
  have heq : found' = found := by
    apply Text.eq_of_pairwise_precedes hordered' hordered
    intro name
    rw [hperm.mem_iff, hperm'.mem_iff]
    simp only [List.mem_map, same]
  have hlook : d.isDirectory dir = .ok true :=
    Disk.stands_of_find (Disk.hasBarred_of_find wf hdir) hdir
  have hlook' : d'.isDirectory dir = .ok true :=
    Disk.stands_of_find (Disk.hasBarred_of_find wf' hdir') hdir'
  rw [inDirectory, inDirectory, hlook, hlook', hfound, hfound', heq]

/-- Neither what a directory holds nor whether it can be looked at depends on the order in which it
is listed. -/
theorem inDirectory_of_perm (wf : d.WellFormed) (wf' : d'.WellFormed)
    (hdir : d.find dir = .ok (.directory held)) (hdir' : d'.find dir = .ok (.directory held'))
    (hshort : ¬d.IsOverlong dir) (hperm : held'.Perm held) :
    inDirectory d' dir r = inDirectory d dir r := by
  have hshort' : ¬d'.IsOverlong dir := by
    apply Disk.not_isOverlong hdir'
    intro e he
    by_contra hlong
    exact hshort (.inr ⟨held, hdir, e, hperm.mem_iff.mp he, Nat.lt_of_not_le hlong⟩)
  apply inDirectory_of_sameFiles wf wf' hdir hdir' hshort hshort'
  rintro ⟨name, content⟩
  rw [Disk.mem_phraseFiles hdir, Disk.mem_phraseFiles hdir', hperm.mem_iff]

/-! ### The first fault -/

/-- What is wrong with a name among others: it denotes no locale, or that of a name before it. -/
inductive Fault (r : Reference) (dir : Path) (names : List Text) (name : Text) : Failure → Prop
  | unparsed {f : Failure} (h : Locale.ofFileName r name = .error f) : Fault r dir names name f
  | repeated {first : Text} {l : Locale} (mem : first ∈ names)
      (before : Text.Precedes first name) (hfirst : Locale.ofFileName r first = .ok l)
      (h : Locale.ofFileName r name = .ok l) :
    Fault r dir names name
      (.duplicateLocale l.canonical (dir.joinText first).toText (dir.joinText name).toText)

/-- The first name in order that has a fault. -/
structure FirstFault (r : Reference) (dir : Path) (names : List Text) (name : Text)
    (f : Failure) : Prop where
  mem : name ∈ names
  fault : Fault r dir names name f
  least : ∀ other ∈ names, ∀ g, Fault r dir names other g →
    other = name ∨ Text.Precedes name other

theorem Fault.congr (h : Fault r dir names name f) (same : ∀ n, n ∈ names' ↔ n ∈ names) :
    Fault r dir names' name f := by
  cases h with
  | unparsed h => exact .unparsed h
  | repeated mem before hfirst h => exact .repeated ((same _).mpr mem) before hfirst h

theorem Fault.kind_mem (h : Fault r dir names name f) :
    f.kind ∈ [.invalidLanguage, .invalidRegion, .duplicateLocale] := by
  cases h with
  | unparsed hf => rcases Locale.parse_error_kind hf with hkind | hkind <;> simp [hkind]
  | repeated _ _ _ _ => simp [Failure.kind]

theorem FirstFault.congr (h : FirstFault r dir names name f)
    (same : ∀ n, n ∈ names' ↔ n ∈ names) : FirstFault r dir names' name f where
  mem := (same name).mpr h.mem
  fault := h.fault.congr same
  least other hother g hg :=
    h.least other ((same other).mp hother) g (hg.congr fun n => (same n).symm)

theorem FirstFault.unique {name' : Text} {f' : Failure} (h : FirstFault r dir names name f)
    (h' : FirstFault r dir names name' f') : f = f' := by
  have hname : name = name' := by
    rcases h.least name' h'.mem f' h'.fault with heq | hafter
    · exact heq.symm
    · rcases h'.least name h.mem f h.fault with heq | hbefore
      · exact heq
      · exact absurd hafter hbefore.asymm
  subst hname
  -- of two names before this one for its locale, the second would have a fault
  have hsingle {first second : Text} {l : Locale} (hfirst : first ∈ names)
      (hsecond : second ∈ names) (hl : Locale.ofFileName r first = .ok l)
      (hl' : Locale.ofFileName r second = .ok l) (hbefore : Text.Precedes second name) :
      ¬Text.Precedes first second := by
    intro hprecedes
    rcases h.least second hsecond _ (.repeated hfirst hprecedes hl hl') with heq | hafter
    · exact hbefore.2 heq
    · exact hafter.asymm hbefore
  cases h.fault with
  | unparsed hf =>
    cases h'.fault with
    | unparsed hf' => exact Except.error.inj (hf.symm.trans hf')
    | repeated _ _ _ hl => exact absurd (hf.symm.trans hl) (by simp)
  | @repeated first l mem before hfirst hl =>
    cases h'.fault with
    | unparsed hf' => exact absurd (hl.symm.trans hf') (by simp)
    | @repeated first' l' mem' before' hfirst' hl' =>
      obtain rfl : l = l' := Except.ok.inj (hl.symm.trans hl')
      have heq : first = first' := by
        by_contra hne
        rcases Text.precedes_or_precedes hne with hprecedes | hprecedes
        · exact hsingle mem mem' hfirst hfirst' before' hprecedes
        · exact hsingle mem' mem hfirst' hfirst before hprecedes
      rw [heq]

section Taking

variable {earlier later : List Text} {taken : List PhraseFile}
  (hname : ∀ n ∈ earlier ++ name :: later, (dir.joinText n).name = n)
  (htake : (take r [] (earlier.map dir.joinText)).outcome = .ok taken)
include hname htake

/-- Each name before one that is refused is that of a file taken for it. -/
theorem exists_taken {n : Text} (hn : n ∈ earlier) :
    ∃ o ∈ taken, o.path = dir.joinText n ∧ Locale.ofFileName r n = .ok o.locale := by
  obtain ⟨htaken, hpaths⟩ := take_ok .nil htake
  rw [List.map_nil, List.nil_append] at hpaths
  have hp : dir.joinText n ∈ taken.map (·.path) := hpaths ▸ List.mem_map_of_mem hn
  obtain ⟨o, ho, hpath, hlocale⟩ := htaken.exists_of_path hp
  rw [Locale.ofPath, hname n (List.mem_append_left _ hn)] at hlocale
  exact ⟨o, ho, hpath, hlocale⟩

/-- Names that were taken have no fault. -/
theorem not_fault_of_taken (hordered : (earlier ++ name :: later).Pairwise Text.Precedes)
    {other : Text} (hother : other ∈ earlier) (g : Failure) :
    ¬Fault r dir (earlier ++ name :: later) other g := by
  obtain ⟨hbefore, hafter, hacross⟩ := List.pairwise_append.mp hordered
  obtain ⟨o, ho, hpath, hlocale⟩ := exists_taken hname htake hother
  intro hfault
  cases hfault with
  | unparsed hg => exact absurd (hlocale.symm.trans hg) (by simp)
  | @repeated first l mem hprecedes hfirst hl =>
    obtain rfl : o.locale = l := Except.ok.inj (hlocale.symm.trans hl)
    rcases List.mem_append.mp mem with hearlier | hlater
    · obtain ⟨o', ho', hpath', hlocale'⟩ := exists_taken hname htake hearlier
      have hsame : o'.locale = o.locale := Except.ok.inj (hlocale'.symm.trans hfirst)
      have heq : o' = o := List.inj_on_of_nodup_map (take_ok .nil htake).1.distinct ho' ho hsame
      have hjoin : dir.joinText first = dir.joinText other := by rw [← hpath', heq, hpath]
      apply hprecedes.2
      rw [← hname first mem, hjoin, hname other (List.mem_append_left _ hother)]
    · exact hprecedes.asymm (hacross other hother first hlater)

/-- The path at which taking fails has the first name with a fault. -/
theorem firstFault_of_refused (hordered : (earlier ++ name :: later).Pairwise Text.Precedes)
    (hrefused : Refused r taken (dir.joinText name) f) :
    FirstFault r dir (earlier ++ name :: later) name f := by
  have hmem : name ∈ earlier ++ name :: later := by simp
  have hpath {n : Text} (hn : n ∈ earlier ++ name :: later) :
      Locale.ofPath r (dir.joinText n) = Locale.ofFileName r n := by
    rw [Locale.ofPath, hname n hn]
  obtain ⟨htaken, hpaths⟩ := take_ok .nil htake
  rw [List.map_nil, List.nil_append] at hpaths
  obtain ⟨_, hafter, hacross⟩ := List.pairwise_append.mp hordered
  refine ⟨hmem, ?_, ?_⟩
  · cases hrefused with
    | unparsed hf => exact .unparsed (hpath hmem ▸ hf)
    | @repeated first hfirst hl =>
      have hp : first.path ∈ earlier.map dir.joinText := hpaths ▸ List.mem_map_of_mem hfirst
      obtain ⟨n, hn, hjoin⟩ := List.mem_map.mp hp
      have hn' : n ∈ earlier ++ name :: later := List.mem_append_left _ hn
      have hlocale := htaken.denoted first hfirst
      rw [← hjoin, hpath hn'] at hlocale
      rw [← hjoin]
      exact .repeated hn' (hacross n hn name (by simp)) hlocale (hpath hmem ▸ hl)
  · intro other hother g hg
    rcases List.mem_append.mp hother with hearlier | hlater
    · exact absurd hg (not_fault_of_taken hname htake hordered hearlier g)
    · rcases List.mem_cons.mp hlater with rfl | hlater
      · exact .inl rfl
      · exact .inr ((List.pairwise_cons.mp hafter).1 other hlater)

end Taking

/-! ### Discovery -/

/-- No name has a fault where each denotes a locale, and no two the same. -/
theorem not_fault_of_distinct {entries : List (Text × Bytes)}
    (hdenote : ∀ e ∈ entries, ∃ l, Locale.ofFileName r e.1 = .ok l)
    (hdistinct : ∀ e ∈ entries, ∀ e' ∈ entries, ∀ l,
      Locale.ofFileName r e.1 = .ok l → Locale.ofFileName r e'.1 = .ok l → e.1 = e'.1)
    (hname : name ∈ entries.map (·.1)) : ¬Fault r dir (entries.map (·.1)) name f := by
  obtain ⟨e, he, rfl⟩ := List.mem_map.mp hname
  intro hfault
  cases hfault with
  | unparsed hf =>
    obtain ⟨l, hl⟩ := hdenote e he
    exact absurd (hl.symm.trans hf) (by simp)
  | repeated mem hprecedes hfirst hl =>
    obtain ⟨e', he', rfl⟩ := List.mem_map.mp mem
    exact hprecedes.2 (hdistinct e' he' e he _ hfirst hl)

/-- The discovered files are strictly in the order of their locales, as no region is empty. -/
theorem pairwise_precedes_inDirectory (hregion : r.hasRegion [] = false) {files : List PhraseFile}
    (h : (inDirectory d dir r).outcome = .ok files) :
    (files.map (·.locale)).Pairwise Locale.Precedes := by
  obtain ⟨htaken, hordered⟩ := inDirectory_ok h
  apply (hordered.and htaken.distinct).imp_of_mem
  intro a b ha _ hab
  obtain ⟨o, ho, rfl⟩ := List.mem_map.mp ha
  apply Locale.precedes_of_le _ hab.1 hab.2
  intro hempty
  have hknown : r.hasRegion [] = true :=
    Locale.hasRegion_of_parse (htaken.denoted o ho) hempty
  exact absurd (hknown.symm.trans hregion) (by simp)

section Standing

variable (wf : d.WellFormed) (hdir : d.find dir = .ok (.directory held))
  (hshort : ¬d.IsOverlong dir)
include wf hdir hshort

/-- Where discovery fails, the first fault among the names is reported. -/
theorem exists_firstFault {t : Trouble} (h : (inDirectory d dir r).outcome = .error t) :
    ∃ name f, FirstFault r dir ((d.phraseFiles dir).map (·.1)) name f ∧ t = .failure f := by
  obtain ⟨found, hnames, hordered, hperm, hname⟩ := names_ok wf hdir hshort
  have htake : (take r [] (found.map dir.joinText)).outcome = .error t := by
    rw [outcome_inDirectory wf hdir hnames] at h
    cases htake : (take r [] (found.map dir.joinText)).outcome with
    | ok files => exact absurd h (by simp [htake, bind, Except.bind])
    | error t' =>
      rw [htake] at h
      exact h
  obtain ⟨earlier, path, later, taken, f, hsplit, htaken, hrefused, rfl⟩ := exists_refused htake
  obtain ⟨before, rest, rfl, rfl, hrest⟩ := List.map_eq_append_iff.mp hsplit
  obtain ⟨name, after, rfl, rfl, rfl⟩ := List.map_eq_cons_iff.mp hrest
  have hfirst := firstFault_of_refused hname htaken hordered hrefused
  exact ⟨name, f, hfirst.congr fun n => hperm.symm.mem_iff, rfl⟩

theorem inDirectory_eq_error_iff {t : Trouble} : (inDirectory d dir r).outcome = .error t ↔
    ∃ name f, FirstFault r dir ((d.phraseFiles dir).map (·.1)) name f ∧ t = .failure f := by
  constructor
  · exact exists_firstFault wf hdir hshort
  · rintro ⟨name, f, hfirst, rfl⟩
    cases h : (inDirectory d dir r).outcome with
    | ok files =>
      obtain ⟨hdenote, hdistinct⟩ := names_of_inDirectory wf h
      exact absurd hfirst.fault (not_fault_of_distinct hdenote hdistinct hfirst.mem)
    | error t =>
      obtain ⟨name', f', hfirst', rfl⟩ := exists_firstFault wf hdir hshort h
      rw [hfirst.unique hfirst']

/-- Discovery succeeds exactly if every name denotes a locale, and no two names the same. -/
theorem exists_inDirectory_iff : (∃ files, (inDirectory d dir r).outcome = .ok files) ↔
    (∀ e ∈ d.phraseFiles dir, ∃ l, Locale.ofFileName r e.1 = .ok l) ∧
    ∀ e ∈ d.phraseFiles dir, ∀ e' ∈ d.phraseFiles dir, ∀ l,
      Locale.ofFileName r e.1 = .ok l → Locale.ofFileName r e'.1 = .ok l → e.1 = e'.1 := by
  constructor
  · rintro ⟨files, h⟩
    exact names_of_inDirectory wf h
  · rintro ⟨hdenote, hdistinct⟩
    cases h : (inDirectory d dir r).outcome with
    | ok files => exact ⟨files, rfl⟩
    | error t =>
      obtain ⟨name, f, hfirst, _⟩ := exists_firstFault wf hdir hshort h
      exact absurd hfirst.fault (not_fault_of_distinct hdenote hdistinct hfirst.mem)

end Standing

end PhraseFile

end Phrasebook
