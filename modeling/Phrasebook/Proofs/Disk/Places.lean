import Mathlib
import Phrasebook.Disk.Replacement
import Phrasebook.Proofs.Disk.Standing

/-! Where paths lead. The place that a path leads to can be read off its text, and as long as
directories stay directories and files stay files, a path goes on leading there. -/

namespace Phrasebook.Disk

variable {d d' : Disk} {l : Location} {name : Text}

/-! ### Places of paths -/

theorem collapse_append_singleton (parts : List Text) (part : Text) :
    collapse (parts ++ [part]) =
      if part = upward then (collapse parts).dropLast else collapse parts ++ [part] := by
  rw [collapse, List.foldl_append]
  rfl

theorem upward_notMem_collapse (parts : List Text) : upward ∉ collapse parts := by
  induction parts using List.reverseRecOn with
  | nil => exact List.not_mem_nil
  | append_singleton parts part ih =>
    rw [collapse_append_singleton]
    split_ifs with hup
    · exact fun h => ih (List.mem_of_mem_dropLast h)
    · rw [List.mem_append, List.mem_singleton, not_or]
      exact ⟨ih, Ne.symm hup⟩

/-- Without parts that lead upward there is nothing to resolve. -/
theorem collapse_of_notMem {parts : List Text} (h : upward ∉ parts) : collapse parts = parts := by
  induction parts using List.reverseRecOn with
  | nil => rfl
  | append_singleton parts part ih =>
    rw [List.mem_append, List.mem_singleton, not_or] at h
    rw [collapse_append_singleton, if_neg (Ne.symm h.2), ih h.1]

/-- The parts that are walked from the root. -/
def route (d : Disk) (p : Path) : List Text :=
  if p.root = .relative then d.workingDirectory ++ p.parts else p.parts

/-- The place that a path denotes by its text. -/
def place (d : Disk) (p : Path) : Location :=
  collapse (d.route p)

theorem parts_absolute (d : Disk) (p : Path) : (d.absolute p).parts = d.place p := by
  obtain ⟨root, parts⟩ := p
  cases root <;> rfl

theorem root_absolute (d : Disk) (p : Path) : (d.absolute p).root ≠ .relative := by
  obtain ⟨root, parts⟩ := p
  cases root <;> simp [absolute]

theorem route_absolute (d : Disk) (p : Path) : d.route (d.absolute p) = d.place p := by
  rw [route, if_neg (root_absolute d p), parts_absolute]

theorem place_absolute (d : Disk) (p : Path) : d.place (d.absolute p) = d.place p := by
  rw [place, route_absolute]
  exact collapse_of_notMem (upward_notMem_collapse _)

theorem route_append (d : Disk) (root : Path.Root) (parts more : List Text) :
    d.route ⟨root, parts ++ more⟩ = d.route ⟨root, parts⟩ ++ more := by
  unfold route
  split_ifs <;> simp

theorem place_append_singleton (d : Disk) (root : Path.Root) (parts : List Text) (name : Text) :
    d.place ⟨root, parts ++ [name]⟩ = if name = upward then (d.place ⟨root, parts⟩).dropLast
      else d.place ⟨root, parts⟩ ++ [name] := by
  rw [place, route_append, collapse_append_singleton]
  rfl

theorem walk_eq_route (d : Disk) (p : Path) : d.walk p = (d.route p).foldlM d.enter [] := by
  obtain ⟨root, parts⟩ := p
  cases root with
  | relative =>
    rw [route, if_pos rfl, List.foldlM_append]
    rfl
  | single => rfl
  | double => rfl

/-- Walking ends at the place that the text denotes. -/
theorem location_foldlM {parts : List Text} {t : Trail} (h : parts.foldlM d.enter [] = .ok t) :
    t.location = collapse parts := by
  induction parts using List.reverseRecOn generalizing t with
  | nil =>
    obtain rfl : [] = t := Except.ok.inj h
    rfl
  | append_singleton parts part ih =>
    rw [List.foldlM_append, bind_eq_ok] at h
    obtain ⟨s, hs, h⟩ := h
    rw [List.foldlM_cons, bind_eq_ok] at h
    obtain ⟨s', he, hend⟩ := h
    obtain rfl : s' = t := Except.ok.inj hend
    rw [collapse_append_singleton, ← ih hs]
    obtain ⟨_, _, ⟨rfl, rfl⟩ | ⟨n, hup, _, _, rfl⟩⟩ := enter_eq_ok_iff.mp he
    · rw [if_pos rfl]
      simp [Trail.location, List.map_tail]
    · rw [if_neg hup]
      simp [Trail.location]

theorem location_walk {p : Path} {t : Trail} (h : d.walk p = .ok t) : t.location = d.place p := by
  rw [walk_eq_route] at h
  exact location_foldlM h

/-- What a path leads to stands at its place. -/
theorem get_place {p : Path} {t : Trail} (h : d.walk p = .ok t) :
    d.get (d.place p) = some (d.nodeOn t) := by
  rw [← location_walk h]
  exact get_location (follows_walk h)

/-! ### Paths that lead to directories -/

/-- Walking the path ends at a directory. -/
def Leads (d : Disk) (p : Path) : Prop :=
  ∃ t, d.walk p = .ok t ∧ (d.nodeOn t).isDirectory = true

/-- A place passed on the way of a path. -/
def OnWay (d : Disk) (p : Path) (l : Location) : Prop :=
  ∃ parts, parts <+: d.route p ∧ collapse parts = l

theorem onWay_place (d : Disk) (p : Path) : d.OnWay p (d.place p) :=
  ⟨d.route p, List.prefix_rfl, rfl⟩

theorem OnWay.append {root : Path.Root} {parts : List Text} (h : d.OnWay ⟨root, parts⟩ l)
    (more : List Text) : d.OnWay ⟨root, parts ++ more⟩ l := by
  obtain ⟨passed, hpassed, hl⟩ := h
  refine ⟨passed, ?_, hl⟩
  rw [route_append]
  exact hpassed.trans (List.prefix_append ..)

theorem Leads.look {p : Path} (h : d.Leads p) : d.look (d.place p) = some .directory := by
  obtain ⟨t, ht, hdir⟩ := h
  rw [look_of_get (get_place ht), DiskNode.standing_eq_directory.mpr hdir]

/-- The step to an entry of a directory. -/
theorem enter_entry {t : Trail} {part : Text} {n : DiskNode} (h : d.Follows t)
    (hup : part ≠ upward) (hshort : byteLength part ≤ maxNameLength)
    (hn : d.get (t.location ++ [part]) = some n) : d.enter t part = .ok ((part, n) :: t) := by
  have ht : d.root.get t.location = some (d.nodeOn t) := get_location h
  rw [get, DiskNode.get_append_singleton, ht, Option.bind_some] at hn
  cases hnode : d.nodeOn t with
  | file content => exact absurd hn (by simp [hnode, DiskNode.entries])
  | directory held =>
    rw [hnode] at hn
    exact enter_eq_ok_iff.mpr ⟨held, hnode, .inr ⟨n, hup, hshort, hn, rfl⟩⟩

/-- Above a directory is a directory. -/
theorem isDirectory_tail {t : Trail} (h : d.Follows t) (hdir : (d.nodeOn t).isDirectory = true) :
    (d.nodeOn t.tail).isDirectory = true := by
  cases t with
  | nil => exact hdir
  | cons step t =>
    show (d.nodeOn t).isDirectory = true
    cases hnode : d.nodeOn t with
    | file content => exact absurd h.1 (by simp [hnode, DiskNode.entries])
    | directory held => rfl

/-- A path leads to a directory if the path without its last part does, and the last part leads
upward or is the name of a directory there. -/
theorem leads_append_singleton {root : Path.Root} {parts : List Text} :
    d.Leads ⟨root, parts ++ [name]⟩ ↔ d.Leads ⟨root, parts⟩ ∧
      (name ≠ upward → byteLength name ≤ maxNameLength ∧
        d.look (d.place ⟨root, parts⟩ ++ [name]) = some .directory) := by
  constructor
  · intro h
    have hlook := h.look
    obtain ⟨t, ht, _⟩ := h
    rw [walk_append_singleton, bind_eq_ok] at ht
    obtain ⟨s, hs, he⟩ := ht
    obtain ⟨held, hheld, hentered⟩ := enter_eq_ok_iff.mp he
    refine ⟨⟨s, hs, by rw [hheld]; rfl⟩, ?_⟩
    intro hup
    obtain ⟨n, _, hshort, _⟩ := hentered.resolve_left fun h => hup h.1
    rw [place_append_singleton, if_neg hup] at hlook
    exact ⟨hshort, hlook⟩
  · rintro ⟨⟨s, hs, hdir⟩, hname⟩
    have hfollows := follows_walk hs
    unfold Leads
    rw [walk_append_singleton, hs]
    show ∃ t, d.enter s name = .ok t ∧ _
    by_cases hup : name = upward
    · cases hheld : d.nodeOn s with
      | file content => exact absurd hdir (by simp [hheld, DiskNode.isDirectory])
      | directory held =>
        have henter := enter_eq_ok_iff.mpr ⟨held, hheld, .inl ⟨hup, rfl⟩⟩
        exact ⟨s.tail, henter, isDirectory_tail hfollows hdir⟩
    · obtain ⟨hshort, hlook⟩ := hname hup
      rw [← location_walk hs, look_eq_directory] at hlook
      obtain ⟨held, hheld⟩ := hlook
      exact ⟨_, enter_entry hfollows hup hshort hheld, rfl⟩

theorem leads_iff_route {p : Path} : d.Leads p ↔ d.Leads ⟨.single, d.route p⟩ := by
  unfold Leads
  rw [walk_eq_route, walk_eq_route]
  exact Iff.rfl

theorem leads_root : d.Leads ⟨.single, []⟩ ↔ d.look [] = some .directory := by
  rw [look, DiskNode.look_nil, Option.some_inj, DiskNode.standing_eq_directory]
  constructor
  · rintro ⟨t, ht, hdir⟩
    obtain rfl : [] = t := Except.ok.inj ht
    exact hdir
  · exact fun h => ⟨[], rfl, h⟩

theorem leads_iff_passed (parts : List Text) : d.Leads ⟨.single, parts⟩ ↔
    (∀ part ∈ parts, part ≠ upward → byteLength part ≤ maxNameLength) ∧
      ∀ passed, passed <+: parts → d.look (collapse passed) = some .directory := by
  induction parts using List.reverseRecOn with
  | nil =>
    rw [leads_root]
    simp [collapse]
  | append_singleton parts name ih =>
    rw [List.forall_mem_append, List.forall_mem_singleton]
    constructor
    · intro h
      obtain ⟨hparts, hname⟩ := leads_append_singleton.mp h
      obtain ⟨hshort, hdir⟩ := ih.mp hparts
      refine ⟨⟨hshort, fun hup => (hname hup).1⟩, ?_⟩
      intro passed hpassed
      rcases List.prefix_concat_iff.mp hpassed with rfl | hpassed
      · exact h.look
      · exact hdir passed hpassed
    · rintro ⟨hshort, hdir⟩
      have habove : ∀ passed, passed <+: parts → d.look (collapse passed) = some .directory :=
        fun passed h => hdir passed (h.trans (List.prefix_append ..))
      refine leads_append_singleton.mpr ⟨ih.mpr ⟨hshort.1, habove⟩, ?_⟩
      intro hup
      have hlook := hdir _ List.prefix_rfl
      rw [collapse_append_singleton, if_neg hup] at hlook
      exact ⟨hshort.2 hup, hlook⟩

/-- A path leads to a directory exactly if only directories are passed on its way, under names that
are short enough. -/
theorem leads_iff {p : Path} : d.Leads p ↔
    (∀ part ∈ d.route p, part ≠ upward → byteLength part ≤ maxNameLength) ∧
      ∀ l, d.OnWay p l → d.look l = some .directory := by
  rw [leads_iff_route, leads_iff_passed]
  constructor
  · rintro ⟨hshort, hdir⟩
    refine ⟨hshort, ?_⟩
    rintro l ⟨passed, hpassed, rfl⟩
    exact hdir passed hpassed
  · rintro ⟨hshort, hdir⟩
    exact ⟨hshort, fun passed h => hdir _ ⟨passed, h, rfl⟩⟩

/-- What a path leads to is also reached without parts that lead upward. -/
theorem Leads.absolute {p : Path} (wf : d.WellFormed) (h : d.Leads p) :
    d.Leads (d.absolute p) := by
  have hlook := h.look
  rw [leads_iff]
  constructor
  · intro part hpart _
    rw [route_absolute] at hpart
    exact (wf.entryName_of_mem (by simp [hlook]) hpart).short
  · rintro l ⟨passed, ⟨more, hmore⟩, rfl⟩
    rw [route_absolute] at hmore
    have hpassed : upward ∉ passed := by
      intro hup
      apply upward_notMem_collapse (d.route p)
      rw [← Disk.place, ← hmore]
      exact List.mem_append_left _ hup
    rw [collapse_of_notMem hpassed]
    rw [← hmore] at hlook
    cases more with
    | nil => simpa using hlook
    | cons name more => exact look_above (m := name :: more) (by simp [hlook]) (by simp)

/-! ### Disks that keep what stands -/

/-- Directories stay directories and files stay files, though their content may change. -/
structure Keeps (d d' : Disk) : Prop where
  workingDirectory : d'.workingDirectory = d.workingDirectory
  directory : ∀ l, d.look l = some .directory → d'.look l = some .directory
  file : ∀ l content, d.look l = some (.file content) →
    ∃ content', d'.look l = some (.file content')

theorem Keeps.refl (d : Disk) : Keeps d d :=
  ⟨rfl, fun _ h => h, fun _ content h => ⟨content, h⟩⟩

theorem Keeps.trans {d'' : Disk} (h : Keeps d d') (h' : Keeps d' d'') : Keeps d d'' where
  workingDirectory := h'.workingDirectory.trans h.workingDirectory
  directory l hl := h'.directory l (h.directory l hl)
  file l content hl := by
    obtain ⟨content', hl'⟩ := h.file l content hl
    exact h'.file l content' hl'

theorem Keeps.route (h : Keeps d d') (p : Path) : d'.route p = d.route p := by
  rw [Disk.route, Disk.route, h.workingDirectory]

theorem Keeps.place (h : Keeps d d') (p : Path) : d'.place p = d.place p := by
  rw [Disk.place, Disk.place, h.route]

theorem Keeps.absolute (h : Keeps d d') (p : Path) : d'.absolute p = d.absolute p := by
  unfold Disk.absolute
  rw [h.workingDirectory]

/-- A path goes on leading to a directory. -/
theorem Keeps.leads (h : Keeps d d') {p : Path} (hp : d.Leads p) : d'.Leads p := by
  rw [leads_iff] at hp ⊢
  rw [h.route]
  refine ⟨hp.1, ?_⟩
  rintro l ⟨passed, hpassed, rfl⟩
  rw [h.route] at hpassed
  exact h.directory _ (hp.2 _ ⟨passed, hpassed, rfl⟩)

/-- A file put where no directory stands disturbs nothing else. -/
theorem keeps_put_file (content : Bytes) (hl : d.look l = some .directory)
    (hold : d.look (l ++ [name]) ≠ some .directory) :
    Keeps d (d.put (l ++ [name]) (.file content)) := by
  have hlook (l' : Location) : (d.put (l ++ [name]) (.file content)).look l' =
      if l' = l ++ [name] then some (.file content) else d.look l' :=
    look_put hl rfl hold l'
  constructor
  · rfl
  · intro l' hl'
    rw [hlook, if_neg, hl']
    rintro rfl
    exact hold hl'
  · intro l' content' hl'
    rw [hlook]
    split_ifs
    · exact ⟨content, rfl⟩
    · exact ⟨content', hl'⟩

/-! ### Spots -/

theorem spot_append_singleton (root : Path.Root) (parts : List Text) (name : Text) :
    d.spot ⟨root, parts ++ [name]⟩ = (do
      checkLength ⟨root, parts ++ [name]⟩
      let t ← d.walk ⟨root, parts⟩
      if !(d.nodeOn t).isDirectory then throw .notDirectory
      if name = upward then return .unnamed
      if maxNameLength < byteLength name then throw .nameTooLong
      return .named (t.location ++ [name])) := by
  simp only [spot, Path.parent, List.getLast?_concat, List.dropLast_concat]

/-- A name can be used in the directory that the path leads to, as far as it is short enough. -/
theorem spot_eq_named {root : Path.Root} {parts : List Text} :
    d.spot ⟨root, parts ++ [name]⟩ = .ok (.named l) ↔
      byteLength (Path.toText ⟨root, parts ++ [name]⟩) ≤ maxPathLength ∧
      d.Leads ⟨root, parts⟩ ∧ name ≠ upward ∧ byteLength name ≤ maxNameLength ∧
      l = d.place ⟨root, parts⟩ ++ [name] := by
  rw [spot_append_singleton, bind_eq_ok, ← checkLength_eq_ok]
  constructor
  · rintro ⟨_, hlength, h⟩
    rw [bind_eq_ok] at h
    obtain ⟨t, ht, h⟩ := h
    by_cases hdir : (d.nodeOn t).isDirectory = true
    · by_cases hup : name = upward
      · simp [hdir, hup, pure, Except.pure] at h
      · by_cases hlong : maxNameLength < byteLength name
        · simp [hdir, hup, hlong, bind, Except.bind, throw, throwThe, MonadExceptOf.throw] at h
        · simp [hdir, hup, hlong, pure, Except.pure] at h
          exact ⟨hlength, ⟨t, ht, hdir⟩, hup, by omega, by rw [← h, location_walk ht]⟩
    · simp [hdir, bind, Except.bind, throw, throwThe, MonadExceptOf.throw] at h
  · rintro ⟨hlength, ⟨t, ht, hdir⟩, hup, hshort, rfl⟩
    refine ⟨(), hlength, ?_⟩
    rw [ht, ← location_walk ht]
    simp [hdir, hup, Nat.not_lt.mpr hshort, bind, Except.bind, pure, Except.pure]

end Phrasebook.Disk
