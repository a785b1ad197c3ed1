import Mathlib
import Phrasebook.Disk.Directories
import Phrasebook.Proofs.Disk.Lengths
import Phrasebook.Proofs.Disk.Places

/-! Making directories. Whether or not it succeeds, nothing comes of it but directories where
nothing stood on the way of the path; and it succeeds exactly where no file stands on the way and
all stays within the limits. -/

namespace Phrasebook.Disk

variable {d d' : Disk} {l : Location} {root : Path.Root} {parts : List Text} {name : Text}

theorem isDirectory_eq_true {p : Path} : d.isDirectory p = .ok true ↔
    hasBarred p = false ∧ byteLength p.toText ≤ maxPathLength ∧ d.Leads p := by
  rw [isDirectory, stands_eq_true_iff]
  constructor
  · rintro ⟨hunbarred, n, hfind, hdir⟩
    obtain ⟨hlength, t, ht, rfl⟩ := find_eq_ok_iff.mp hfind
    exact ⟨hunbarred, hlength, t, ht, hdir⟩
  · rintro ⟨hunbarred, hlength, t, ht, hdir⟩
    exact ⟨hunbarred, _, find_eq_ok_iff.mpr ⟨hlength, t, ht, rfl⟩, hdir⟩

/-! ### One directory -/

/-- A directory is made under a name that is not in use. -/
theorem makeDirectory_eq_ok : d.makeDirectory ⟨root, parts ++ [name]⟩ = .ok d' ↔
    d.spot ⟨root, parts ++ [name]⟩ = .ok (.named (d.place ⟨root, parts⟩ ++ [name])) ∧
      d.look (d.place ⟨root, parts⟩ ++ [name]) = none ∧
      d' = d.put (d.place ⟨root, parts⟩ ++ [name]) (.directory []) := by
  rw [makeDirectory, bind_eq_ok]
  constructor
  · rintro ⟨s, hs, h⟩
    cases s with
    | unnamed => exact absurd h (by simp [throw, throwThe, MonadExceptOf.throw])
    | named l =>
      have hl : l = d.place ⟨root, parts⟩ ++ [name] := (spot_eq_named.mp hs).2.2.2.2
      subst hl
      dsimp only at h
      split at h
      next => exact absurd h (by simp [throw, throwThe, MonadExceptOf.throw])
      next hnone => exact ⟨hs, look_eq_none.mpr hnone, (Except.ok.inj h).symm⟩
  · rintro ⟨hs, hnone, rfl⟩
    refine ⟨_, hs, ?_⟩
    dsimp only
    rw [look_eq_none.mp hnone]
    rfl

theorem not_makeDirectory_nil : d.makeDirectory ⟨root, []⟩ ≠ .ok d' := by
  rw [ne_eq, makeDirectory, bind_eq_ok]
  rintro ⟨s, hs, h⟩
  have hunnamed : s = .unnamed := by
    rw [spot, bind_eq_ok] at hs
    obtain ⟨_, _, hs⟩ := hs
    exact (Except.ok.inj hs).symm
  subst hunnamed
  exact absurd h (by simp [throw, throwThe, MonadExceptOf.throw])

/-- A disk with all that stood on `d` and with directories where some were missing on the way of a
path. -/
structure Extends (d : Disk) (p : Path) (d' : Disk) : Prop where
  wellFormed : d'.WellFormed
  workingDirectory : d'.workingDirectory = d.workingDirectory
  look : ∀ l, d'.look l = d.look l ∨
    d.OnWay p l ∧ d.look l = none ∧ d'.look l = some .directory

variable {p : Path}

theorem Extends.refl (wf : d.WellFormed) (p : Path) : Extends d p d :=
  ⟨wf, rfl, fun _ => .inl rfl⟩

theorem Extends.keeps (h : Extends d p d') : Keeps d d' where
  workingDirectory := h.workingDirectory
  directory l hl := by
    rcases h.look l with heq | ⟨_, _, hlook⟩
    · exact heq.trans hl
    · exact hlook
  file l content hl := by
    rcases h.look l with heq | ⟨_, hnone, _⟩
    · exact ⟨content, heq.trans hl⟩
    · exact absurd hl (by simp [hnone])

theorem Extends.trans {d'' : Disk} (h : Extends d p d') (h' : Extends d' p d'') :
    Extends d p d'' where
  wellFormed := h'.wellFormed
  workingDirectory := h'.workingDirectory.trans h.workingDirectory
  look l := by
    rcases h'.look l with heq' | ⟨⟨passed, hpassed, hl⟩, hnone, hlook⟩
    · rw [heq']
      exact h.look l
    · rcases h.look l with heq | ⟨_, _, hdir⟩
      · rw [h.keeps.route] at hpassed
        exact .inr ⟨⟨passed, hpassed, hl⟩, heq.symm.trans hnone, hlook⟩
      · exact absurd hnone (by simp [hdir])

theorem Extends.append (h : Extends d ⟨root, parts⟩ d') (more : List Text) :
    Extends d ⟨root, parts ++ more⟩ d' where
  wellFormed := h.wellFormed
  workingDirectory := h.workingDirectory
  look l := by
    rcases h.look l with heq | ⟨hway, hrest⟩
    · exact .inl heq
    · exact .inr ⟨hway.append more, hrest⟩

/-- No file changes. -/
theorem Extends.look_file (h : Extends d p d') (l : Location) (content : Bytes) :
    d'.look l = some (.file content) ↔ d.look l = some (.file content) := by
  rcases h.look l with heq | ⟨_, hnone, hdir⟩
  · rw [heq]
  · simp [hnone, hdir]

theorem extends_of_makeDirectory (wf : d.WellFormed)
    (normal : Path.IsNormal ⟨root, parts ++ [name]⟩)
    (h : d.makeDirectory ⟨root, parts ++ [name]⟩ = .ok d') :
    Extends d ⟨root, parts ++ [name]⟩ d' ∧ d'.Leads ⟨root, parts ++ [name]⟩ := by
  obtain ⟨hspot, hnone, rfl⟩ := makeDirectory_eq_ok.mp h
  obtain ⟨_, hleads, hup, hshort, _⟩ := spot_eq_named.mp hspot
  have hlook (l : Location) : (d.put (d.place ⟨root, parts⟩ ++ [name]) (.directory [])).look l =
      if l = d.place ⟨root, parts⟩ ++ [name] then some .directory else d.look l :=
    look_put hleads.look rfl (by simp [hnone]) l
  have hextends : Extends d ⟨root, parts ++ [name]⟩
      (d.put (d.place ⟨root, parts⟩ ++ [name]) (.directory [])) := by
    refine ⟨wf.put DiskNode.proper_nil (normal.entryName hup hshort) hleads.look, rfl, ?_⟩
    intro l
    rw [hlook]
    split_ifs with heq
    · refine .inr ⟨?_, by rw [heq, hnone], rfl⟩
      have hplace := onWay_place d ⟨root, parts ++ [name]⟩
      rw [place_append_singleton, if_neg hup] at hplace
      exact heq ▸ hplace
    · exact .inl rfl
  refine ⟨hextends, leads_append_singleton.mpr ⟨hextends.keeps.leads hleads, fun _ => ⟨hshort, ?_⟩⟩⟩
  rw [hextends.keeps.place, hlook, if_pos rfl]

/-- Making a directory comes down to nothing where one stands. -/
theorem ensureDirectory_of_leads (hunbarred : hasBarred p = false)
    (hlength : byteLength p.toText ≤ maxPathLength) (h : d.Leads p) :
    d.ensureDirectory p = .ok d := by
  unfold ensureDirectory
  cases hmake : d.makeDirectory p with
  | error cause =>
    rw [isDirectory_eq_true.mpr ⟨hunbarred, hlength, h⟩]
    rfl
  | ok d' =>
    obtain ⟨root, parts⟩ := p
    induction parts using List.reverseRecOn with
    | nil => exact absurd hmake not_makeDirectory_nil
    | append_singleton parts name _ =>
      obtain ⟨hspot, hnone, _⟩ := makeDirectory_eq_ok.mp hmake
      have hup := (spot_eq_named.mp hspot).2.2.1
      have hdir := ((leads_append_singleton.mp h).2 hup).2
      exact absurd hnone (by simp [hdir])

theorem ensureDirectory_cases (h : d.ensureDirectory p = .ok d') :
    d.makeDirectory p = .ok d' ∨ d' = d ∧ d.isDirectory p = .ok true := by
  unfold ensureDirectory at h
  split at h
  next made hmake =>
    obtain rfl : made = d' := Except.ok.inj h
    exact .inl hmake
  next cause hmake =>
    rw [bind_eq_ok] at h
    obtain ⟨b, hb, h⟩ := h
    cases b with
    | true => exact .inr ⟨(Except.ok.inj h).symm, hb⟩
    | false => exact absurd h (by simp [throw, throwThe, MonadExceptOf.throw])

theorem extends_of_ensureDirectory (wf : d.WellFormed) (normal : p.IsNormal)
    (h : d.ensureDirectory p = .ok d') :
    Extends d p d' ∧ d'.Leads p ∧ byteLength p.toText ≤ maxPathLength := by
  rcases ensureDirectory_cases h with hmake | ⟨rfl, hdir⟩
  · obtain ⟨root, parts⟩ := p
    induction parts using List.reverseRecOn with
    | nil => exact absurd hmake not_makeDirectory_nil
    | append_singleton parts name _ =>
      obtain ⟨hextends, hleads⟩ := extends_of_makeDirectory wf normal hmake
      exact ⟨hextends, hleads, (spot_eq_named.mp (makeDirectory_eq_ok.mp hmake).1).1⟩
  · obtain ⟨_, hlength, hleads⟩ := isDirectory_eq_true.mp hdir
    exact ⟨.refl wf p, hleads, hlength⟩

/-! ### A directory and those above it -/

/-- Whatever comes of it, only directories on the way are made; in the end the path leads to one. -/
theorem extends_of_ensureParts (root : Path.Root) (wf : d.WellFormed)
    (normal : Path.IsNormal ⟨root, parts⟩) (room : Nat) :
    Extends d ⟨root, parts⟩ (ensureParts root room d parts).1 ∧
      ((ensureParts root room d parts).2 = .ok () →
        (ensureParts root room d parts).1.Leads ⟨root, parts⟩ ∧
          byteLength (Path.toText ⟨root, parts⟩) ≤ maxPathLength) := by
  induction room generalizing parts with
  | zero => exact ⟨.refl wf _, fun h => absurd h (by simp [ensureParts])⟩
  | succ room ih =>
    rw [ensureParts]
    split
    next d₁ h₁ =>
      obtain ⟨hextends, hend⟩ := extends_of_ensureDirectory wf normal h₁
      exact ⟨hextends, fun _ => hend⟩
    next e he =>
      split_ifs with hmissing
      · obtain ⟨above, name, rfl⟩ :=
          (List.eq_nil_or_concat' parts).resolve_left hmissing.2
        rw [List.dropLast_concat]
        have habove := ih normal.above
        split
        next d₁ t h₁ =>
          rw [h₁] at habove
          exact ⟨habove.1.append [name], fun h => absurd h (by simp)⟩
        next d₁ h₁ =>
          rw [h₁] at habove
          have hfirst : Extends d ⟨root, above ++ [name]⟩ d₁ := habove.1.append [name]
          split
          next d₂ h₂ =>
            obtain ⟨hextends, hend⟩ := extends_of_ensureDirectory hfirst.wellFormed normal h₂
            exact ⟨hfirst.trans hextends, fun _ => hend⟩
          next => exact ⟨hfirst, fun h => absurd h (by simp)⟩
      · exact ⟨.refl wf _, fun h => absurd h (by simp)⟩

/-! ### When a directory can be made -/

/-- A path within the limits with no file on its way. -/
structure Unobstructed (d : Disk) (p : Path) : Prop where
  length : byteLength p.toText ≤ maxPathLength
  short : ∀ part ∈ d.route p, part ≠ upward → byteLength part ≤ maxNameLength
  clear : ∀ l content, d.OnWay p l → d.look l ≠ some (.file content)

/-- A path where a directory can be: it is unobstructed, and from some directory on the way no more
parts are missing than may be climbed. -/
structure CanHold (d : Disk) (p : Path) : Prop extends Unobstructed d p where
  climb : ∃ standing missing, p.parts = standing ++ missing ∧ missing.length ≤ maxClimb ∧
    d.Leads ⟨p.root, standing⟩

theorem Unobstructed.above (h : Unobstructed d ⟨root, parts ++ [name]⟩)
    (normal : Path.IsNormal ⟨root, parts ++ [name]⟩) : Unobstructed d ⟨root, parts⟩ where
  length := (Path.byteLength_toText_le normal).trans h.length
  short part hpart := h.short part (by rw [route_append]; exact List.mem_append_left _ hpart)
  clear l content hl := h.clear l content (hl.append [name])

theorem Unobstructed.of_extends {q : Path} (h : Unobstructed d p) (hd : Extends d q d') :
    Unobstructed d' p where
  length := h.length
  short := hd.keeps.route p ▸ h.short
  clear l content hl := by
    rintro hfile
    obtain ⟨passed, hpassed, hl⟩ := hl
    rw [hd.keeps.route] at hpassed
    exact h.clear l content ⟨passed, hpassed, hl⟩ ((hd.look_file l content).mp hfile)

/-- With no file on the way, walking fails only where nothing stands. -/
theorem cause_of_foldlM {cause : DiskCause}
    (hshort : ∀ part ∈ parts, part ≠ upward → byteLength part ≤ maxNameLength)
    (hclear : ∀ passed content, passed <+: parts → d.look (collapse passed) ≠ some (.file content))
    (h : parts.foldlM d.enter [] = .error cause) : cause = .notFound := by
  induction parts using List.reverseRecOn generalizing cause with
  | nil => exact absurd h (by simp [pure, Except.pure])
  | append_singleton parts name ih =>
    rw [List.forall_mem_append, List.forall_mem_singleton] at hshort
    rw [List.foldlM_append] at h
    cases hfold : parts.foldlM d.enter [] with
    | error cause' =>
      rw [hfold] at h
      obtain rfl : cause' = cause := Except.error.inj h
      apply ih hshort.1 _ hfold
      exact fun passed content hp => hclear passed content (hp.trans (List.prefix_append ..))
    | ok t =>
      have hnil : d.Follows [] := trivial
      have hlook := look_of_get (get_location (hnil.foldlM hfold))
      rw [location_foldlM hfold] at hlook
      rw [hfold] at h
      change (d.enter t name >>= pure) = _ at h
      rw [bind_pure] at h
      obtain ⟨content, hnode⟩ | ⟨hup, hlong⟩ | hcause := refused_of_enter h
      · rw [hnode] at hlook
        exact absurd hlook (hclear _ _ (List.prefix_append ..))
      · exact absurd (hshort.2 hup) (Nat.not_le.mpr hlong)
      · exact hcause

/-- Where the directory above is missing, this is the cause. -/
theorem ensureDirectory_of_missing (h : Unobstructed d ⟨root, parts ++ [name]⟩)
    (hmissing : ¬d.Leads ⟨root, parts⟩) :
    ∃ e, d.ensureDirectory ⟨root, parts ++ [name]⟩ = .error e ∧ e.cause = .notFound := by
  have hwalk : d.walk ⟨root, parts⟩ = .error .notFound := by
    cases hwalk : d.walk ⟨root, parts⟩ with
    | error cause =>
      rw [walk_eq_route] at hwalk
      have hroute := route_append d root parts [name]
      have hcause : cause = .notFound := by
        apply cause_of_foldlM _ _ hwalk
        · intro part hpart
          exact h.short part (by rw [hroute]; exact List.mem_append_left _ hpart)
        · intro passed content hpassed
          apply h.clear
          exact ⟨passed, by rw [hroute]; exact hpassed.trans (List.prefix_append ..), rfl⟩
      rw [hcause]
    | ok t =>
      exfalso
      cases hnode : d.nodeOn t with
      | directory held => exact hmissing ⟨t, hwalk, by rw [hnode]; rfl⟩
      | file content =>
        have hlook := look_of_get (get_place hwalk)
        rw [hnode] at hlook
        exact h.clear _ _ ((onWay_place d _).append [name]) hlook
  have hmake : d.makeDirectory ⟨root, parts ++ [name]⟩ = .error .notFound := by
    rw [makeDirectory, spot_append_singleton, checkLength_eq_ok.mpr h.length, hwalk]
    rfl
  have hfind : d.find ⟨root, parts ++ [name]⟩ = .error .notFound := by
    rw [find, locate, checkLength_eq_ok.mpr h.length, walk_append_singleton, hwalk]
    rfl
  have hdir : d.isDirectory ⟨root, parts ++ [name]⟩ = .ok false := by
    rw [isDirectory, stands, hfind]
    simp
  refine ⟨⟨.notFound, Path.toText ⟨root, parts ++ [name]⟩, none⟩, ?_, rfl⟩
  rw [ensureDirectory, hmake, hdir]
  rfl

/-- Where the directory above stands, the directory can be made. -/
theorem exists_ensureDirectory (normal : Path.IsNormal ⟨root, parts ++ [name]⟩)
    (h : Unobstructed d ⟨root, parts ++ [name]⟩) (habove : d.Leads ⟨root, parts⟩) :
    ∃ d', d.ensureDirectory ⟨root, parts ++ [name]⟩ = .ok d' := by
  by_cases hleads : d.Leads ⟨root, parts ++ [name]⟩
  · exact ⟨d, ensureDirectory_of_leads normal.unbarred h.length hleads⟩
  · rw [leads_append_singleton, not_and, Classical.not_imp] at hleads
    obtain ⟨hup, hdir⟩ := hleads habove
    have hshort : byteLength name ≤ maxNameLength := by
      apply h.short name _ hup
      rw [route_append]
      simp
    have hplace := onWay_place d ⟨root, parts ++ [name]⟩
    rw [place_append_singleton, if_neg hup] at hplace
    have hnone : d.look (d.place ⟨root, parts⟩ ++ [name]) = none := by
      cases hlook : d.look (d.place ⟨root, parts⟩ ++ [name]) with
      | none => rfl
      | some s =>
        cases s with
        | file content => exact absurd hlook (h.clear _ content hplace)
        | directory => exact absurd ⟨hshort, hlook⟩ hdir
    have hspot := spot_eq_named.mpr ⟨h.length, habove, hup, hshort, rfl⟩
    refine ⟨d.put (d.place ⟨root, parts⟩ ++ [name]) (.directory []), ?_⟩
    rw [ensureDirectory, makeDirectory_eq_ok.mpr ⟨hspot, hnone, rfl⟩]

theorem ensureParts_of_ensureDirectory (room : Nat) (h : d.ensureDirectory ⟨root, parts⟩ = .ok d') :
    ensureParts root (room + 1) d parts = (d', .ok ()) := by
  rw [ensureParts, h]

theorem ensureDirectories_of_leads (hunbarred : hasBarred p = false)
    (hlength : byteLength p.toText ≤ maxPathLength) (h : d.Leads p) :
    d.ensureDirectories p = (d, .ok ()) :=
  ensureParts_of_ensureDirectory _ (ensureDirectory_of_leads hunbarred hlength h)

/-- A directory can be made once those above it stand. -/
theorem ensureParts_append_singleton {room : Nat} (wf : d.WellFormed)
    (normal : Path.IsNormal ⟨root, parts ++ [name]⟩) (h : Unobstructed d ⟨root, parts ++ [name]⟩)
    (habove : d.Leads ⟨root, parts⟩ ∨ (ensureParts root room d parts).2 = .ok ()) :
    (ensureParts root (room + 1) d (parts ++ [name])).2 = .ok () := by
  by_cases hleads : d.Leads ⟨root, parts⟩
  · obtain ⟨d', hd'⟩ := exists_ensureDirectory normal h hleads
    rw [ensureParts_of_ensureDirectory _ hd']
  · have hmade := habove.resolve_left hleads
    obtain ⟨e, he, hcause⟩ := ensureDirectory_of_missing h hleads
    obtain ⟨hextends, hend⟩ := extends_of_ensureParts root wf normal.above room
    obtain ⟨d', hd'⟩ := exists_ensureDirectory normal (h.of_extends hextends) (hend hmade).1
    rw [ensureParts, he]
    dsimp only
    rw [if_pos ⟨hcause, by simp⟩, List.dropLast_concat]
    generalize ensureParts root room d parts = made at hmade hd'
    obtain ⟨d₁, outcome⟩ := made
    obtain rfl : outcome = .ok () := hmade
    dsimp only at hd' ⊢
    rw [hd']

/-- It is enough that the path is unobstructed and a directory on the way stands within reach. -/
theorem ensureParts_ok {standing missing : List Text} (wf : d.WellFormed)
    (normal : Path.IsNormal ⟨root, standing ++ missing⟩)
    (h : Unobstructed d ⟨root, standing ++ missing⟩) (hleads : d.Leads ⟨root, standing⟩)
    (room : Nat) (hroom : missing.length ≤ room + 1) :
    (ensureParts root (room + 1) d (standing ++ missing)).2 = .ok () := by
  induction missing using List.reverseRecOn generalizing room with
  | nil =>
    rw [List.append_nil] at normal h ⊢
    rw [ensureParts_of_ensureDirectory _ (ensureDirectory_of_leads normal.unbarred h.length hleads)]
  | append_singleton between name ih =>
    rw [← List.append_assoc] at normal h ⊢
    apply ensureParts_append_singleton wf normal h
    by_cases hbetween : between = []
    · left
      rwa [hbetween, List.append_nil]
    · right
      rw [List.length_append, List.length_singleton] at hroom
      have hpos := List.length_pos_of_ne_nil hbetween
      obtain ⟨less, rfl⟩ : ∃ less, room = less + 1 := ⟨room - 1, by omega⟩
      exact ih normal.above (h.above normal) less (by omega)

/-- What could be made could be climbed. -/
theorem climb_of_ensureParts {room : Nat}
    (h : (ensureParts root room d parts).2 = .ok ()) :
    ∃ standing missing, parts = standing ++ missing ∧ missing.length ≤ room ∧
      d.Leads ⟨root, standing⟩ := by
  induction room generalizing parts with
  | zero => exact absurd h (by simp [ensureParts])
  | succ room ih =>
    cases hfirst : d.ensureDirectory ⟨root, parts⟩ with
    | ok d' =>
      rcases ensureDirectory_cases hfirst with hmake | ⟨_, hdir⟩
      · rcases List.eq_nil_or_concat' parts with rfl | ⟨above, name, rfl⟩
        · exact absurd hmake not_makeDirectory_nil
        · have hspot := (makeDirectory_eq_ok.mp hmake).1
          exact ⟨above, [name], rfl, by simp, (spot_eq_named.mp hspot).2.1⟩
      · exact ⟨parts, [], by simp, by simp, (isDirectory_eq_true.mp hdir).2.2⟩
    | error e =>
      rw [ensureParts, hfirst] at h
      dsimp only at h
      split_ifs at h with hmissing
      obtain ⟨above, name, rfl⟩ := (List.eq_nil_or_concat' parts).resolve_left hmissing.2
      rw [List.dropLast_concat] at h
      have habove : (ensureParts root room d above).2 = .ok () := by
        split at h
        next => exact absurd h (by simp)
        next d₁ h₁ => rw [h₁]
      obtain ⟨standing, missing, rfl, hroom, hleads⟩ := ih habove
      exact ⟨standing, missing ++ [name], by simp, by simpa using hroom, hleads⟩

theorem extends_ensureDirectories (wf : d.WellFormed) (normal : p.IsNormal) :
    Extends d p (d.ensureDirectories p).1 :=
  (extends_of_ensureParts p.root wf normal maxClimb).1

theorem leads_ensureDirectories (wf : d.WellFormed) (normal : p.IsNormal)
    (h : (d.ensureDirectories p).2 = .ok ()) :
    (d.ensureDirectories p).1.Leads p ∧ byteLength p.toText ≤ maxPathLength :=
  (extends_of_ensureParts p.root wf normal maxClimb).2 h

/-- A directory can be made, or stands already, exactly where one can be. -/
theorem ensureDirectories_ok_iff (wf : d.WellFormed) (normal : p.IsNormal) :
    (d.ensureDirectories p).2 = .ok () ↔ d.CanHold p := by
  constructor
  · intro h
    have hkeeps := (extends_ensureDirectories wf normal).keeps
    obtain ⟨hleads, hlength⟩ := leads_ensureDirectories wf normal h
    refine ⟨⟨hlength, ?_, ?_⟩, climb_of_ensureParts h⟩
    · have hshort := (leads_iff.mp hleads).1
      rwa [hkeeps.route] at hshort
    · rintro l content ⟨passed, hpassed, hl⟩ hfile
      obtain ⟨content', hfile'⟩ := hkeeps.file l content hfile
      rw [← hkeeps.route] at hpassed
      have hdir := (leads_iff.mp hleads).2 l ⟨passed, hpassed, hl⟩
      exact absurd hfile' (by simp [hdir])
  · intro h
    obtain ⟨root, parts⟩ := p
    obtain ⟨standing, missing, hparts, hreach, hleads⟩ := h.climb
    dsimp only at hparts
    subst hparts
    exact ensureParts_ok wf normal h.toUnobstructed hleads _ hreach

theorem canHold_of_leads (wf : d.WellFormed) (normal : p.IsNormal)
    (hlength : byteLength p.toText ≤ maxPathLength) (h : d.Leads p) : d.CanHold p := by
  apply (ensureDirectories_ok_iff wf normal).mp
  rw [ensureDirectories_of_leads normal.unbarred hlength h]

/-- Then there are directories on the whole way, and everything else is as it was. -/
theorem look_ensureDirectories (wf : d.WellFormed) (normal : p.IsNormal) (h : d.CanHold p) :
    (∀ l, d.OnWay p l → (d.ensureDirectories p).1.look l = some .directory) ∧
      ∀ l, ¬d.OnWay p l → (d.ensureDirectories p).1.look l = d.look l := by
  have hextends := extends_ensureDirectories wf normal
  have hleads := (leads_ensureDirectories wf normal ((ensureDirectories_ok_iff wf normal).mpr h)).1
  constructor
  · rintro l ⟨passed, hpassed, hl⟩
    rw [← hextends.keeps.route] at hpassed
    exact (leads_iff.mp hleads).2 l ⟨passed, hpassed, hl⟩
  · intro l hl
    rcases hextends.look l with heq | ⟨hway, _⟩
    · exact heq
    · exact absurd hway hl

end Phrasebook.Disk
