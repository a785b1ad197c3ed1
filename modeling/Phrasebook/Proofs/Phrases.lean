import Mathlib
import Phrasebook.Failure.Report
import Phrasebook.Phrases
import Phrasebook.Proofs.Json.FlatObject
import Phrasebook.Proofs.Outcome

/-! What the loader of phrase files gives. A document that declares a key twice in one object is
refused, so the entries of a file never repeat a key. -/

namespace Phrasebook

namespace Phrases

theorem textsOnly_asMembers (entries : Phrases) :
    textsOnly (Json.asMembers entries) = .ok entries := by
  induction entries with
  | nil => rfl
  | cons e es ih =>
    rw [Json.asMembers] at ih
    rw [Json.asMembers, List.map_cons, textsOnly, ih]
    rfl

theorem eq_asMembers_of_textsOnly {members : List (Text × Json)} {entries : Phrases}
    (h : textsOnly members = .ok entries) : members = Json.asMembers entries := by
  induction members generalizing entries with
  | nil =>
    obtain rfl := Except.ok.inj h
    rfl
  | cons m ms ih =>
    obtain ⟨key, v⟩ := m
    cases v with
    | text t =>
      rw [textsOnly] at h
      cases hms : textsOnly ms with
      | error e => exact absurd h (by simp [hms, Except.map])
      | ok rest =>
        rw [hms] at h
        obtain rfl := Except.ok.inj h
        rw [ih hms]
        rfl
    | _ => exact absurd h (by simp [textsOnly])

/-- A value holds the entries exactly if it is the object of them. -/
theorem ofJson_eq_ok {v : Json} {entries : Phrases} :
    ofJson v = .ok entries ↔ v = .object (Json.asMembers entries) := by
  constructor
  · intro h
    unfold ofJson at h
    split at h
    next members =>
      split at h
      next entries' htexts =>
        obtain rfl := Except.ok.inj h
        rw [eq_asMembers_of_textsOnly htexts]
      next => exact absurd h (by simp)
    next => exact absurd h (by simp)
  · rintro rfl
    rw [ofJson, textsOnly_asMembers]

theorem ofBytes_ok_iff {maxSize : Int} {bytes : Bytes} {entries : Phrases} :
    ofBytes maxSize bytes = .ok entries ↔ bytes.length ≤ maxSize ∧
      ∃ document, Utf8.decode bytes = .ok document ∧
        Json.read document = .ok (.object (Json.asMembers entries)) := by
  constructor
  · intro h
    unfold ofBytes at h
    split_ifs at h with hsize
    split at h
    next => exact absurd h (by simp)
    next document hdecode =>
      split at h
      next => exact absurd h (by simp)
      next v hread =>
        rw [ofJson_eq_ok.mp h] at hread
        exact ⟨by omega, document, hdecode, hread⟩
  · rintro ⟨hsize, document, hdecode, hread⟩
    rw [ofBytes, if_neg (by omega), hdecode]
    dsimp only
    rw [hread]
    exact ofJson_eq_ok.mpr rfl

/-- The entries that the bytes of a file hold do not repeat a key. -/
theorem nodup_keys_of_ofBytes {maxSize : Int} {bytes : Bytes} {entries : Phrases}
    (h : ofBytes maxSize bytes = .ok entries) : (entries.map (·.1)).Nodup := by
  obtain ⟨_, document, _, hread⟩ := ofBytes_ok_iff.mp h
  have hkeys := Json.hasDistinctKeys_of_read hread _ rfl
  rwa [Json.map_fst_asMembers] at hkeys

section FileLoader

variable {maxSize : Int} {d : Disk} {p : Path} {bytes : Bytes}

/-- The loader of files gives what the bytes of a readable file hold. -/
theorem fileLoader_ok_iff (hunbarred : Disk.hasBarred p = false) (h : d.read p = .ok bytes)
    {entries : Phrases} :
    fileLoader maxSize d p = .ok entries ↔ ofBytes maxSize bytes = .ok entries := by
  cases hbytes : ofBytes maxSize bytes <;> simp [fileLoader, hunbarred, h, hbytes]

theorem fileLoader_refuses (hunbarred : Disk.hasBarred p = false) (h : d.read p = .ok bytes)
    {reason : Text} (hbytes : ofBytes maxSize bytes = .error reason) :
    fileLoader maxSize d p = .error (.failure (.invalidFile p.toText reason)) := by
  simp [fileLoader, hunbarred, h, hbytes]

theorem fileLoader_error (hunbarred : Disk.hasBarred p = false) (h : d.read p = .ok bytes)
    {t : Trouble} (ht : fileLoader maxSize d p = .error t) :
    ∃ f, t = .failure f ∧ f.kind = .invalidFile := by
  cases hbytes : ofBytes maxSize bytes with
  | ok entries => exact absurd ht (by simp [fileLoader, hunbarred, h, hbytes])
  | error reason =>
    rw [fileLoader_refuses hunbarred h hbytes] at ht
    exact ⟨_, (Except.error.inj ht).symm, rfl⟩

/-- What is loaded has been read from a file. -/
theorem exists_of_fileLoader {entries : Phrases} (h : fileLoader maxSize d p = .ok entries) :
    ∃ bytes, d.read p = .ok bytes ∧ ofBytes maxSize bytes = .ok entries := by
  unfold fileLoader at h
  split_ifs at h
  split at h
  next => exact absurd h (by simp)
  next bytes hread =>
    split at h
    next hbytes =>
      obtain rfl := Except.ok.inj h
      exact ⟨bytes, hread, hbytes⟩
    next => exact absurd h (by simp)

theorem nodup_keys_of_fileLoader {entries : Phrases}
    (h : fileLoader maxSize d p = .ok entries) : (entries.map (·.1)).Nodup := by
  obtain ⟨bytes, _, hbytes⟩ := exists_of_fileLoader h
  exact nodup_keys_of_ofBytes hbytes

end FileLoader

end Phrases

end Phrasebook
