import Mathlib
import Phrasebook.Proofs.Phrases
import Phrasebook.Proofs.Utf8

/-! What a phrase file may hold. The loader accepts exactly the files that are small enough, are
UTF-8 and hold one flat object of texts with distinct keys; any other file is refused by name. -/

namespace Phrasebook.Phrases

/-- The bytes of a file that holds the entries, in this order. -/
def IsContent (maxSize : Int) (bytes : Bytes) (entries : Phrases) : Prop :=
  bytes.length ≤ maxSize ∧ ∃ document, bytes = Utf8.encodeChars document ∧
    Json.IsFlatObject document entries ∧ (entries.map (·.1)).Nodup

theorem ofBytes_eq_ok {maxSize : Int} {bytes : Bytes} {entries : Phrases} :
    ofBytes maxSize bytes = .ok entries ↔ IsContent maxSize bytes entries := by
  simp only [ofBytes_ok_iff, IsContent, Utf8.decode_eq_ok, Json.read_eq_object]

/-- A readable file is accepted exactly if it holds entries, and then these are what it gives. Any
other file is invalid, and the refusal names it. -/
theorem fileLoader_accepts_content {maxSize : Int} {d : Disk} {p : Path} {bytes : Bytes}
    (hunbarred : Disk.hasBarred p = false) (h : d.read p = .ok bytes) :
    (∀ entries, fileLoader maxSize d p = .ok entries ↔ IsContent maxSize bytes entries) ∧
      ((¬∃ entries, IsContent maxSize bytes entries) → ∃ reason,
        fileLoader maxSize d p = .error (.failure (.invalidFile p.toText reason))) := by
  have haccepts (entries : Phrases) :
      fileLoader maxSize d p = .ok entries ↔ IsContent maxSize bytes entries :=
    (fileLoader_ok_iff hunbarred h).trans ofBytes_eq_ok
  refine ⟨haccepts, fun hnone => ?_⟩
  cases hbytes : ofBytes maxSize bytes with
  | ok entries => exact absurd ⟨entries, ofBytes_eq_ok.mp hbytes⟩ hnone
  | error reason => exact ⟨reason, fileLoader_refuses hunbarred h hbytes⟩

/-! ### A file with an escaped pair -/

def smileKey : List Char := ['"', 's', '"']

def smileValue : List Char :=
  ['"', '\\', 'u', 'd', '8', '3', 'd', '\\', 'u', 'd', 'e', '0', '0', '"']

def smileDocument : List Char :=
  ['\x7b'] ++ smileKey ++ [':', ' '] ++ smileValue ++ ['\x7d', '\n']

def smileEntries : Phrases :=
  [("s", [.ofNat 0x1F600])]

theorem isFlatObject_smile : Json.IsFlatObject smileDocument smileEntries := by
  have hkey : Json.Literal smileKey "s" :=
    ⟨['s'], .plain (by decide) (by decide) (by decide) .nil, rfl⟩
  have hhigh : Json.UnitEscape ['\\', 'u', 'd', '8', '3', 'd'] 0xD83D :=
    .mk (w := 13) (x := 8) (y := 3) (z := 13) (by decide) (by decide) (by decide) (by decide)
  have hlow : Json.UnitEscape ['\\', 'u', 'd', 'e', '0', '0'] 0xDE00 :=
    .mk (w := 13) (x := 14) (y := 0) (z := 0) (by decide) (by decide) (by decide) (by decide)
  have hpair := Json.Body.pair hhigh hlow (by simp [Json.IsHigh]) (by simp [Json.IsLow]) .nil
  rw [show 0x10000 + (0xD83D - 0xD800) * 0x400 + (0xDE00 - 0xDC00) = 0x1F600 by decide] at hpair
  have hvalue : Json.Literal smileValue [.ofNat 0x1F600] := ⟨_, hpair, rfl⟩
  have hblank : Json.IsBlank [' '] := by simp [Json.IsBlank]
  have hend : Json.Spaced [] ['\n'] := .nil (by simp [Json.IsBlank])
  refine ⟨_, .cons (.mk hkey hvalue) .nil, ?_⟩
  exact .cons_tight (.cons_tight (.cons_tight (.cons hblank (.cons_tight hend))))

def smilePath : Path :=
  ⟨.relative, ["en.json"]⟩

def smileDisk : Disk where
  root := .directory [("en.json", .file (Utf8.encodeChars smileDocument))]
  workingDirectory := []

/-- A file with an escaped surrogate pair is accepted, but not as one that is too large. -/
theorem fileLoader_smile :
    Disk.hasBarred smilePath = false ∧
      smileDisk.read smilePath = .ok (Utf8.encodeChars smileDocument) ∧
      fileLoader maxFileSize smileDisk smilePath = .ok smileEntries ∧
      ∃ reason, fileLoader 3 smileDisk smilePath =
        .error (.failure (.invalidFile smilePath.toText reason)) := by
  have hunbarred : Disk.hasBarred smilePath = false := by decide
  have hread : smileDisk.read smilePath = .ok (Utf8.encodeChars smileDocument) := rfl
  have hlength : (Utf8.encodeChars smileDocument).length = 22 := by decide +kernel
  refine ⟨hunbarred, hread, ?_, ?_⟩
  · refine ((fileLoader_accepts_content hunbarred hread).1 _).mpr
      ⟨?_, _, rfl, isFlatObject_smile, ?_⟩
    · rw [hlength]
      decide
    · decide
  · refine (fileLoader_accepts_content hunbarred hread).2 ?_
    rintro ⟨entries, hsize, -⟩
    rw [hlength] at hsize
    exact absurd hsize (by decide)

end Phrasebook.Phrases
