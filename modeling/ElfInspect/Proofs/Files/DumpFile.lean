import ElfInspect.Files.DumpFile
import ElfInspect.Proofs.Alike
import ElfInspect.Proofs.Dump.Account

/-!
# Dumps of files

A file has a dump if it can be read, is not larger than the limit and is not rejected.  The log is
told of its decoding, and decides nothing.
-/

namespace ElfInspect

namespace Dump

open Logged

/-! ## Reading a file -/

variable {volume : Volume} {limit : Int} {path : Path} {image : Image}

theorem readFile_eq_ok_iff :
    readFile volume (some limit) path = .ok image ↔
      volume.read path = .ok image ∧ image.size ≤ limit := by
  rw [readFile, Volume.read]
  cases volume.find path with
  | error fault => simp [bind, Except.bind]
  | ok node =>
      by_cases large : limit < node.size
      · cases node with
        | directory => simp [bind, Except.bind, large]
        | file content =>
            simp only [bind, Except.bind, if_pos large, Except.ok.injEq, reduceCtorEq, false_iff]
            rintro ⟨rfl, small⟩
            exact absurd small (by simpa [Node.size] using large)
      · cases node with
        | directory => simp [bind, Except.bind, large]
        | file content =>
            simp only [bind, Except.bind, if_neg large, Except.ok.injEq]
            constructor
            · rintro rfl
              exact ⟨rfl, by simpa [Node.size] using large⟩
            · exact And.left

theorem readFile_congr {other : Volume} (same : other.find path = volume.find path)
    (limit : Option Int) : readFile other limit path = readFile volume limit path := by
  rw [readFile, readFile, same]

/-- A limit that is a number is not refused as such. -/
theorem readFile_ne_limitNotNumber :
    readFile volume (some limit) path ≠ .error .limitNotNumber := by
  rw [readFile]
  cases volume.find path with
  | error fault => simp
  | ok node =>
      by_cases large : limit < node.size
      · simp [large]
      · cases node <;> simp [large]

/-! ## The dump of a file -/

/-- The dump of a file, without a log. -/
def ofFile (volume : Volume) (limit : Option Int) (name : String) : Except DumpFault Dump :=
  (decodeFile volume limit name quietLog).1

/-- The entries that a log is given about a file, by what came of reading it. -/
def fileEntries (path : Path) (log : Log) : Except DumpFault Image → List LogEntry
  | .error _ => []
  | .ok image =>
      startEntry (label path.text) log.operation :: outcomeAccount (decode image path.text) ++
        [completionEntry (label path.text) log.elapsed log.operation]

@[simp]
theorem fileEntries_write (path : Path) (log : Log) (entries : List LogEntry)
    (content : Except DumpFault Image) :
    fileEntries path (log.write entries) content = fileEntries path log content := by
  cases content <;> rfl

/-- Whatever the log, a file that can be read gives its dump or its rejection. -/
theorem decodeFile_eq_bind (volume : Volume) (limit : Option Int) (name : String) (log : Log) :
    decodeFile volume limit name log =
      (readFile volume limit (Path.ofText name) >>= fun image =>
          (decode image (Path.ofText name).text).mapError .rejected,
        log.write
          (fileEntries (Path.ofText name) log (readFile volume limit (Path.ofText name)))) := by
  unfold decodeFile
  -- Nothing depends on what the path is, and a variable keeps it from being evaluated.
  generalize Path.ofText name = path
  cases readFile volume limit path with
  | error fault =>
      rw [fileEntries, Log.write_nil]
      rfl
  | ok image =>
      simp only [bind, StateT.bind, Except.bind, fileEntries, decodeLogged_eq]
      cases decode image path.text <;> rfl

theorem ofFile_eq (volume : Volume) (limit : Option Int) (name : String) :
    ofFile volume limit name =
      readFile volume limit (Path.ofText name) >>= fun image =>
        (decode image (Path.ofText name).text).mapError .rejected := by
  rw [ofFile, decodeFile_eq_bind]

/-- Whatever the log, a file gives its dump or the reason for having none, and tells the entries
about it. -/
theorem decodeFile_eq (volume : Volume) (limit : Option Int) (name : String) (log : Log) :
    decodeFile volume limit name log =
      (ofFile volume limit name,
        log.write
          (fileEntries (Path.ofText name) log (readFile volume limit (Path.ofText name)))) := by
  rw [decodeFile_eq_bind, ofFile_eq]

theorem ofFile_eq_ok_iff {name : String} {dump : Dump} :
    ofFile volume (some limit) name = .ok dump ↔
      ∃ image, volume.read (Path.ofText name) = .ok image ∧ image.size ≤ limit ∧
        decode image (Path.ofText name).text = .ok dump := by
  rw [ofFile_eq]
  generalize Path.ofText name = path
  have rejected_iff (image : Image) :
      (decode image path.text).mapError DumpFault.rejected = .ok dump ↔
        decode image path.text = .ok dump := by
    cases decode image path.text <;> simp [Except.mapError]
  constructor
  · intro decoded
    obtain ⟨image, read, decoded⟩ := exists_of_bind_eq_ok decoded
    obtain ⟨found, small⟩ := readFile_eq_ok_iff.mp read
    exact ⟨image, found, small, (rejected_iff image).mp decoded⟩
  · rintro ⟨image, found, small, decoded⟩
    rw [readFile_eq_ok_iff.mpr ⟨found, small⟩]
    simp only [bind, Except.bind]
    exact (rejected_iff image).mpr decoded

/-- A file has no dump exactly if it cannot be read, is larger than the limit or is rejected. -/
theorem exists_ofFile_eq_error_iff {name : String} :
    (∃ fault, ofFile volume (some limit) name = .error fault) ↔
      (∃ fault, volume.read (Path.ofText name) = .error fault) ∨
        ∃ image, volume.read (Path.ofText name) = .ok image ∧
          (limit < image.size ∨
            ∃ rejection, decode image (Path.ofText name).text = .error rejection) := by
  have error_iff : (∃ fault, ofFile volume (some limit) name = .error fault) ↔
      ¬ ∃ dump, ofFile volume (some limit) name = .ok dump := by
    cases ofFile volume (some limit) name <;> simp
  simp only [error_iff, ofFile_eq_ok_iff]
  generalize Path.ofText name = path
  cases volume.read path with
  | error fault => simp
  | ok image =>
      cases decoded : decode image path.text <;> simp [decoded]

theorem ofFile_ne_limitNotNumber {name : String} :
    ofFile volume (some limit) name ≠ .error .limitNotNumber := by
  rw [ofFile_eq]
  generalize Path.ofText name = path
  have number := @readFile_ne_limitNotNumber volume limit path
  cases read : readFile volume (some limit) path with
  | error fault =>
      rintro ⟨⟩
      exact number read
  | ok image =>
      simp only [bind, Except.bind]
      cases decode image path.text <;> simp [Except.mapError]

/-! ## Files that a path does not lead to -/

/-- The dump of a file and what is told of it are the same wherever its path leads to the same. -/
theorem decodeFile_congr {other : Volume} {name : String}
    (same : other.find (Path.ofText name) = volume.find (Path.ofText name)) (limit : Option Int)
    (log : Log) : decodeFile other limit name log = decodeFile volume limit name log := by
  rw [decodeFile_eq, decodeFile_eq, ofFile_eq, ofFile_eq, readFile_congr same]

end Dump
end ElfInspect
