import ElfInspect.Files.LogFile
import ElfInspect.Proofs.Alike

/-!
# What written files change

Writing a file changes what is found at its place, and a log file changes what is found at its place
and at those of its backups.  A path that leads neither to nor through such a place leads where it
led before.
-/

namespace ElfInspect

namespace Volume

/-! ## What is found at a place -/

variable {volume : Volume} {place found : Place} {content : Image}

theorem lookup_filter_ne {α : Type} (entries : List (Place × α)) (ne : found ≠ place) :
    (entries.filter fun entry => entry.1 ≠ place).lookup found = entries.lookup found := by
  induction entries with
  | nil => rfl
  | cons entry rest induction =>
      obtain ⟨head, item⟩ := entry
      by_cases removed : head = place
      · have other : (found == head) = false := beq_eq_false_iff_ne.mpr (removed ▸ ne)
        rw [List.filter_cons_of_neg (by simpa using removed), induction,
          List.lookup_cons, other]
      · rw [List.filter_cons_of_pos (by simpa using removed), List.lookup_cons, List.lookup_cons,
          induction]

@[simp]
theorem node?_putFile_self (volume : Volume) (place : Place) (content : Image) :
    (volume.putFile place content).node? place = some (.file content) := by
  simp [node?, putFile]

theorem node?_putFile_of_ne (ne : found ≠ place) :
    (volume.putFile place content).node? found = volume.node? found := by
  have other : (found == place) = false := beq_eq_false_iff_ne.mpr ne
  simp only [node?, putFile, List.lookup_cons, other, lookup_filter_ne volume.files ne]
  rfl

theorem node?_removeFile_of_ne (ne : found ≠ place) :
    (volume.removeFile place).node? found = volume.node? found := by
  simp only [node?, removeFile, lookup_filter_ne volume.files ne]
  rfl

/-- Moving a file changes what is found at two places. -/
theorem node?_moveFile_of_ne {source target : Place} (source_ne : found ≠ source)
    (target_ne : found ≠ target) :
    (volume.moveFile source target).node? found = volume.node? found := by
  rw [moveFile]
  cases volume.files.lookup source with
  | none => rfl
  | some content => exact (node?_putFile_of_ne target_ne).trans (node?_removeFile_of_ne source_ne)

/-- What is written is found at the place that is told. -/
theorem node?_of_write {path : Path} {written : Volume}
    (done : volume.write path content = .ok (written, place)) :
    written.node? place = some (.file content) := by
  rw [write] at done
  obtain ⟨⟨made, directory⟩, _, done⟩ := exists_of_bind_eq_ok done
  obtain ⟨_, _, done⟩ := exists_of_bind_eq_ok done
  obtain ⟨_, _, done⟩ := exists_of_bind_eq_ok done
  cases done
  exact node?_putFile_self _ _ _

/-! ## Where paths lead -/

/-- A path leads to or through a place. -/
def LeadsThrough (volume : Volume) (path : Path) (place : Place) : Prop :=
  ∃ front back, path.parts = front ++ back ∧
    volume.walk path.text (volume.startOf path) front = .ok place

/-- A path of one name leads through the working directory to a place in it. -/
theorem LeadsThrough.place_eq {name : String} (name_ne : name ≠ "..")
    (leads : volume.LeadsThrough { root := "", parts := [name] } place) :
    place = volume.workingDirectory ∨ place = volume.workingDirectory ++ [name] := by
  obtain ⟨front, back, split, walked⟩ := leads
  cases front with
  | nil => exact .inl (Except.ok.inj walked).symm
  | cons first rest =>
      obtain ⟨first_eq, rest_eq⟩ : name = first ∧ [] = rest ++ back := List.cons_eq_cons.mp split
      obtain ⟨rfl, _⟩ := List.append_eq_nil_iff.mp rest_eq.symm
      subst first_eq
      rw [Volume.walk] at walked
      split at walked
      case h_1 => cases walked
      case h_2 => cases walked
      case h_3 =>
        split at walked
        case isTrue => cases walked
        case isFalse => exact .inr (Except.ok.inj walked).symm

/-- Two volumes differ in what is found at some places alone. -/
structure AlikeBut (volume other : Volume) (places : List Place) : Prop where
  workingDirectory : other.workingDirectory = volume.workingDirectory
  node : ∀ found ∉ places, other.node? found = volume.node? found

namespace AlikeBut

variable {other third : Volume} {places : List Place}

theorem refl (volume : Volume) (places : List Place) : volume.AlikeBut volume places :=
  ⟨rfl, fun _ _ => rfl⟩

theorem trans (first : volume.AlikeBut other places) (second : other.AlikeBut third places) :
    volume.AlikeBut third places :=
  ⟨second.workingDirectory.trans first.workingDirectory,
    fun found outside => (second.node found outside).trans (first.node found outside)⟩

theorem putFile (member : place ∈ places) (content : Image) :
    volume.AlikeBut (volume.putFile place content) places :=
  ⟨rfl, fun _ outside => node?_putFile_of_ne fun same => outside (same ▸ member)⟩

theorem moveFile {source target : Place} (source_mem : source ∈ places)
    (target_mem : target ∈ places) : volume.AlikeBut (volume.moveFile source target) places := by
  refine ⟨?_, fun found outside => ?_⟩
  · rw [Volume.moveFile]
    cases volume.files.lookup source <;> rfl
  · exact node?_moveFile_of_ne (fun same => outside (same ▸ source_mem))
      fun same => outside (same ▸ target_mem)

/-- Steps that each change only those places change only them together. -/
theorem foldl {α : Type} {step : Volume → α → Volume} (items : List α)
    (alike : ∀ volume : Volume, ∀ item ∈ items, volume.AlikeBut (step volume item) places)
    (volume : Volume) : volume.AlikeBut (items.foldl step volume) places := by
  induction items generalizing volume with
  | nil => exact .refl volume places
  | cons item rest induction =>
      obtain ⟨item_alike, rest_alike⟩ :
          (∀ volume : Volume, volume.AlikeBut (step volume item) places) ∧
            ∀ volume : Volume, ∀ item ∈ rest, volume.AlikeBut (step volume item) places :=
        ⟨fun volume => alike volume item (.head _),
          fun volume found member => alike volume found (.tail item member)⟩
      exact (item_alike volume).trans (induction rest_alike (step volume item))

/-- A walk along places that are alike leads to the same end. -/
theorem walk (same : volume.AlikeBut other places) (name : String) (parts : List String)
    (place : Place)
    (apart : ∀ front back found, parts = front ++ back →
      volume.walk name place front = .ok found → found ∉ places) :
    other.walk name place parts = volume.walk name place parts := by
  induction parts generalizing place with
  | nil => rfl
  | cons part rest induction =>
      have here := same.node place (apart [] (part :: rest) place rfl rfl)
      rw [Volume.walk, Volume.walk, here]
      cases node_eq : volume.node? place with
      | none => rfl
      | some node =>
          cases node with
          | file content => rfl
          | directory =>
              by_cases overlong : isOverlong part = true
              · simp only [if_pos overlong]
              · simp only [if_neg overlong]
                refine induction _ fun front back found split walked => ?_
                refine apart (part :: front) back found (by rw [split]; rfl) ?_
                rw [Volume.walk, node_eq]
                simp only [if_neg overlong]
                exact walked

/-- A path finds the same if it leads neither to nor through a place that differs. -/
theorem find_eq (same : volume.AlikeBut other places) {path : Path}
    (apart : ∀ place ∈ places, ¬ volume.LeadsThrough path place) :
    other.find path = volume.find path := by
  have start_eq : other.startOf path = volume.startOf path := by
    rw [startOf, startOf, same.workingDirectory]
  have outside : ∀ front back found, path.parts = front ++ back →
      volume.walk path.text (volume.startOf path) front = .ok found → found ∉ places :=
    fun front back found split walked member => apart found member ⟨front, back, split, walked⟩
  rw [find, find, start_eq, same.walk path.text path.parts _ outside]
  cases walked : volume.walk path.text (volume.startOf path) path.parts with
  | error fault => rfl
  | ok found =>
      have here := same.node found (outside path.parts [] found (List.append_nil _).symm walked)
      simp only [bind, Except.bind, here]

end AlikeBut

/-! ## Directories on the way -/

/-- A volume has the files of another one, and all of its directories. -/
structure AddsDirectories (volume other : Volume) : Prop where
  workingDirectory : other.workingDirectory = volume.workingDirectory
  files : other.files = volume.files
  directories : volume.directories ⊆ other.directories

namespace AddsDirectories

variable {other third : Volume}

theorem refl (volume : Volume) : volume.AddsDirectories volume := ⟨rfl, rfl, fun _ => id⟩

theorem trans (first : volume.AddsDirectories other) (second : other.AddsDirectories third) :
    volume.AddsDirectories third :=
  ⟨second.workingDirectory.trans first.workingDirectory, second.files.trans first.files,
    fun _ member => second.directories (first.directories member)⟩

theorem putDirectory (volume : Volume) (place : Place) :
    volume.AddsDirectories (volume.putDirectory place) :=
  ⟨rfl, rfl, fun _ member => .tail place member⟩

theorem makeAlong {name : String} {wasMissing : Bool} {start reached : Place}
    {parts : List String}
    (made : Volume.makeAlong name wasMissing volume start parts = .ok (other, reached)) :
    volume.AddsDirectories other := by
  induction parts generalizing wasMissing volume start with
  | nil =>
      cases made
      exact .refl _
  | cons part rest induction =>
      simp only [Volume.makeAlong] at made
      split at made
      case isTrue => cases made
      case isFalse =>
        split at made
        case h_1 =>
          split at made
          case isTrue => cases made
          case isFalse => exact (putDirectory volume _).trans (induction made)
        case h_2 => exact induction made
        case h_3 => cases made

theorem makeWay {path : Path} {directory : Place}
    (made : volume.makeWay path = .ok (other, directory)) : volume.AddsDirectories other := by
  rw [Volume.makeWay] at made
  obtain ⟨_, _, made⟩ := exists_of_bind_eq_ok made
  exact makeAlong made

theorem node?_of_eq_some (adds : volume.AddsDirectories other) {node : Node}
    (node_eq : volume.node? found = some node) : other.node? found = some node := by
  rw [Volume.node?] at node_eq ⊢
  rw [adds.files]
  cases file_eq : volume.files.lookup found with
  | some content =>
      rw [file_eq] at node_eq
      exact node_eq
  | none =>
      simp only [file_eq, Option.ite_none_right_eq_some] at node_eq ⊢
      refine ⟨?_, node_eq.2⟩
      simp only [Bool.or_eq_true, List.contains_iff_mem] at node_eq ⊢
      exact node_eq.1.imp_right (@adds.directories found)

end AddsDirectories

theorem node?_eq_file_iff :
    volume.node? found = some (.file content) ↔ volume.files.lookup found = some content := by
  rw [node?]
  cases volume.files.lookup found with
  | some other => simp
  | none => simp

/-- No directory is at the place of a file that may be written. -/
theorem node?_of_filePlace {path : Path} {directory : Place}
    (placed : volume.filePlace path directory = .ok place) :
    volume.node? place ≠ some .directory := by
  rw [filePlace] at placed
  split at placed
  case h_1 => cases placed
  case h_2 => cases placed
  case h_3 =>
    split at placed
    case isTrue => cases placed
    case isFalse =>
      split at placed
      case h_1 => cases placed
      case h_2 other =>
        cases placed
        exact other

end Volume

namespace LogFile

/-- Opening a log file loses nothing, and no other file is new. -/
theorem kept_of_openAt {volume opened : Volume} {path : Path} {isJson : Bool} {file : LogFile}
    (done : openAt volume path isJson = .ok (opened, file)) :
    opened.workingDirectory = volume.workingDirectory ∧
      (∀ place node, volume.node? place = some node → opened.node? place = some node) ∧
      ∀ place content, opened.node? place = some (.file content) →
        volume.node? place = some (.file content) ∨ place = file.place := by
  rw [openAt] at done
  obtain ⟨⟨made, directory⟩, made_eq, done⟩ := exists_of_bind_eq_ok done
  obtain ⟨place, placed, done⟩ := exists_of_bind_eq_ok done
  obtain ⟨_, _, done⟩ := exists_of_bind_eq_ok done
  cases done
  have adds := Volume.AddsDirectories.makeWay made_eq
  refine ⟨adds.workingDirectory, fun found node node_eq => ?kept, fun found content node_eq => ?new⟩
  case kept =>
    by_cases same : found = place
    · subst same
      have made_node := adds.node?_of_eq_some node_eq
      cases node with
      | directory => exact absurd made_node (Volume.node?_of_filePlace placed)
      | file content =>
          rw [Volume.node?_putFile_self, Volume.node?_eq_file_iff.mp made_node, Option.getD_some]
    · rw [Volume.node?_putFile_of_ne same]
      exact adds.node?_of_eq_some node_eq
  case new =>
    by_cases same : found = place
    · exact .inr same
    · rw [Volume.node?_putFile_of_ne same, Volume.node?_eq_file_iff, adds.files] at node_eq
      exact .inl (Volume.node?_eq_file_iff.mpr node_eq)

variable (file : LogFile)

theorem slot_mem {number : Nat} (number_le : number ≤ backupCount) :
    file.slot number ∈ file.slots :=
  List.mem_map_of_mem (List.mem_range.mpr (Nat.lt_succ_of_le number_le))

theorem place_mem : file.place ∈ file.slots := file.slot_mem (Nat.zero_le _)

/-- A log file and its backups have names that start with that of the log file. -/
theorem exists_of_mem_slots {file : LogFile} (place_ne : file.place ≠ []) {place : Place}
    (member : place ∈ file.slots) :
    ∃ suffix, place = file.place.dropLast ++ [file.place.getLastD "" ++ suffix] := by
  obtain ⟨number, _, rfl⟩ := List.mem_map.mp member
  cases number with
  | zero =>
      refine ⟨"", ?_⟩
      rw [String.append_empty, List.getLastD_eq_getLast?, List.getLast?_eq_some_getLast place_ne,
        Option.getD_some, List.dropLast_append_getLast]
      rfl
  | succ number => exact ⟨"." ++ toString (number + 1), by rw [← String.append_assoc]; rfl⟩

theorem alikeBut_rotate (volume : Volume) : volume.AlikeBut (file.rotate volume) file.slots := by
  refine Volume.AlikeBut.trans ?_ (.putFile file.place_mem _)
  refine .foldl _ (fun volume number member => ?_) volume
  have number_lt := List.mem_range.mp (List.mem_reverse.mp member)
  exact .moveFile (file.slot_mem (Nat.le_of_lt number_lt)) (file.slot_mem number_lt)

theorem alikeBut_append (volume : Volume) (text : String) :
    volume.AlikeBut (file.append volume text) file.slots := by
  rw [append]
  refine Volume.AlikeBut.trans ?_ (.putFile file.place_mem _)
  split
  · exact file.alikeBut_rotate volume
  · exact .refl volume _

/-- Writing entries to a log file changes nothing but the file and its backups. -/
theorem alikeBut_write (volume : Volume) (texts : List String) :
    volume.AlikeBut (file.write volume texts) file.slots :=
  .foldl texts (fun volume text _ => file.alikeBut_append volume text) volume

end LogFile
end ElfInspect
