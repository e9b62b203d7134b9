import ElfInspect.Proofs.Headers
import ElfInspect.StringTable

/-!
# What names depend on

A name is looked up inside the range of its string table and nowhere else.  Looking the names up
changes nothing about a section but its name, so whatever does not use names can be told from the
sections without them.
-/

namespace ElfInspect

/-- A marker is there and tells of an overrun. -/
def Marker.Overran (marker : Option Marker) : Prop :=
  ∃ found, marker = some found ∧ found.kind = "OutOfBounds"

namespace Section

/-- The range that a section declares. -/
def extent (header : Section) : Extent := { start := header.fileOffset, size := header.size }

/-- A section without its name. -/
def unnamed (header : Section) : Section := { header with name := none, nameError := none }

@[simp]
theorem field_unnamed (header : Section) : header.unnamed.field = header.field := by
  funext name
  cases name <;> rfl

section Unnamed

variable {left right : Section}

theorem index_eq_of_unnamed (same : left.unnamed = right.unnamed) : left.index = right.index := by
  simpa only [unnamed] using congrArg index same

theorem field_eq_of_unnamed (same : left.unnamed = right.unnamed) : left.field = right.field := by
  rw [← field_unnamed, same, field_unnamed]

end Unnamed

@[simp]
theorem unnamed_ofFields (index : Int) (value : FieldName → Int) :
    (ofFields index value).unnamed = ofFields index value := rfl

/-- Sections have no names when they come from their table. -/
theorem map_unnamed_decodeTable (image : Image) (header : FileHeader) (identity : Identity) :
    (Fault.entries (decodeTable image header identity)).map unnamed =
      Fault.entries (decodeTable image header identity) := by
  rw [decodeTable]
  cases header.sectionHeaders.read (layout identity.addressClass) image identity.byteOrder with
  | error fault => rfl
  | ok records =>
      apply List.ext_getElem?
      intro place
      simp [Except.map, Fault.entries, Function.comp_def]

end Section

namespace StringTable

/-- Two outcomes of finding a string table that name everything alike. -/
def SameNames (left right : Except Fault StringTable) : Prop :=
  left.map lookup = right.map lookup

/-- The string table of a shorter image names everything like that of the longer one, or it
overruns the image. -/
def CutFrom (short long : Except Fault StringTable) : Prop :=
  SameNames short long ∨ ∃ overrun, short = .error (.outOfBounds overrun)

variable {left right : Image} {header : Section}

/-- A name is the part of its table up to the first zero byte, as far as the image reaches. -/
theorem nameBytes_eq {table : StringTable} {nameOffset : Int} (offset_nonneg : 0 ≤ table.offset)
    (name_nonneg : 0 ≤ nameOffset) (name_lt : nameOffset < table.size) :
    table.nameBytes nameOffset =
      (table.image.slice (table.offset + nameOffset).toNat
        (table.offset + table.size).toNat).takeWhile (· ≠ 0) := by
  rw [nameBytes, Image.clip_of_nonneg (by omega), Image.clip_of_nonneg (by omega),
    Image.zeroFree_eq table.image (by omega), Image.slice_min_size]

/-- Tables over the same range have the same names if the images agree on that range. -/
theorem lookup_congr {offset size : Int} (offset_nonneg : 0 ≤ offset)
    (agree : left.AgreeOn right ⟨offset, size⟩) :
    lookup ⟨left, offset, size⟩ = lookup ⟨right, offset, size⟩ := by
  funext nameOffset
  unfold lookup
  by_cases outside : nameOffset < 0 ∨ size ≤ nameOffset
  · simp only [if_pos outside]
  · simp only [if_neg outside]
    rw [nameBytes_eq offset_nonneg (by omega) (by simp only; omega),
      nameBytes_eq offset_nonneg (by omega) (by simp only; omega),
      agree.slice_eq (by simp only; omega) (by simp only; omega)]

theorem ofSection_of_outside (outside : left.size < header.fileOffset + header.size) :
    ∃ overrun, ofSection left header = .error (.outOfBounds overrun) := by
  rw [ofSection, if_pos outside]
  exact ⟨_, rfl⟩

theorem ofSection_of_inside (inside : header.fileOffset + header.size ≤ left.size) :
    ofSection left header = .ok ⟨left, header.fileOffset, header.size⟩ := by
  rw [ofSection, if_neg (by omega)]

theorem kind_of_ofSection {fault : Fault} (failed : ofSection left header = .error fault) :
    fault.kind = "OutOfBounds" := by
  by_cases inside : header.fileOffset + header.size ≤ left.size
  · rw [ofSection_of_inside inside] at failed
    contradiction
  · obtain ⟨overrun, overrun_eq⟩ := ofSection_of_outside (Int.lt_of_not_ge inside)
    rw [overrun_eq] at failed
    rw [← Except.error.inj failed]
    rfl

theorem kind_of_lookup {table : StringTable} {nameOffset : Int} {fault : Fault}
    (failed : table.lookup nameOffset = .error fault) : fault.kind = "BadStringOffset" := by
  unfold lookup at failed
  split at failed
  · rw [← Except.error.inj failed]
    rfl
  · contradiction

theorem sameNames_of_agree (same_size : left.size = right.size)
    (offset_nonneg : 0 ≤ header.fileOffset) (agree : left.AgreeOn right header.extent) :
    SameNames (ofSection left header) (ofSection right header) := by
  by_cases inside : header.fileOffset + header.size ≤ left.size
  · have right_inside : header.fileOffset + header.size ≤ right.size := by omega
    rw [SameNames, ofSection_of_inside inside, ofSection_of_inside right_inside, Except.map,
      Except.map, lookup_congr offset_nonneg agree]
  · rw [SameNames, ofSection, ofSection, if_pos (by omega), if_pos (by omega), same_size]

theorem ofSection_cut {short long : Image} (cut : short.toList <+: long.toList)
    (offset_nonneg : 0 ≤ header.fileOffset) :
    CutFrom (ofSection short header) (ofSection long header) := by
  by_cases inside : header.fileOffset + header.size ≤ short.size
  · left
    have size_le := Image.size_le_of_cut cut
    have long_inside : header.fileOffset + header.size ≤ long.size := by omega
    rw [SameNames, ofSection_of_inside inside, ofSection_of_inside long_inside, Except.map,
      Except.map, lookup_congr offset_nonneg (Image.agreeOn_of_cut cut inside)]
  · exact .inr (ofSection_of_outside (by omega))

end StringTable

namespace Section

variable {sections : List Section}

/-- A section with its name looked up by a function. -/
def nameBy (find : Except Fault (Int → Except Fault String)) (header : Section) : Section :=
  match find with
  | .error fault => header.withNameFault fault
  | .ok look =>
      match look header.nameOffset with
      | .ok name => { header with name := some name }
      | .error fault => header.withNameFault fault

/-- Names that cannot be looked up leave a marker on every section. -/
theorem overran_resolveNames {image : Image} {index : Int} {overrun : Overrun}
    (failed : nameTable sections image index = .error (.outOfBounds overrun)) {found : Section}
    (member : found ∈ resolveNames sections image index) : Marker.Overran found.nameError := by
  rw [resolveNames, failed] at member
  obtain ⟨header, _, rfl⟩ := List.mem_map.mp member
  exact ⟨_, rfl, rfl⟩

theorem resolveNames_eq (sections : List Section) (image : Image) (index : Int) :
    resolveNames sections image index =
      sections.map (nameBy ((nameTable sections image index).map StringTable.lookup)) := by
  unfold resolveNames
  cases nameTable sections image index <;> rfl

theorem unnamed_nameBy (find : Except Fault (Int → Except Fault String)) (header : Section) :
    (header.nameBy find).unnamed = header.unnamed := by
  unfold nameBy
  split
  · rfl
  · split <;> rfl

theorem map_unnamed_resolveNames (sections : List Section) (image : Image) (index : Int) :
    (resolveNames sections image index).map unnamed = sections.map unnamed := by
  rw [resolveNames_eq, List.map_map]
  apply List.map_congr_left
  intro header _
  exact unnamed_nameBy _ header

theorem kind_of_nameTable {image : Image} {index : Int} {fault : Fault}
    (failed : nameTable sections image index = .error fault) : fault.kind = "OutOfBounds" := by
  unfold nameTable at failed
  split at failed
  · exact StringTable.kind_of_ofSection failed
  · rw [← Except.error.inj failed]
    rfl

theorem kind_of_nameError {image : Image} {index : Int}
    (fresh : sections.map unnamed = sections) {found : Section} {marker : Marker}
    (member : found ∈ resolveNames sections image index) (marked : found.nameError = some marker) :
    marker.kind ∈ Fault.recoverable := by
  unfold resolveNames at member
  split at member
  · rename_i table _
    obtain ⟨header, header_mem, rfl⟩ := List.mem_map.mp member
    rw [← fresh] at header_mem
    obtain ⟨decoded, _, rfl⟩ := List.mem_map.mp header_mem
    unfold resolveName at marked
    split at marked
    · contradiction
    · rename_i fault failed
      rw [← Option.some.inj marked, Fault.marker, StringTable.kind_of_lookup failed]
      simp [Fault.recoverable]
  · rename_i fault failed
    obtain ⟨header, _, rfl⟩ := List.mem_map.mp member
    rw [← Option.some.inj marked, Fault.marker, kind_of_nameTable failed]
    simp [Fault.recoverable]

theorem nameTable_congr {left right : Image} {index : Int}
    (offset_nonneg : ∀ header ∈ sections, 0 ≤ header.fileOffset)
    (same_size : left.size = right.size)
    (agree : ∀ header ∈ sections[index.toNat]?, left.AgreeOn right header.extent) :
    StringTable.SameNames (nameTable sections left index) (nameTable sections right index) := by
  unfold nameTable
  cases found : sections[index.toNat]? with
  | none => rfl
  | some header =>
      exact StringTable.sameNames_of_agree same_size
        (offset_nonneg header (List.mem_of_getElem? found)) (agree header found)

theorem nameTable_cut {short long : Image} {index : Int}
    (offset_nonneg : ∀ header ∈ sections, 0 ≤ header.fileOffset)
    (cut : short.toList <+: long.toList) :
    StringTable.CutFrom (nameTable sections short index) (nameTable sections long index) := by
  unfold nameTable
  cases found : sections[index.toNat]? with
  | none => exact .inl rfl
  | some header =>
      exact StringTable.ofSection_cut cut (offset_nonneg header (List.mem_of_getElem? found))

theorem resolveNames_congr {left right : Image} {index : Int}
    (same :
      StringTable.SameNames (nameTable sections left index) (nameTable sections right index)) :
    resolveNames sections left index = resolveNames sections right index := by
  rw [resolveNames_eq, resolveNames_eq, same]

theorem mem_of_linked? {header found : Section} (linked : linked? sections header = some found) :
    found ∈ sections := by
  unfold linked? at linked
  split at linked
  · exact List.mem_of_getElem? linked
  · contradiction

/-- Links do not depend on names. -/
theorem map_unnamed_linked? (sections : List Section) (header : Section) :
    (linked? sections header).map unnamed = linked? (sections.map unnamed) header.unnamed := by
  unfold linked?
  by_cases links : 0 < header.link
  · rw [if_pos links, if_pos (show 0 < header.unnamed.link from links), List.getElem?_map]
    rfl
  · rw [if_neg links, if_neg (show ¬0 < header.unnamed.link from links)]
    rfl

end Section
end ElfInspect
