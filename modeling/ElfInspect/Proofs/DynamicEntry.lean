import ElfInspect.DynamicEntry
import ElfInspect.Proofs.Names

/-!
# What decoding the dynamic table gives

The entries of the dynamic table are pairs of words inside the range of its section.  They end with
the first null tag, whatever the names are, and only the entries of some tags have a name.
-/

namespace ElfInspect
namespace DynamicEntry

/-- An entry without its name. -/
def unnamed (entry : DynamicEntry) : DynamicEntry := { entry with name := none, nameError := none }

/-- What keeps the dynamic table of a section from being decoded. -/
def fault? (header : Section) (length : Int) : Option Fault :=
  if length < header.fileOffset + header.size then
    some (.outOfBounds
      { subject := "dynamic section " ++ toString header.index
        offset := header.fileOffset
        width := header.size
        length := length })
  else none

/-- The tag and value at an index of the table of a section. -/
def wordsAt (image : Image) (header : Section) (identity : Identity) (index : Nat) : Int × Int :=
  let width := wordSize identity.addressClass
  let offset := header.fileOffset + index * entrySize identity.addressClass
  (Word.signed width (image.wordAt identity.byteOrder offset width),
    image.wordAt identity.byteOrder (offset + width) width)

/-- The tags and values of the table of a section, up to the null tag. -/
def words (image : Image) (header : Section) (identity : Identity) : List (Int × Int) :=
  Table.upTo (fun pair => pair.1 = DynamicTag.null)
    ((List.range (header.size / entrySize identity.addressClass).toNat).map
      (wordsAt image header identity))

section Names

variable {left right : Except Fault StringTable}

@[simp]
theorem tag_ofWords (strings : Except Fault StringTable) (tag value : Int) :
    (ofWords strings tag value).tag = tag := by
  unfold ofWords
  split
  · split
    · rfl
    · split <;> rfl
  · rfl

theorem unnamed_ofWords (strings : Except Fault StringTable) (tag value : Int) :
    (ofWords strings tag value).unnamed = { tag := tag, value := value } := by
  unfold ofWords
  split
  · split
    · rfl
    · split <;> rfl
  · rfl

@[simp]
theorem value_ofWords (strings : Except Fault StringTable) (tag value : Int) :
    (ofWords strings tag value).value = value :=
  congrArg DynamicEntry.value (unnamed_ofWords strings tag value)

theorem kind_of_linkedStrings {image : Image} {link : Int} {linked : Option Section}
    {fault : Fault} (failed : linkedStrings image link linked = .error fault) :
    fault.kind = "OutOfBounds" := by
  unfold linkedStrings at failed
  split at failed
  · rw [← Except.error.inj failed]
    rfl
  · split at failed
    · contradiction
    · rw [← Except.error.inj failed]
      rfl

theorem kind_of_ofWords {image : Image} {link tag value : Int} {linked : Option Section}
    {marker : Marker}
    (marked : (ofWords (linkedStrings image link linked) tag value).nameError = some marker) :
    marker.kind ∈ Fault.recoverable := by
  unfold ofWords at marked
  split at marked
  · split at marked
    · rename_i fault failed
      rw [← Option.some.inj marked, Fault.marker, kind_of_linkedStrings failed]
      simp [Fault.recoverable]
    · split at marked
      · contradiction
      · rename_i fault failed
        rw [← Option.some.inj marked, Fault.marker, StringTable.kind_of_lookup failed]
        simp [Fault.recoverable]
  · contradiction

theorem ofWords_congr (same : StringTable.SameNames left right) : ofWords left = ofWords right := by
  funext tag value
  unfold StringTable.SameNames at same
  cases left with
  | error fault =>
      cases right with
      | error other =>
          obtain rfl := Except.error.inj same
          rfl
      | ok table => contradiction
  | ok table =>
      cases right with
      | error fault => contradiction
      | ok other =>
          have same_lookup := congrFun (Except.ok.inj same) value
          simp only [ofWords, same_lookup]

theorem linkedStrings_congr {left right : Image} {link : Int} {linked : Section}
    (same :
      StringTable.SameNames (StringTable.ofSection left linked)
        (StringTable.ofSection right linked)) :
    StringTable.SameNames (linkedStrings left link (some linked))
      (linkedStrings right link (some linked)) := by
  unfold StringTable.SameNames at same ⊢
  cases left_found : StringTable.ofSection left linked with
  | error fault =>
      cases right_found : StringTable.ofSection right linked with
      | error other => simp only [linkedStrings, left_found, right_found]
      | ok table =>
          rw [left_found, right_found] at same
          contradiction
  | ok table =>
      cases right_found : StringTable.ofSection right linked with
      | error fault =>
          rw [left_found, right_found] at same
          contradiction
      | ok other =>
          rw [left_found, right_found] at same
          simpa only [linkedStrings, left_found, right_found] using same

end Names

variable {header : Section} {identity : Identity}

theorem wordSize_supported (addressClass : AddressClass) :
    (wordSize addressClass : Int) = 1 ∨ (wordSize addressClass : Int) = 2 ∨
      (wordSize addressClass : Int) = 4 ∨ (wordSize addressClass : Int) = 8 := by
  cases addressClass <;> decide

theorem entrySize_eq (addressClass : AddressClass) :
    (entrySize addressClass : Int) = 2 * wordSize addressClass := by
  cases addressClass <;> rfl

/-- The range of an entry lies inside that of its section. -/
theorem entry_inside (header : Section) (identity : Identity) {index : Nat}
    (index_lt : index < (header.size / entrySize identity.addressClass).toNat) :
    header.fileOffset ≤ header.fileOffset + index * entrySize identity.addressClass ∧
      header.fileOffset + index * entrySize identity.addressClass +
          entrySize identity.addressClass ≤ header.fileOffset + header.size := by
  have size_ne : (entrySize identity.addressClass : Int) ≠ 0 := by
    cases identity.addressClass <;> decide
  have whole_entries := Int.mul_ediv_self_le (x := header.size) size_ne
  obtain ⟨start_le, stop_le⟩ :=
    Table.entry_inside header.fileOffset (Int.natCast_nonneg _) index_lt
  exact ⟨start_le, by omega⟩

/-- The outcome of decoding the dynamic table of a section. -/
theorem decodeSection_eq (image : Image) (linked : Option Section) (identity : Identity)
    (offset_nonneg : 0 ≤ header.fileOffset) :
    decodeSection image header linked identity =
      Fault.outcome (fault? header image.size)
        ((words image header identity).map fun pair =>
          ofWords (linkedStrings image header.link linked) pair.1 pair.2) := by
  simp only [decodeSection, fault?]
  by_cases outside : image.size < header.fileOffset + header.size
  · simp only [if_pos outside, Fault.outcome]
  · simp only [if_neg outside, Fault.outcome]
    have reads : ∀ index < (header.size / entrySize identity.addressClass).toNat,
        (do
          let tag ← image.signed identity.byteOrder
            (header.fileOffset + index * entrySize identity.addressClass)
            (wordSize identity.addressClass)
          let value ← image.unsigned identity.byteOrder
            (header.fileOffset + index * entrySize identity.addressClass +
              wordSize identity.addressClass)
            (wordSize identity.addressClass)
          return ofWords (linkedStrings image header.link linked) tag value) =
          (.ok (ofWords (linkedStrings image header.link linked)
            (wordsAt image header identity index).1 (wordsAt image header identity index).2) :
            Except Fault DynamicEntry) := by
      intro index index_lt
      obtain ⟨start_le, stop_le⟩ := entry_inside header identity index_lt
      rw [entrySize_eq] at start_le stop_le
      rw [entrySize_eq, Image.signed_of_inside (wordSize_supported _) (by omega) (by omega),
        Image.unsigned_of_inside (wordSize_supported _) (by omega) (by omega), wordsAt,
        entrySize_eq, Int.toNat_natCast]
      rfl
    have last_iff : (isLast ∘ fun pair : Int × Int =>
        ofWords (linkedStrings image header.link linked) pair.1 pair.2) =
          fun pair => decide (pair.1 = DynamicTag.null) := by
      funext pair
      simp [isLast]
    rw [Table.collectUntil_of_reads isLast reads, words, ← last_iff, ← Table.upTo_map,
      List.map_map]
    rfl

/-- The words of a dynamic table depend on the range of its section alone. -/
theorem words_congr {left right : Image} (offset_nonneg : 0 ≤ header.fileOffset)
    (agree : left.AgreeOn right header.extent) :
    words left header identity = words right header identity := by
  have same_words : ∀ index ∈ List.range (header.size / entrySize identity.addressClass).toNat,
      wordsAt left header identity index = wordsAt right header identity index := by
    intro index index_mem
    obtain ⟨start_le, stop_le⟩ := entry_inside header identity (List.mem_range.mp index_mem)
    rw [entrySize_eq] at start_le stop_le
    simp only [wordsAt, entrySize_eq]
    rw [agree.wordAt_eq (by omega) (by simp only [Section.extent]; omega)
        (by simp only [Section.extent]; omega),
      agree.wordAt_eq (by omega) (by simp only [Section.extent]; omega)
        (by simp only [Section.extent]; omega)]
  rw [words, words, List.map_congr_left same_words]

theorem kind_of_decodeSection {image : Image} {linked : Option Section} {fault : Fault}
    (offset_nonneg : 0 ≤ header.fileOffset)
    (failed : decodeSection image header linked identity = .error fault) :
    fault.kind ∈ Fault.recoverable := by
  rw [decodeSection_eq image linked identity offset_nonneg] at failed
  have fault_eq := Fault.eq_some_of_outcome failed
  unfold fault? at fault_eq
  split at fault_eq
  · obtain rfl := Option.some.inj fault_eq
    simp [Fault.kind, Fault.recoverable]
  · contradiction

theorem kind_of_nameError {image : Image} {linked : Option Section}
    (offset_nonneg : 0 ≤ header.fileOffset) {entry : DynamicEntry} {marker : Marker}
    (member : entry ∈ Fault.entries (decodeSection image header linked identity))
    (marked : entry.nameError = some marker) : marker.kind ∈ Fault.recoverable := by
  rw [decodeSection_eq image linked identity offset_nonneg] at member
  cases fault_eq : fault? header image.size with
  | some fault =>
      rw [fault_eq] at member
      contradiction
  | none =>
      rw [fault_eq] at member
      obtain ⟨words, _, rfl⟩ := List.mem_map.mp member
      exact kind_of_ofWords marked

theorem linkedStrings_cut {short long : Image} (link : Int) {linked : Option Section}
    (offset_nonneg : ∀ found ∈ linked, 0 ≤ found.fileOffset)
    (cut : short.toList <+: long.toList) :
    StringTable.CutFrom (linkedStrings short link linked) (linkedStrings long link linked) := by
  cases linked with
  | none => exact .inl rfl
  | some found =>
      rcases StringTable.ofSection_cut cut (offset_nonneg found rfl) with same | ⟨overrun, lost⟩
      · exact .inl (linkedStrings_congr same)
      · right
        rw [linkedStrings, lost]
        exact ⟨_, rfl⟩

/-- The entries of a section depend on its range and that of the linked section alone. -/
theorem decodeSection_congr {left right : Image} {linked : Option Section}
    (offset_nonneg : 0 ≤ header.fileOffset)
    (linked_nonneg : ∀ found ∈ linked, 0 ≤ found.fileOffset) (same_size : left.size = right.size)
    (agree : left.AgreeOn right header.extent)
    (linked_agree : ∀ found ∈ linked, left.AgreeOn right found.extent) :
    decodeSection left header linked identity = decodeSection right header linked identity := by
  have same_names : StringTable.SameNames (linkedStrings left header.link linked)
      (linkedStrings right header.link linked) := by
    cases linked with
    | none => rfl
    | some found =>
        exact linkedStrings_congr (StringTable.sameNames_of_agree same_size
          (linked_nonneg found rfl) (linked_agree found rfl))
  rw [decodeSection_eq left linked identity offset_nonneg,
    decodeSection_eq right linked identity offset_nonneg, same_size,
    words_congr offset_nonneg agree, ofWords_congr same_names]

/-- A list of entries is another one but for the names, each of which overruns the image. -/
def NamesOverran (short long : List DynamicEntry) : Prop :=
  short.map unnamed = long.map unnamed ∧
    ∀ entry ∈ short,
      if entry.tag ∈ DynamicTag.named then Marker.Overran entry.nameError
      else entry.unnamed = entry

theorem namesOverran_ofWords {short long : Except Fault StringTable} {overrun : Overrun}
    (lost : short = .error (.outOfBounds overrun)) (words : List (Int × Int)) :
    NamesOverran (words.map fun pair => ofWords short pair.1 pair.2)
      (words.map fun pair => ofWords long pair.1 pair.2) := by
  constructor
  · simp only [List.map_map, Function.comp_def, unnamed_ofWords]
  · intro entry member
    obtain ⟨pair, _, rfl⟩ := List.mem_map.mp member
    rw [tag_ofWords, lost]
    by_cases named : pair.1 ∈ DynamicTag.named
    · rw [if_pos named, ofWords, if_pos named]
      exact ⟨_, rfl, rfl⟩
    · rw [if_neg named, ofWords, if_neg named]
      rfl

/-- The entries of a shorter image are those of the longer one, perhaps without their names, or
their table overruns the image. -/
theorem decodeSection_cut {short long : Image} (identity : Identity) {linked : Option Section}
    (offset_nonneg : 0 ≤ header.fileOffset)
    (linked_nonneg : ∀ found ∈ linked, 0 ≤ found.fileOffset)
    (cut : short.toList <+: long.toList) :
    Fault.CutFrom (decodeSection short header linked identity)
        (decodeSection long header linked identity) ∨
      ∃ shortEntries longEntries,
        decodeSection short header linked identity = .ok shortEntries ∧
          decodeSection long header linked identity = .ok longEntries ∧
            NamesOverran shortEntries longEntries := by
  rw [decodeSection_eq short linked identity offset_nonneg,
    decodeSection_eq long linked identity offset_nonneg, fault?, fault?]
  have size_le := Image.size_le_of_cut cut
  by_cases too_long : short.size < header.fileOffset + header.size
  · left
    right
    rw [if_pos too_long]
    exact ⟨_, rfl⟩
  · have agree : short.AgreeOn long header.extent :=
      Image.agreeOn_of_cut cut (Int.not_lt.mp too_long)
    rw [if_neg too_long, if_neg (by omega), words_congr offset_nonneg agree]
    rcases linkedStrings_cut header.link linked_nonneg cut with same_names | ⟨overrun, lost⟩
    · left
      left
      rw [ofWords_congr same_names]
    · right
      exact ⟨_, _, rfl, rfl, namesOverran_ofWords lost _⟩

/-- The dynamic table can be told without the names of sections. -/
theorem decodeSection_unnamed (image : Image) (header : Section) (linked : Option Section)
    (identity : Identity) :
    decodeSection image header linked identity =
      decodeSection image header.unnamed (linked.map Section.unnamed) identity := by
  cases linked <;> rfl

theorem map_unnamed_findSection? (sections : List Section) :
    (findSection? sections).map Section.unnamed = findSection? (sections.map Section.unnamed) := by
  rw [findSection?, findSection?, List.find?_map]
  rfl

/-! ## The first dynamic table -/

/-- The outcome of decoding the dynamic table of the first section that holds one. -/
def outcome (image : Image) (sections : List Section) (identity : Identity) :
    Except Fault (List DynamicEntry) :=
  match findSection? sections with
  | none => .ok []
  | some header => decodeSection image header (Section.linked? sections header) identity

section Outcome

variable {sections leftSections rightSections : List Section}

theorem outcome_of_find {found : Section} (image : Image) (identity : Identity)
    (found_eq : findSection? sections = some found) :
    outcome image sections identity =
      decodeSection image found (Section.linked? sections found) identity := by
  rw [outcome, found_eq]

/-- The dynamic table can be told without the names of sections. -/
theorem outcome_unnamed (image : Image) (identity : Identity)
    (same_sections : leftSections.map Section.unnamed = rightSections.map Section.unnamed) :
    outcome image leftSections identity = outcome image rightSections identity := by
  have same_find : (findSection? leftSections).map Section.unnamed =
      (findSection? rightSections).map Section.unnamed := by
    rw [map_unnamed_findSection?, map_unnamed_findSection?, same_sections]
  cases left_found : findSection? leftSections with
  | none =>
      rw [left_found, Option.map_none, eq_comm, Option.map_eq_none_iff] at same_find
      rw [outcome, outcome, left_found, same_find]
  | some leftHeader =>
      rw [left_found, Option.map_some, eq_comm, Option.map_eq_some_iff] at same_find
      obtain ⟨rightHeader, right_found, same_header⟩ := same_find
      have same_linked : (Section.linked? leftSections leftHeader).map Section.unnamed =
          (Section.linked? rightSections rightHeader).map Section.unnamed := by
        rw [Section.map_unnamed_linked?, Section.map_unnamed_linked?, same_sections, same_header]
      rw [outcome_of_find image identity left_found, outcome_of_find image identity right_found,
        decodeSection_unnamed, same_linked, ← same_header, ← decodeSection_unnamed]

/-- The dynamic table depends on the range of its section and that of the linked one alone. -/
theorem outcome_congr {left right : Image} (identity : Identity)
    (offset_nonneg : ∀ found ∈ sections, 0 ≤ found.fileOffset) (same_size : left.size = right.size)
    (agree : ∀ found ∈ findSection? sections, left.AgreeOn right found.extent ∧
      ∀ linked ∈ Section.linked? sections found, left.AgreeOn right linked.extent) :
    outcome left sections identity = outcome right sections identity := by
  cases found_eq : findSection? sections with
  | none => rw [outcome, outcome, found_eq]
  | some found =>
      obtain ⟨found_agree, linked_agree⟩ := agree found found_eq
      rw [outcome_of_find left identity found_eq, outcome_of_find right identity found_eq]
      exact decodeSection_congr (offset_nonneg found (List.mem_of_find?_eq_some found_eq))
        (fun linked linked_eq => offset_nonneg linked (Section.mem_of_linked? linked_eq)) same_size
        found_agree linked_agree

theorem outcome_cut {short long : Image} (identity : Identity)
    (offset_nonneg : ∀ found ∈ sections, 0 ≤ found.fileOffset)
    (cut : short.toList <+: long.toList) :
    Fault.CutFrom (outcome short sections identity) (outcome long sections identity) ∨
      ∃ shortEntries longEntries,
        outcome short sections identity = .ok shortEntries ∧
          outcome long sections identity = .ok longEntries ∧
            NamesOverran shortEntries longEntries := by
  cases found_eq : findSection? sections with
  | none =>
      rw [outcome, outcome, found_eq]
      exact .inl (.inl rfl)
  | some found =>
      rw [outcome_of_find short identity found_eq, outcome_of_find long identity found_eq]
      exact decodeSection_cut identity
        (offset_nonneg found (List.mem_of_find?_eq_some found_eq))
        (fun linked linked_eq => offset_nonneg linked (Section.mem_of_linked? linked_eq)) cut

end Outcome

end DynamicEntry
end ElfInspect
