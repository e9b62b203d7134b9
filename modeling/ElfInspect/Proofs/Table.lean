import ElfInspect.Proofs.Bytes.Record
import ElfInspect.Table

/-!
# What reading a table gives

Whether a table can be read is settled by its declared size and the length of the image alone:
`Table.fault?` names the one fault there may be.  Without a fault no read inside the table fails,
and the table has the values of its entries, one for each stride.
-/

namespace ElfInspect

namespace Fault

/-- The outcome that a fault prevents, if there is one. -/
def outcome {α : Type} : (fault : Option Fault) → (value : α) → Except Fault α
  | some fault, _ => .error fault
  | none, value => .ok value

/-- The entries of a table, none if it could not be read. -/
def entries {α : Type} : Except Fault (List α) → List α
  | .ok found => found
  | .error _ => []

/-- The trace that the outcome of reading a table leaves. -/
def trace? {α : Type} (field : String) : Except Fault α → Option Marker
  | .ok _ => none
  | .error fault => some (fault.marker field)

/-- The outcome on a shorter image is the one on the longer image, or an overrun. -/
def CutFrom {α : Type} (short long : Except Fault α) : Prop :=
  short = long ∨ ∃ overrun, short = .error (.outOfBounds overrun)

/-- The kinds of fault that decoding recovers from. -/
def recoverable : List String :=
  ["OutOfBounds", "BadStringOffset", "DivisionInvariant", "BadEntrySize"]

theorem eq_some_of_outcome {α : Type} {fault? : Option Fault} {value : α} {fault : Fault}
    (failed : outcome fault? value = .error fault) : fault? = some fault := by
  cases fault? with
  | none => contradiction
  | some found => rw [Except.error.inj failed]

theorem mem_trace? {α : Type} {field : String} {found : Except Fault α} {marker : Marker}
    (member : marker ∈ (trace? field found).toList) :
    ∃ fault, found = .error fault ∧ marker = fault.marker field := by
  cases found with
  | ok value => contradiction
  | error fault => exact ⟨fault, rfl, List.mem_singleton.mp member⟩

theorem entries_outcome {α : Type} {fault? : Option Fault} {value : List α}
    (no_fault : fault? = none) : entries (outcome fault? value) = value := by
  rw [no_fault]
  rfl

@[simp]
theorem trace?_outcome {α : Type} (field : String) (fault? : Option Fault) (value : α) :
    trace? field (outcome fault? value) = fault?.map fun fault => fault.marker field := by
  cases fault? <;> rfl

@[simp]
theorem map_outcome {α β : Type} (convert : α → β) (fault : Option Fault) (value : α) :
    (outcome fault value).map convert = outcome fault (convert value) := by
  cases fault <;> rfl

end Fault

namespace Table

/-- The entries up to the first that is the last, and that one. -/
def upTo {α : Type} (isLast : α → Bool) : List α → List α
  | [] => []
  | entry :: rest => if isLast entry then [entry] else entry :: upTo isLast rest

/-- What keeps a table from being read. -/
def fault? (table : String) (recordSize length offset entrySize count : Int) : Option Fault :=
  if entrySize = 0 then some (.zeroEntrySize table)
  else if entrySize < recordSize then some (.shortEntrySize table entrySize recordSize)
  else if length < offset + entrySize * count then
    some (.outOfBounds
      { subject := table, offset := offset, width := entrySize * count, length := length })
  else none

/-- The values of the fields of each entry. -/
def values {ι : Type} [DecidableEq ι] (layout : Layout ι) (image : Image) (order : ByteOrder)
    (offset entrySize count : Int) : List (ι → Int) :=
  (List.range count.toNat).map fun index : Nat =>
    layout.valueAt image order (offset + index * entrySize)

section Collecting

variable {α β : Type} {isLast : α → Bool}

theorem upTo_never (entries : List α) : upTo (fun _ => false) entries = entries := by
  induction entries with
  | nil => rfl
  | cons entry rest induction => simp [upTo, induction]

theorem upTo_map (isLast : β → Bool) (convert : α → β) (entries : List α) :
    upTo isLast (entries.map convert) = (upTo (isLast ∘ convert) entries).map convert := by
  induction entries with
  | nil => rfl
  | cons entry rest induction =>
      by_cases last : isLast (convert entry) <;> simp [upTo, last, induction]

/-- Entries up to the last one are a front that has no last entry but at its end, and that has
one there unless it is the whole. -/
theorem upTo_eq_iff {entries front : List α} :
    upTo isLast entries = front ↔
      ∃ back, entries = front ++ back ∧ (∀ entry ∈ front.dropLast, isLast entry = false) ∧
        (back = [] ∨ ∃ entry, front.getLast? = some entry ∧ isLast entry = true) := by
  induction entries generalizing front with
  | nil =>
      constructor
      · rintro rfl
        exact ⟨[], rfl, by simp [upTo], .inl rfl⟩
      · rintro ⟨back, entries_eq, _⟩
        rw [(List.append_eq_nil_iff.mp entries_eq.symm).1, upTo]
  | cons first rest induction =>
      rw [upTo]
      by_cases last : isLast first = true
      · rw [if_pos last]
        constructor
        · rintro rfl
          exact ⟨rest, rfl, by simp, .inr ⟨first, rfl, last⟩⟩
        · rintro ⟨back, entries_eq, unended, ending⟩
          match front with
          | [] => simp_all
          | [_] => rw [(List.cons.inj entries_eq).1]
          | _ :: _ :: _ =>
              obtain ⟨rfl, _⟩ := List.cons.inj entries_eq
              have first_false := unended first (by simp)
              exact absurd last (by simp [first_false])
      · rw [if_neg last]
        constructor
        · rintro rfl
          obtain ⟨back, rest_eq, unended, ending⟩ := induction.mp rfl
          refine ⟨back, by rw [List.cons_append, ← rest_eq], ?_⟩
          cases front_eq : upTo isLast rest with
          | nil =>
              rw [front_eq] at ending
              exact ⟨by simp, .inl (by simpa using ending)⟩
          | cons next tail =>
              rw [front_eq] at unended ending
              rw [List.dropLast_cons_cons, List.getLast?_cons_cons]
              exact ⟨List.forall_mem_cons.mpr ⟨Bool.eq_false_iff.mpr last, unended⟩, ending⟩
        · rintro ⟨back, entries_eq, unended, ending⟩
          match front with
          | [] => simp_all
          | [_] =>
              obtain ⟨rfl, rfl⟩ := List.cons.inj entries_eq
              obtain rfl : rest = [] := by simpa [last] using ending
              rfl
          | _ :: next :: tail =>
              obtain ⟨rfl, rest_eq⟩ := List.cons.inj entries_eq
              rw [List.dropLast_cons_cons] at unended
              rw [List.getLast?_cons_cons] at ending
              rw [induction.mpr
                ⟨back, rest_eq, (List.forall_mem_cons.mp unended).2, ending⟩]

variable {ε : Type} {read : Nat → Except ε α} {entry : Nat → α}

private theorem collectFrom_of_reads (index : Nat) {remaining : Nat} (collected : List α)
    (reads : ∀ place, index ≤ place → place < index + remaining →
      read place = .ok (entry place)) :
    collectFrom isLast read index remaining collected =
      .ok (collected.reverse ++ upTo isLast ((List.range' index remaining).map entry)) := by
  induction remaining generalizing index collected with
  | zero => simp [collectFrom, upTo]
  | succ remaining induction =>
      have rest := induction (index + 1) (entry index :: collected)
        fun place index_le place_lt => reads place (by omega) (by omega)
      rw [collectFrom, reads index (Nat.le_refl index) (by omega), List.range'_succ,
        List.map_cons, upTo]
      by_cases last : isLast (entry index)
      · simp [last]
      · simp [last, rest]

theorem collectUntil_of_reads (isLast : α → Bool) {count : Nat}
    (reads : ∀ index < count, read index = .ok (entry index)) :
    collectUntil isLast count read = .ok (upTo isLast ((List.range count).map entry)) := by
  rw [collectUntil, collectFrom_of_reads 0 [] fun index _ index_lt => reads index (by omega),
    List.range_eq_range']
  rfl

theorem collect_of_reads {count : Nat} (reads : ∀ index < count, read index = .ok (entry index)) :
    collect count read = .ok ((List.range count).map entry) := by
  have collected := collectUntil_of_reads (fun _ => false) reads
  rwa [upTo_never] at collected

private theorem reads_of_collectFrom (index : Nat) {remaining : Nat} {collected found : List α}
    (found_eq : collectFrom (fun _ => false) read index remaining collected = .ok found) :
    ∃ entries : List α, found = collected.reverse ++ entries ∧ entries.length = remaining ∧
      ∀ (place : Nat) (entry : α), entries[place]? = some entry →
        read (index + place) = .ok entry := by
  induction remaining generalizing index collected with
  | zero => exact ⟨[], by simpa [collectFrom, eq_comm] using found_eq, rfl, by simp⟩
  | succ remaining induction =>
      rw [collectFrom] at found_eq
      cases first_read : read index with
      | error fault =>
          rw [first_read] at found_eq
          contradiction
      | ok first =>
          rw [first_read] at found_eq
          obtain ⟨rest, found_rest, rest_length, rest_reads⟩ := induction (index + 1) found_eq
          refine ⟨first :: rest, by simpa using found_rest, by simp [rest_length], ?_⟩
          intro place entry entry_eq
          cases place with
          | zero =>
              obtain rfl : first = entry := by simpa using entry_eq
              exact first_read
          | succ place =>
              have later := rest_reads place entry (by simpa using entry_eq)
              rwa [Nat.add_right_comm] at later

/-- What has been collected is as long as it should be, and every entry of it has been read. -/
theorem reads_of_collect {count : Nat} {found : List α}
    (found_eq : collect count read = .ok found) :
    found.length = count ∧
      ∀ (index : Nat) (entry : α), found[index]? = some entry → read index = .ok entry := by
  obtain ⟨entries, rfl, entries_length, reads⟩ := reads_of_collectFrom 0 found_eq
  exact ⟨entries_length, by simpa using reads⟩

end Collecting

section Checks

variable {table : String} {recordSize length entrySize count : Int}

theorem check_bind {α : Type} (offset : Int) (next : Except Fault α) :
    (do
        checkEntrySize entrySize recordSize table
        checkExtent length offset entrySize count table
        next) =
      match fault? table recordSize length offset entrySize count with
      | some fault => .error fault
      | none => next := by
  unfold checkEntrySize checkExtent fault?
  by_cases size_zero : entrySize = 0
  · simp only [if_pos size_zero]
    rfl
  · by_cases size_short : entrySize < recordSize
    · simp only [if_neg size_zero, if_pos size_short]
      rfl
    · by_cases too_long : length < offset + entrySize * count
      · simp only [if_neg size_zero, if_neg size_short, if_pos too_long]
        rfl
      · simp only [if_neg size_zero, if_neg size_short, if_neg too_long]
        rfl

theorem fault?_eq_none_iff {offset : Int} :
    fault? table recordSize length offset entrySize count = none ↔
      entrySize ≠ 0 ∧ recordSize ≤ entrySize ∧ offset + entrySize * count ≤ length := by
  unfold fault?
  split
  · simp_all
  · split
    · simp
      omega
    · split
      · simp
        omega
      · simp
        omega

/-- Shorter data can only cause overruns. -/
theorem fault?_cut {offset shorter : Int} (shorter_le : shorter ≤ length) :
    fault? table recordSize shorter offset entrySize count =
        fault? table recordSize length offset entrySize count ∨
      ∃ overrun,
        fault? table recordSize shorter offset entrySize count = some (.outOfBounds overrun) := by
  unfold fault?
  by_cases size_zero : entrySize = 0
  · left
    rw [if_pos size_zero, if_pos size_zero]
  · by_cases size_short : entrySize < recordSize
    · left
      rw [if_neg size_zero, if_neg size_zero, if_pos size_short, if_pos size_short]
    · rw [if_neg size_zero, if_neg size_zero, if_neg size_short, if_neg size_short]
      by_cases too_long : shorter < offset + entrySize * count
      · right
        exact ⟨_, if_pos too_long⟩
      · left
        rw [if_neg too_long, if_neg (by omega)]

theorem kind_of_fault? {offset : Int} {fault : Fault}
    (found : fault? table recordSize length offset entrySize count = some fault) :
    fault.kind ∈ Fault.recoverable := by
  unfold fault? at found
  split at found
  · obtain rfl := Option.some.inj found
    simp [Fault.kind, Fault.recoverable]
  · split at found
    · obtain rfl := Option.some.inj found
      simp [Fault.kind, Fault.recoverable]
    · split at found
      · obtain rfl := Option.some.inj found
        simp [Fault.kind, Fault.recoverable]
      · contradiction

/-- The extent of an entry lies inside that of the table. -/
theorem entry_inside (offset : Int) {index : Nat} (size_nonneg : 0 ≤ entrySize)
    (index_lt : index < count.toNat) :
    offset ≤ offset + index * entrySize ∧
      offset + index * entrySize + entrySize ≤ offset + entrySize * count := by
  have skipped_nonneg : 0 ≤ index * entrySize :=
    Int.mul_nonneg (Int.natCast_nonneg index) size_nonneg
  have stop_le : ((index : Int) + 1) * entrySize ≤ count * entrySize :=
    Int.mul_le_mul_of_nonneg_right (by omega) size_nonneg
  rw [Int.add_mul, Int.one_mul, Int.mul_comm count] at stop_le
  omega

end Checks

section Entries

variable {ι : Type} [DecidableEq ι] {layout : Layout ι} {table : String}
  {offset entrySize count : Int}

theorem values_nonneg {image : Image} {order : ByteOrder} {value : ι → Int}
    (member : value ∈ values layout image order offset entrySize count) (name : ι) :
    0 ≤ value name := by
  obtain ⟨index, _, rfl⟩ := List.mem_map.mp member
  exact Layout.valueAt_nonneg name

theorem mapIdx_values {α : Type} (build : Nat → (ι → Int) → α) (image : Image)
    (order : ByteOrder) :
    (values layout image order offset entrySize count).mapIdx build =
      (List.range count.toNat).map fun index : Nat =>
        build index (layout.valueAt image order (offset + index * entrySize)) := by
  apply List.ext_getElem?
  intro place
  rw [values, List.getElem?_mapIdx, List.getElem?_map, List.getElem?_map, Option.map_map]
  by_cases inside : place < count.toNat
  · rw [List.getElem?_range inside]
    rfl
  · rw [List.getElem?_eq_none (by simpa using inside)]
    rfl

/-- Every entry of a table without a fault can be read, and ends inside the image. -/
theorem read_entry (image : Image) (order : ByteOrder) (sound : layout.Sound)
    (offset_nonneg : 0 ≤ offset)
    (no_fault : fault? table layout.size image.size offset entrySize count = none)
    {index : Nat} (index_lt : index < count.toNat) :
    offset + index * entrySize + entrySize ≤ image.size ∧
      layout.read image order (offset + index * entrySize) =
        .ok (Layout.fill image order (offset + index * entrySize) layout []) := by
  obtain ⟨_, size_le, inside⟩ := fault?_eq_none_iff.mp no_fault
  have size_nonneg : 0 ≤ entrySize := Int.le_trans sound.size_nonneg size_le
  obtain ⟨start_le, stop_le⟩ := entry_inside offset size_nonneg index_lt
  exact ⟨by omega, Layout.read_of_inside sound (by omega) (by omega)⟩

theorem values_congr {left right : Image} {order : ByteOrder} (sound : layout.Sound)
    (offset_nonneg : 0 ≤ offset) (size_le : layout.size ≤ entrySize)
    (agree : left.AgreeOn right ⟨offset, entrySize * count⟩) :
    values layout left order offset entrySize count =
      values layout right order offset entrySize count := by
  apply List.map_congr_left
  intro index index_mem
  have size_nonneg : 0 ≤ entrySize := Int.le_trans sound.size_nonneg size_le
  obtain ⟨start_le, stop_le⟩ := entry_inside offset size_nonneg (List.mem_range.mp index_mem)
  exact Layout.valueAt_congr agree sound (by omega) start_le (by simp only; omega)

end Entries

end Table

namespace HeaderTable

/-- What keeps a header table from being read; a table without entries is never read. -/
def fault? (table : HeaderTable) (recordSize length : Int) : Option Fault :=
  if table.count = 0 then none
  else Table.fault? table.name recordSize length table.offset table.entrySize table.count

/-- The range that a header table declares. -/
def extent (table : HeaderTable) : Extent :=
  { start := table.offset, size := table.entrySize * table.count }

/-- The values of the fields of each entry. -/
def values {ι : Type} [DecidableEq ι] (table : HeaderTable) (layout : Layout ι) (image : Image)
    (order : ByteOrder) : List (ι → Int) :=
  Table.values layout image order table.offset table.entrySize table.count

theorem fault?_cut (table : HeaderTable) (recordSize : Int) {shorter length : Int}
    (shorter_le : shorter ≤ length) :
    table.fault? recordSize shorter = table.fault? recordSize length ∨
      ∃ overrun, table.fault? recordSize shorter = some (.outOfBounds overrun) := by
  unfold fault?
  by_cases no_entries : table.count = 0
  · left
    rw [if_pos no_entries, if_pos no_entries]
  · rw [if_neg no_entries, if_neg no_entries]
    exact Table.fault?_cut shorter_le

theorem kind_of_fault? {table : HeaderTable} {recordSize length : Int} {fault : Fault}
    (found : table.fault? recordSize length = some fault) : fault.kind ∈ Fault.recoverable := by
  unfold fault? at found
  split at found
  · contradiction
  · exact Table.kind_of_fault? found

variable {ι : Type} [DecidableEq ι] {table : HeaderTable} {layout : Layout ι}

/-- The outcome of reading a header table, without any loop. -/
theorem read_eq (image : Image) (order : ByteOrder) (sound : layout.Sound)
    (offset_nonneg : 0 ≤ table.offset) :
    (table.read layout image order).map (List.map Record.get) =
      Fault.outcome (table.fault? layout.size image.size) (table.values layout image order) := by
  rw [read, fault?]
  by_cases no_entries : table.count = 0
  · simp [no_entries, values, Table.values, Except.map, Fault.outcome]
  · rw [if_neg no_entries, if_neg no_entries, Table.check_bind]
    cases found : Table.fault? table.name layout.size image.size table.offset table.entrySize
        table.count with
    | some fault => rfl
    | none =>
        have reads : ∀ index < table.count.toNat,
            table.readEntry layout image order index =
              .ok (Layout.fill image order (table.offset + index * table.entrySize) layout []) := by
          intro index index_lt
          obtain ⟨inside, read⟩ :=
            Table.read_entry image order sound offset_nonneg found index_lt
          rw [readEntry, if_neg (by omega), read]
        have collected := Table.collect_of_reads reads
        simp [collected, Except.map, Fault.outcome, values, Table.values, Function.comp_def,
          Layout.get_fill]

/-- The outcome of decoding a header table entry by entry. -/
theorem decode_eq {α : Type} (build : Int → (ι → Int) → α) (image : Image) (order : ByteOrder)
    (sound : layout.Sound) (offset_nonneg : 0 ≤ table.offset) :
    (table.read layout image order).map
        (fun records => records.mapIdx fun index record => build index record.get) =
      Fault.outcome (table.fault? layout.size image.size)
        ((table.values layout image order).mapIdx fun index value => build index value) := by
  have by_values :
      (fun records : List (Record ι) => records.mapIdx fun index record => build index record.get) =
        (fun values => values.mapIdx fun index value => build index value) ∘
          List.map Record.get := by
    funext records
    apply List.ext_getElem?
    intro place
    simp [Function.comp_def]
  have outcome := congrArg (Except.map fun values => values.mapIdx fun index value =>
      build (index : Int) value)
    (read_eq image order sound offset_nonneg)
  rw [Fault.map_outcome] at outcome
  rw [by_values, ← outcome]
  cases table.read layout image order <;> rfl

/-- A decoded header table has as many entries as it declares, each built for its own place. -/
theorem entries_of_decode {α : Type} {build : Int → (ι → Int) → α} {image : Image}
    {order : ByteOrder} {entries : List α} (sound : layout.Sound) (offset_nonneg : 0 ≤ table.offset)
    (count_nonneg : 0 ≤ table.count)
    (decoded :
      (table.read layout image order).map
          (fun records => records.mapIdx fun index record => build index record.get) =
        .ok entries) :
    (entries.length : Int) = table.count ∧
      ∀ (place : Nat) (entry : α), entries[place]? = some entry →
        ∃ value, entry = build place value := by
  rw [decode_eq build image order sound offset_nonneg] at decoded
  cases fault_eq : table.fault? layout.size image.size with
  | some fault =>
      rw [fault_eq] at decoded
      contradiction
  | none =>
      rw [fault_eq] at decoded
      obtain rfl := Except.ok.inj decoded
      constructor
      · rw [List.length_mapIdx, values, Table.values, List.length_map, List.length_range]
        exact Int.toNat_of_nonneg count_nonneg
      · intro place entry found
        rw [List.getElem?_mapIdx, Option.map_eq_some_iff] at found
        obtain ⟨value, _, rfl⟩ := found
        exact ⟨value, rfl⟩

/-! ## Two images -/

section Comparison

variable {left right short long : Image} {order : ByteOrder}

theorem values_congr (sound : layout.Sound) (offset_nonneg : 0 ≤ table.offset) {length : Int}
    (no_fault : table.fault? layout.size length = none) (agree : left.AgreeOn right table.extent) :
    table.values layout left order = table.values layout right order := by
  rw [fault?] at no_fault
  by_cases no_entries : table.count = 0
  · simp [values, Table.values, no_entries]
  · rw [if_neg no_entries] at no_fault
    obtain ⟨_, size_le, _⟩ := Table.fault?_eq_none_iff.mp no_fault
    exact Table.values_congr sound offset_nonneg size_le agree

theorem agreeOn_extent_of_cut {recordSize : Int} (cut : short.toList <+: long.toList)
    (no_fault : table.fault? recordSize short.size = none) :
    short.AgreeOn long table.extent := by
  rw [fault?] at no_fault
  by_cases no_entries : table.count = 0
  · intro place start_le place_lt
    simp only [extent, no_entries, Int.mul_zero] at start_le place_lt
    omega
  · rw [if_neg no_entries] at no_fault
    obtain ⟨_, _, inside⟩ := Table.fault?_eq_none_iff.mp no_fault
    exact Image.agreeOn_of_cut cut inside

variable {α : Type} (build : List (ι → Int) → α)

/-- What is decoded from a header table depends on its declared range alone. -/
theorem outcome_congr (sound : layout.Sound) (offset_nonneg : 0 ≤ table.offset)
    (same_size : left.size = right.size) (agree : left.AgreeOn right table.extent) :
    Fault.outcome (table.fault? layout.size left.size) (build (table.values layout left order)) =
      Fault.outcome (table.fault? layout.size right.size)
        (build (table.values layout right order)) := by
  rw [same_size]
  cases found : table.fault? layout.size right.size with
  | some fault => rw [Fault.outcome, Fault.outcome]
  | none => rw [values_congr sound offset_nonneg found agree]

/-- A header table of a shorter image is the same or overruns it. -/
theorem outcome_cut (sound : layout.Sound) (offset_nonneg : 0 ≤ table.offset)
    (cut : short.toList <+: long.toList) :
    Fault.CutFrom
      (Fault.outcome (table.fault? layout.size short.size)
        (build (table.values layout short order)))
      (Fault.outcome (table.fault? layout.size long.size)
        (build (table.values layout long order))) := by
  have size_le : (short.size : Int) ≤ long.size := by
    exact_mod_cast Image.size_le_of_cut cut
  rcases fault?_cut table layout.size size_le with same | ⟨overrun, lost⟩
  · left
    rw [← same]
    cases found : table.fault? layout.size short.size with
    | some fault => rw [Fault.outcome, Fault.outcome]
    | none => rw [values_congr sound offset_nonneg found (agreeOn_extent_of_cut cut found)]
  · right
    rw [lost]
    exact ⟨overrun, rfl⟩

end Comparison

end HeaderTable
end ElfInspect
