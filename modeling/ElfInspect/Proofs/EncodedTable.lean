import ElfInspect.Proofs.Headers

/-!
# Tables as a file stores them

A stored table is a list of records written at equal distances.  Reading such a table gives the
values that were written, and writing the values of a table that could be read gives the bytes from
which they came.
-/

namespace ElfInspect

/-- A table as a file stores it. -/
structure EncodedTable (ι : Type) where
  /-- Where the table starts. -/
  offset : Nat
  /-- The distance between entries. -/
  entrySize : Nat
  /-- The values of the fields of each entry. -/
  values : List (ι → Nat)

namespace EncodedTable

variable {ι : Type}

/-- Every entry can be written, and none reaches into the next one. -/
structure WellFormed (table : EncodedTable ι) (struct : Struct ι) : Prop where
  fits : ∀ value ∈ table.values, struct.Fits value
  size_le : table.values ≠ [] → struct.size ≤ table.entrySize

instance (table : EncodedTable ι) (struct : Struct ι) : Decidable (table.WellFormed struct) :=
  decidable_of_iff
    ((∀ value ∈ table.values, struct.Fits value) ∧
      (table.values ≠ [] → struct.size ≤ table.entrySize))
    ⟨fun ⟨fits, size_le⟩ => ⟨fits, size_le⟩, fun ⟨fits, size_le⟩ => ⟨fits, size_le⟩⟩

/-- The image has the encoding of each entry at its place. -/
def HeldBy (table : EncodedTable ι) (struct : Struct ι) (image : Image) (order : ByteOrder) :
    Prop :=
  ∀ (index : Nat) (value : ι → Nat), table.values[index]? = some value →
    image.Holds (table.offset + index * table.entrySize) (struct.encode order value)

instance (table : EncodedTable ι) (struct : Struct ι) (image : Image) (order : ByteOrder) :
    Decidable (table.HeldBy struct image order) :=
  decidable_of_iff
    (∀ index, (index_lt : index < table.values.length) →
      image.Holds (table.offset + index * table.entrySize)
        (struct.encode order table.values[index]))
    ⟨fun held index _ found =>
        (List.getElem?_eq_some_iff.mp found).2 ▸ held index (List.getElem?_eq_some_iff.mp found).1,
      fun held index index_lt => held index _ (List.getElem?_eq_getElem index_lt)⟩

/-- The last entry with all its bytes lies inside the image. -/
def EndsInside (table : EncodedTable ι) (image : Image) : Prop :=
  table.values ≠ [] → table.offset + table.entrySize * table.values.length ≤ image.size

instance (table : EncodedTable ι) (image : Image) : Decidable (table.EndsInside image) :=
  inferInstanceAs (Decidable (table.values ≠ [] → _))

/-- The table is in the image, and inside it. -/
structure Stored (table : EncodedTable ι) (struct : Struct ι) (image : Image)
    (order : ByteOrder) : Prop where
  wellFormed : table.WellFormed struct
  inside : table.EndsInside image
  held : table.HeldBy struct image order

/-- The values of the entries as they are read. -/
def decoded (table : EncodedTable ι) : List (ι → Int) :=
  table.values.map fun value name => (value name : Int)

/-- The table as a file header declares it. -/
def declared (table : EncodedTable ι) (entryName : String) : HeaderTable :=
  { entryName := entryName
    offset := table.offset
    entrySize := table.entrySize
    count := table.values.length }

section Extents

variable {struct : Struct ι} {table : EncodedTable ι} {image : Image}

theorem entry_stop_le {index : Nat} (size_le : struct.size ≤ table.entrySize)
    (index_lt : index < table.values.length) :
    table.offset + index * table.entrySize + struct.size ≤
      table.offset + table.entrySize * table.values.length := by
  have stop_le : (index + 1) * table.entrySize ≤ table.values.length * table.entrySize :=
    Nat.mul_le_mul_right table.entrySize index_lt
  rw [Nat.add_mul, Nat.one_mul, Nat.mul_comm table.values.length] at stop_le
  omega

/-- There is no fault in a table whose entries are large enough and end inside the image. -/
theorem fault?_declared_eq_none_iff (entryName : String) :
    (table.declared entryName).fault? (struct.layout 0).size image.size = none ↔
      (table.values ≠ [] → struct.size ≤ table.entrySize) ∧ table.EndsInside image := by
  rw [HeaderTable.fault?]
  by_cases no_entries : table.values = []
  · simp [declared, EndsInside, no_entries]
  · have entries : ¬(table.declared entryName).count = 0 := by simpa [declared] using no_entries
    rw [if_neg entries, Table.fault?_layout_eq_none_iff]
    simp only [declared, EndsInside, no_entries, ne_eq, not_false_eq_true, forall_const]
    rw [← Int.natCast_mul]
    omega

end Extents

variable [DecidableEq ι] {struct : Struct ι} {table : EncodedTable ι} {image : Image}
  {order : ByteOrder}

theorem getElem?_values (index : Nat) (entryName : String) :
    ((table.declared entryName).values (struct.layout 0) image order)[index]? =
      if index < table.values.length then
        some ((struct.layout 0).valueAt image order
          ((table.offset + index * table.entrySize : Nat) : Int))
      else none := by
  simp only [HeaderTable.values, Table.values, declared, List.getElem?_map, Int.toNat_natCast]
  split
  · rename_i inside
    rw [List.getElem?_range inside]
    simp
  · rename_i outside
    rw [List.getElem?_eq_none (by simpa using outside)]
    rfl

/-- An entry is held where its values are read. -/
theorem holds_entry_iff (wellFormed : table.WellFormed struct) (inside : table.EndsInside image)
    {index : Nat} {value : ι → Nat} (found : table.values[index]? = some value) :
    image.Holds (table.offset + index * table.entrySize) (struct.encode order value) ↔
      (struct.layout 0).valueAt image order
          ((table.offset + index * table.entrySize : Nat) : Int) =
        fun name => (value name : Int) := by
  obtain ⟨index_lt, _⟩ := List.getElem?_eq_some_iff.mp found
  have nonempty : table.values ≠ [] := List.ne_nil_of_length_pos (by omega)
  have stop_le := entry_stop_le (wellFormed.size_le nonempty) index_lt
  have table_inside := inside nonempty
  obtain ⟨base, base_eq⟩ : ∃ base, base = table.offset + index * table.entrySize := ⟨_, rfl⟩
  have encode_iff : image.Holds (base + 0) (struct.encode order value) ↔
      (base : Int) + (struct.layout 0).size ≤ image.size ∧
        (struct.layout 0).valueAt image order base = fun name => (value name : Int) :=
    Struct.holds_encode_iff (wellFormed.fits value (List.mem_of_getElem? found))
  have entry_inside : (base : Int) + (struct.layout 0).size ≤ image.size := by
    rw [Struct.layout_size]
    omega
  rw [← base_eq, ← Nat.add_zero base, encode_iff, and_iff_right entry_inside, Nat.add_zero]

/-- A stored table is held exactly where its values are read. -/
theorem heldBy_iff (entryName : String) (wellFormed : table.WellFormed struct)
    (inside : table.EndsInside image) :
    table.HeldBy struct image order ↔
      (table.declared entryName).values (struct.layout 0) image order = table.decoded := by
  constructor
  · intro held
    apply List.ext_getElem?
    intro index
    rw [getElem?_values, decoded, List.getElem?_map]
    cases found : table.values[index]? with
    | none =>
        rw [if_neg (by simpa using found)]
        rfl
    | some value =>
        obtain ⟨index_lt, _⟩ := List.getElem?_eq_some_iff.mp found
        rw [if_pos index_lt,
          (holds_entry_iff wellFormed inside found).mp (held index value found)]
        rfl
  · intro values_eq index value found
    obtain ⟨index_lt, _⟩ := List.getElem?_eq_some_iff.mp found
    have entry_eq := congrArg (·[index]?) values_eq
    simp only [getElem?_values, if_pos index_lt, decoded, List.getElem?_map, found,
      Option.map_some, Option.some.injEq] at entry_eq
    exact (holds_entry_iff wellFormed inside found).mpr entry_eq

/-- Values that are read from an image can be written again. -/
theorem wellFormed_of_read {entryName : String}
    (read : (table.declared entryName).values (struct.layout 0) image order = table.decoded)
    (size_le : table.values ≠ [] → struct.size ≤ table.entrySize)
    (inside : table.EndsInside image) : table.WellFormed struct := by
  refine ⟨?_, size_le⟩
  intro value member
  obtain ⟨index, found⟩ := List.mem_iff_getElem?.mp member
  obtain ⟨index_lt, _⟩ := List.getElem?_eq_some_iff.mp found
  have nonempty : table.values ≠ [] := List.ne_nil_of_length_pos (by omega)
  have stop_le := entry_stop_le (size_le nonempty) index_lt
  have table_inside := inside nonempty
  have entry_eq := congrArg (·[index]?) read
  simp only [getElem?_values, if_pos index_lt, decoded, List.getElem?_map, found,
    Option.map_some, Option.some.injEq] at entry_eq
  have value_eq : value = fun name => ((struct.layout 0).valueAt image order
      ((table.offset + index * table.entrySize : Nat) : Int) name).toNat := by
    rw [entry_eq]
    simp only [Int.toNat_natCast]
  rw [value_eq]
  apply Struct.fits_valueAt
  rw [Struct.layout_size]
  omega

end EncodedTable

/-! ## Writing a table again -/

namespace HeaderTable

variable {ι : Type} [DecidableEq ι] {table : HeaderTable} {struct : Struct ι}

/-- The table that an image stores where a file header declares one. -/
def encoded (table : HeaderTable) (layout : Layout ι) (image : Image) (order : ByteOrder) :
    EncodedTable ι :=
  { offset := table.offset.toNat
    entrySize := table.entrySize.toNat
    values := (table.values layout image order).map fun value name => (value name).toNat }

section Encoded

variable (layout : Layout ι) (image : Image) (order : ByteOrder)

theorem length_encoded (count_nonneg : 0 ≤ table.count) :
    ((table.encoded layout image order).values.length : Int) = table.count := by
  simp [encoded, values, Table.values, Int.toNat_of_nonneg count_nonneg]

theorem decoded_encoded :
    (table.encoded layout image order).decoded = table.values layout image order := by
  rw [EncodedTable.decoded, encoded, List.map_map]
  conv => rhs; rw [← List.map_id (table.values layout image order)]
  apply List.map_congr_left
  intro value member
  funext name
  exact Int.toNat_of_nonneg (Table.values_nonneg member name)

theorem declared_encoded (offset_nonneg : 0 ≤ table.offset) (size_nonneg : 0 ≤ table.entrySize)
    (count_nonneg : 0 ≤ table.count) :
    (table.encoded layout image order).declared table.entryName = table := by
  rw [EncodedTable.declared, length_encoded layout image order count_nonneg]
  simp only [encoded, Int.toNat_of_nonneg offset_nonneg, Int.toNat_of_nonneg size_nonneg]

end Encoded

/-- A table that can be read is stored, byte by byte. -/
theorem stored_of_no_fault (image : Image) (order : ByteOrder) (offset_nonneg : 0 ≤ table.offset)
    (size_nonneg : 0 ≤ table.entrySize) (count_nonneg : 0 ≤ table.count)
    (no_fault : table.fault? (struct.layout 0).size image.size = none) :
    (table.encoded (struct.layout 0) image order).Stored struct image order := by
  have declared_eq := declared_encoded (struct.layout 0) image order offset_nonneg size_nonneg
    count_nonneg
  have read : ((table.encoded (struct.layout 0) image order).declared table.entryName).values
      (struct.layout 0) image order = (table.encoded (struct.layout 0) image order).decoded := by
    rw [declared_eq, decoded_encoded]
  rw [← declared_eq] at no_fault
  obtain ⟨size_le, inside⟩ :=
    (EncodedTable.fault?_declared_eq_none_iff table.entryName).mp no_fault
  have wellFormed := EncodedTable.wellFormed_of_read read size_le inside
  exact ⟨wellFormed, inside,
    (EncodedTable.heldBy_iff table.entryName wellFormed inside).mpr read⟩

/-- The entries of a decoded header table come from values that fit into its records. -/
theorem fits_of_mem {α : Type} {build : Int → (ι → Int) → α} {image : Image} {order : ByteOrder}
    {entry : α} (offset_nonneg : 0 ≤ table.offset) (size_nonneg : 0 ≤ table.entrySize)
    (count_nonneg : 0 ≤ table.count)
    (member : entry ∈ Fault.entries ((table.read (struct.layout 0) image order).map
      fun records => records.mapIdx fun index record => build index record.get)) :
    ∃ index value, entry = build index value ∧ (∀ name, 0 ≤ value name) ∧
      struct.Fits fun name => (value name).toNat := by
  rw [decode_eq build image order Struct.layout_sound offset_nonneg] at member
  cases no_fault : table.fault? (struct.layout 0).size image.size with
  | some fault =>
      rw [no_fault] at member
      contradiction
  | none =>
      rw [no_fault] at member
      obtain ⟨index, inside, rfl⟩ := List.mem_mapIdx.mp member
      have value_mem := List.getElem_mem inside
      obtain ⟨wellFormed, _⟩ := stored_of_no_fault image order offset_nonneg size_nonneg
        count_nonneg no_fault
      exact ⟨index, _, rfl, Table.values_nonneg value_mem,
        wellFormed.fits _ (List.mem_map_of_mem value_mem)⟩

end HeaderTable
end ElfInspect
