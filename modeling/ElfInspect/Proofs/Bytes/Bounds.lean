import Mathlib
import ElfInspect.Proofs.Bytes.Record

/-!
# The bounds of a record

A record is read exactly if the image reaches to the end of its layout.  Of fields with one name the
last one counts, and of fields that end outside the image the first one.
-/

namespace ElfInspect

/-- The overrun of a field of the record at a place. -/
def Field.overrun {ι : Type} (field : Field ι) (image : Image) (base : Int) : Overrun :=
  { subject := "read"
    offset := base + field.offset
    width := field.width
    length := image.size }

namespace Record

variable {ι : Type} [DecidableEq ι]

/-- The names of the fields that a record has. -/
def names (record : Record ι) : List ι := record.map Prod.fst

theorem mem_names_put (record : Record ι) (name other : ι) (value : Int) :
    other ∈ (record.put name value).names ↔ other = name ∨ other ∈ record.names := by
  induction record with
  | nil => simp [put, names]
  | cons field rest induction =>
      obtain ⟨key, known⟩ := field
      simp only [names, List.map_cons] at induction ⊢
      rw [put]
      split
      · rename_i same_name
        subst same_name
        simp
      · rw [List.map_cons, List.mem_cons, induction, List.mem_cons]
        exact or_left_comm

theorem nodup_names_put {record : Record ι} (nodup : record.names.Nodup) (name : ι) (value : Int) :
    (record.put name value).names.Nodup := by
  induction record with
  | nil => simp [put, names]
  | cons field rest induction =>
      obtain ⟨key, known⟩ := field
      obtain ⟨key_new, rest_nodup⟩ := List.nodup_cons.mp nodup
      rw [put]
      split
      · exact nodup
      · rename_i other_name
        refine List.nodup_cons.mpr ⟨?_, induction rest_nodup⟩
        intro member
        obtain same_name | known_name := (mem_names_put rest name key value).mp member
        · exact other_name same_name
        · exact key_new known_name

end Record

namespace Layout

variable {ι : Type}

/-- The field is the first one to end outside the image if the record starts at `base`. -/
def FirstOutside (layout : Layout ι) (image : Image) (base : Int) (field : Field ι) : Prop :=
  ∃ front back, layout = front ++ field :: back ∧
    (∀ earlier ∈ front, base + earlier.offset + earlier.width ≤ image.size) ∧
    image.size < base + field.offset + field.width

theorem sound_of_readable {layout : Layout ι} (nonempty : layout ≠ [])
    (readable : layout.Readable) : layout.Sound where
  readable := readable
  nonempty := nonempty
  size_nonneg := by
    obtain ⟨field, member⟩ := List.exists_mem_of_ne_nil layout nonempty
    obtain ⟨supported, offset_nonneg⟩ := readable field member
    have field_le := (size_le_iff nonempty).mp (Int.le_refl _) field member
    omega

theorem exists_firstOutside_of_mem {layout : Layout ι} {image : Image} {base : Int}
    {field : Field ι} (member : field ∈ layout)
    (outside : image.size < base + field.offset + field.width) :
    ∃ first, layout.FirstOutside image base first := by
  induction layout with
  | nil => contradiction
  | cons head rest induction =>
      by_cases head_outside : image.size < base + head.offset + head.width
      · exact ⟨head, [], rest, rfl, nofun, head_outside⟩
      · have later : field ∈ rest := by
          obtain rfl | later := List.mem_cons.mp member
          · contradiction
          · exact later
        obtain ⟨first, front, back, rfl, front_inside, first_outside⟩ := induction later
        exact ⟨first, head :: front, back, rfl,
          List.forall_mem_cons.mpr ⟨Int.not_lt.mp head_outside, front_inside⟩, first_outside⟩

theorem exists_firstOutside {layout : Layout ι} {image : Image} {base : Int}
    (nonempty : layout ≠ []) (outside : image.size < base + layout.size) :
    ∃ field, layout.FirstOutside image base field := by
  by_cases inside : ∀ field ∈ layout, field.offset + field.width ≤ image.size - base
  · have size_le := (size_le_iff nonempty).mpr inside
    omega
  · simp only [Classical.not_forall] at inside
    obtain ⟨field, member, field_outside⟩ := inside
    exact exists_firstOutside_of_mem member (by omega)

variable [DecidableEq ι]

/-- A record has the names of a layout, each with the value of the last field of that name. -/
structure Gives (layout : Layout ι) (image : Image) (order : ByteOrder) (base : Int)
    (record : Record ι) : Prop where
  nodup : record.names.Nodup
  mem_names_iff : ∀ name, name ∈ record.names ↔ name ∈ layout.map Field.name
  last : ∀ front field back, layout = front ++ field :: back →
    field.name ∉ back.map Field.name →
    ∃ value, image.unsigned order (base + field.offset) field.width = .ok value ∧
      record.value? field.name = some value

variable {layout : Layout ι} {image : Image} {order : ByteOrder} {base : Int}

theorem mem_names_fill (record : Record ι) (name : ι) :
    name ∈ (fill image order base layout record).names ↔
      name ∈ layout.map Field.name ∨ name ∈ record.names := by
  induction layout generalizing record with
  | nil => simp [fill]
  | cons field rest induction =>
      rw [fill, List.foldl_cons, ← fill, induction, Record.mem_names_put, List.map_cons,
        List.mem_cons]
      exact or_left_comm.trans or_assoc.symm

theorem nodup_names_fill {record : Record ι} (nodup : record.names.Nodup) :
    (fill image order base layout record).names.Nodup := by
  induction layout generalizing record with
  | nil => exact nodup
  | cons field rest induction =>
      rw [fill, List.foldl_cons, ← fill]
      exact induction (Record.nodup_names_put nodup _ _)

theorem lastField?_append {front back : Layout ι} {field : Field ι}
    (last : field.name ∉ back.map Field.name) :
    lastField? field.name (front ++ field :: back) = some field := by
  induction front with
  | nil =>
      rw [List.nil_append, lastField?]
      cases found : lastField? field.name back with
      | none => simp
      | some later =>
          obtain ⟨later_mem, later_name⟩ := lastField?_mem found
          exact absurd (later_name ▸ List.mem_map_of_mem later_mem) last
  | cons first rest induction => rw [List.cons_append, lastField?, induction]

theorem gives_fill (sound : layout.Sound) (nonneg : 0 ≤ base)
    (inside : base + layout.size ≤ image.size) :
    layout.Gives image order base (fill image order base layout []) := by
  refine ⟨nodup_names_fill List.nodup_nil, ?_, ?_⟩
  · intro name
    rw [mem_names_fill]
    simp [Record.names]
  · rintro front field back rfl last
    have member : field ∈ front ++ field :: back := List.mem_append_right front List.mem_cons_self
    obtain ⟨supported, offset_nonneg⟩ := sound.readable field member
    have field_le := (size_le_iff sound.nonempty).mp (Int.le_refl _) field member
    refine ⟨_, Image.unsigned_of_inside supported (by omega) (by omega), ?_⟩
    rw [value?_fill, lastField?_append last]

theorem read_of_firstOutside {field : Field ι} (readable : layout.Readable) (nonneg : 0 ≤ base)
    (first : layout.FirstOutside image base field) :
    layout.read image order base = .error (.outOfBounds (field.overrun image base)) := by
  obtain ⟨front, back, rfl, front_inside, outside⟩ := first
  have front_read : front.read image order base = .ok (fill image order base front []) :=
    read_of_fields_inside (fun earlier member => readable earlier (List.mem_append_left _ member))
      nonneg front_inside
  obtain ⟨supported, _⟩ := readable field (List.mem_append_right front List.mem_cons_self)
  rw [read] at front_read ⊢
  rw [List.foldlM_append, front_read]
  simp only [List.foldlM_cons, Image.unsigned_of_outside supported outside, bind, Except.bind,
    Field.overrun]

/-- A record is read exactly if it ends inside the image.  Then it gives each name the value of the
last field of that name; otherwise the first field that ends outside is what fails. -/
theorem reads_within_size (nonempty : layout ≠ []) (readable : layout.Readable)
    (nonneg : 0 ≤ base) :
    ((∃ record, layout.read image order base = .ok record) ↔ base + layout.size ≤ image.size) ∧
      (∀ record, layout.read image order base = .ok record →
        layout.Gives image order base record) ∧
      (∀ fault, layout.read image order base = .error fault →
        ∃ field, layout.FirstOutside image base field ∧
          fault = .outOfBounds (field.overrun image base)) := by
  have sound := sound_of_readable nonempty readable
  by_cases inside : base + layout.size ≤ image.size
  · have read_eq : layout.read image order base = .ok (fill image order base layout []) :=
      read_of_inside sound nonneg inside
    refine ⟨⟨fun _ => inside, fun _ => ⟨_, read_eq⟩⟩, ?_, ?_⟩
    · intro record read
      obtain rfl := Except.ok.inj (read_eq.symm.trans read)
      exact gives_fill sound nonneg inside
    · intro fault read
      rw [read_eq] at read
      contradiction
  · obtain ⟨field, first⟩ := exists_firstOutside nonempty (Int.not_le.mp inside)
    have read_eq : layout.read image order base =
        .error (.outOfBounds (field.overrun image base)) :=
      read_of_firstOutside readable nonneg first
    refine ⟨⟨?_, fun inside_size => absurd inside_size inside⟩, ?_, ?_⟩
    · rintro ⟨record, read⟩
      rw [read_eq] at read
      contradiction
    · intro record read
      rw [read_eq] at read
      contradiction
    · intro fault read
      exact ⟨field, first, Except.error.inj (read.symm.trans read_eq)⟩

/-- A layout in no order of places, with a gap, an overlap and a name that comes twice. -/
def scatteredLayout : Layout Nat := [⟨0, 6, 2⟩, ⟨1, 0, 4⟩, ⟨0, 2, 1⟩, ⟨2, 7, 1⟩]

/-- At its first place the record is read, and `0` has the value of the byte; one byte later the
word that is read first ends outside, and so does the last byte. -/
theorem scattered_reads_within_size :
    let image := Image.ofList [1, 2, 3, 4, 5, 6, 7, 8]
    scatteredLayout ≠ [] ∧ scatteredLayout.Readable ∧
      scatteredLayout.read image .little 0 = .ok [(0, 3), (1, 0x04030201), (2, 8)] ∧
      scatteredLayout.Gives image .little 0 [(0, 3), (1, 0x04030201), (2, 8)] ∧
      ∃ field, scatteredLayout.FirstOutside image 1 field ∧
        scatteredLayout.read image .little 1 = .error (.outOfBounds (field.overrun image 1)) := by
  intro image
  have nonempty : scatteredLayout ≠ [] := by decide
  have readable : scatteredLayout.Readable := by decide
  have read : scatteredLayout.read image .little 0 = .ok [(0, 3), (1, 0x04030201), (2, 8)] := by
    cbv
  have failed : scatteredLayout.read image .little 1 =
      .error (.outOfBounds ⟨"read", 7, 2, 8⟩) := by
    cbv
  have gives := (reads_within_size nonempty readable (Int.le_refl 0)).2.1 _ read
  obtain ⟨field, first, fault_eq⟩ :=
    (reads_within_size nonempty readable (Int.le_of_lt Int.one_pos)).2.2 _ failed
  exact ⟨nonempty, readable, read, gives, field, first, failed.trans (congrArg _ fault_eq)⟩

end Layout
end ElfInspect
