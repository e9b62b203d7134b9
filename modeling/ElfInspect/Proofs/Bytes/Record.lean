import ElfInspect.Bytes.Record
import ElfInspect.Proofs.Bytes.Extent
import ElfInspect.Proofs.Bytes.Word

/-!
# What reading a record gives

Reading succeeds exactly when the image reaches to the end of the layout, and then every field has
the word at its own place as its value.  So a record depends on no byte outside its layout.
-/

namespace ElfInspect

namespace Image

/-- The number whose bytes start at an offset. -/
def wordAt (image : Image) (order : ByteOrder) (offset width : Int) : Nat :=
  Word.decode order (image.slice offset.toNat (offset + width).toNat)

theorem wordAt_natCast (image : Image) (order : ByteOrder) (place width : Nat) :
    image.wordAt order place width = Word.decode order (image.slice place (place + width)) := by
  have stop_eq : ((place : Int) + width).toNat = place + width := by omega
  rw [wordAt, stop_eq, Int.toNat_natCast]

section Words

variable {image left right : Image} {order : ByteOrder} {offset width : Int}

theorem word_of_inside (supported : width = 1 ∨ width = 2 ∨ width = 4 ∨ width = 8)
    (nonneg : 0 ≤ offset) (inside : offset + width ≤ image.size) :
    image.word order offset width = .ok (image.wordAt order offset width) := by
  rw [word, if_pos supported, if_pos ⟨nonneg, inside⟩, wordAt]

theorem unsigned_of_inside (supported : width = 1 ∨ width = 2 ∨ width = 4 ∨ width = 8)
    (nonneg : 0 ≤ offset) (inside : offset + width ≤ image.size) :
    image.unsigned order offset width = .ok (image.wordAt order offset width : Int) := by
  rw [unsigned, word_of_inside supported nonneg inside]
  rfl

theorem signed_of_inside (supported : width = 1 ∨ width = 2 ∨ width = 4 ∨ width = 8)
    (nonneg : 0 ≤ offset) (inside : offset + width ≤ image.size) :
    image.signed order offset width =
      .ok (Word.signed width.toNat (image.wordAt order offset width)) := by
  rw [signed, word_of_inside supported nonneg inside]
  rfl

theorem unsigned_of_outside (supported : width = 1 ∨ width = 2 ∨ width = 4 ∨ width = 8)
    (outside : image.size < offset + width) :
    image.unsigned order offset width =
      .error (.outOfBounds
        { subject := "read", offset := offset, width := width, length := image.size }) := by
  rw [unsigned, word, if_pos supported, if_neg (by omega)]
  rfl

theorem inside_of_word {found : Nat} (read : image.word order offset width = .ok found) :
    0 ≤ offset ∧ offset + width ≤ image.size := by
  unfold word at read
  split at read
  · split at read
    · assumption
    · contradiction
  · contradiction

theorem inside_of_unsigned {found : Int} (read : image.unsigned order offset width = .ok found) :
    0 ≤ offset ∧ offset + width ≤ image.size := by
  cases word_read : image.word order offset width with
  | error fault =>
      rw [unsigned, word_read] at read
      contradiction
  | ok number => exact inside_of_word word_read

theorem nonneg_of_unsigned {found : Int} (read : image.unsigned order offset width = .ok found) :
    0 ≤ found := by
  cases word_read : image.word order offset width with
  | error fault =>
      rw [unsigned, word_read] at read
      contradiction
  | ok number =>
      rw [unsigned, word_read] at read
      obtain rfl := Except.ok.inj read
      exact Int.natCast_nonneg number

theorem wordAt_lt {size : Nat} (nonneg : 0 ≤ offset) (inside : offset + size ≤ image.size) :
    image.wordAt order offset size < Word.count size := by
  have bound := Word.decode_lt order (image.slice offset.toNat (offset + size).toNat)
  rwa [length_slice (by omega), show (offset + size).toNat - offset.toNat = size by omega]
    at bound

theorem AgreeOn.wordAt_eq {extent : Extent} (agree : left.AgreeOn right extent)
    (nonneg : 0 ≤ offset + width) (start_le : extent.start ≤ offset)
    (stop_le : offset + width ≤ extent.start + extent.size) :
    left.wordAt order offset width = right.wordAt order offset width := by
  rw [wordAt, wordAt, agree.slice_eq (by omega) (by omega)]

end Words

end Image

namespace Layout

variable {ι : Type}

/-- Every field has a width of words and starts inside the record. -/
def Readable (layout : Layout ι) : Prop :=
  ∀ field ∈ layout,
    (field.width = 1 ∨ field.width = 2 ∨ field.width = 4 ∨ field.width = 8) ∧ 0 ≤ field.offset

instance (layout : Layout ι) : Decidable layout.Readable :=
  inferInstanceAs (Decidable (∀ field ∈ layout, _))

/-- A layout whose records can be read wherever they end inside an image. -/
structure Sound (layout : Layout ι) : Prop where
  readable : layout.Readable
  nonempty : layout ≠ []
  size_nonneg : 0 ≤ layout.size

section Size

variable {layout : Layout ι} {bound : Int}

theorem extent?_isSome (nonempty : layout ≠ []) : ∃ extent, extent? layout = some extent := by
  cases layout with
  | nil => contradiction
  | cons field rest =>
      rw [extent?]
      split <;> exact ⟨_, rfl⟩

theorem size_le_iff (nonempty : layout ≠ []) :
    layout.size ≤ bound ↔ ∀ field ∈ layout, field.offset + field.width ≤ bound := by
  induction layout with
  | nil => contradiction
  | cons field rest induction =>
      by_cases rest_nonempty : rest = []
      · simp [rest_nonempty, size, extent?]
      · obtain ⟨extent, extent_eq⟩ := extent?_isSome rest_nonempty
        have rest_iff := induction rest_nonempty
        simp only [size, extent_eq, Option.getD_some] at rest_iff
        simp only [size, extent?, extent_eq, Option.getD_some, Int.max_le, rest_iff,
          List.mem_cons, forall_eq_or_imp]

/-- A record has at least the one byte of one of its fields. -/
theorem Sound.size_pos (sound : layout.Sound) : 0 < layout.size := by
  obtain ⟨field, member⟩ := List.exists_mem_of_ne_nil layout sound.nonempty
  obtain ⟨supported, offset_nonneg⟩ := sound.readable field member
  have field_le := (size_le_iff sound.nonempty).mp (Int.le_refl _) field member
  omega

end Size

variable [DecidableEq ι]

/-- The field of a name that is read last. -/
def lastField? (name : ι) : Layout ι → Option (Field ι)
  | [] => none
  | field :: rest =>
      match lastField? name rest with
      | some later => some later
      | none => if field.name = name then some field else none

/-- The value of a field in the record at `base`, zero if the layout lacks it. -/
def valueAt (layout : Layout ι) (image : Image) (order : ByteOrder) (base : Int) (name : ι) : Int :=
  match lastField? name layout with
  | some field => image.wordAt order (base + field.offset) field.width
  | none => 0

/-- The record with the values of all fields, set in layout order. -/
def fill (image : Image) (order : ByteOrder) (base : Int) (layout : Layout ι)
    (record : Record ι) : Record ι :=
  layout.foldl
    (fun filled field =>
      filled.put field.name (image.wordAt order (base + field.offset) field.width))
    record

variable {layout : Layout ι} {image left right : Image} {order : ByteOrder} {base : Int}

theorem lastField?_mem {name : ι} {field : Field ι} (found : lastField? name layout = some field) :
    field ∈ layout ∧ field.name = name := by
  induction layout with
  | nil => contradiction
  | cons first rest induction =>
      rw [lastField?] at found
      split at found
      · rename_i later later_found
        obtain ⟨later_mem, later_name⟩ := induction (later_found.trans found)
        exact ⟨List.mem_cons_of_mem first later_mem, later_name⟩
      · split at found
        · rename_i first_name
          obtain rfl := Option.some.inj found
          exact ⟨List.mem_cons_self, first_name⟩
        · contradiction

theorem valueAt_nonneg (name : ι) : 0 ≤ layout.valueAt image order base name := by
  rw [valueAt]
  split
  · exact Int.natCast_nonneg _
  · exact Int.le_refl 0

theorem value?_fill (record : Record ι) (name : ι) :
    Record.value? name (fill image order base layout record) =
      match lastField? name layout with
      | some field => some (image.wordAt order (base + field.offset) field.width : Int)
      | none => Record.value? name record := by
  induction layout generalizing record with
  | nil => rfl
  | cons field rest induction =>
      rw [fill, List.foldl_cons, ← fill, induction, lastField?]
      cases lastField? name rest with
      | some later => rfl
      | none =>
          rw [Record.value?_put]
          by_cases same_name : field.name = name <;> simp [same_name]

theorem get_fill : (fill image order base layout []).get = layout.valueAt image order base := by
  funext name
  rw [Record.get, value?_fill, valueAt]
  cases lastField? name layout <;> rfl

/-! ## Success -/

private theorem foldlM_of_inside (readable : layout.Readable) (nonneg : 0 ≤ base)
    (inside : ∀ field ∈ layout, base + field.offset + field.width ≤ image.size)
    (record : Record ι) :
    layout.foldlM
        (fun record field => do
          let value ← image.unsigned order (base + field.offset) field.width
          return record.put field.name value)
        record =
      (.ok (fill image order base layout record) : Except Fault (Record ι)) := by
  induction layout generalizing record with
  | nil => rfl
  | cons field rest induction =>
      obtain ⟨supported, offset_nonneg⟩ := readable field List.mem_cons_self
      have field_inside := inside field List.mem_cons_self
      rw [List.foldlM_cons, Image.unsigned_of_inside supported (by omega) field_inside]
      exact induction (fun later member => readable later (List.mem_cons_of_mem field member))
        (fun later member => inside later (List.mem_cons_of_mem field member)) _

private theorem inside_of_foldlM {record result : Record ι}
    (read :
      layout.foldlM
          (fun record field => do
            let value ← image.unsigned order (base + field.offset) field.width
            return record.put field.name value)
          record =
        (.ok result : Except Fault (Record ι))) :
    ∀ field ∈ layout,
      0 ≤ base + field.offset ∧ base + field.offset + field.width ≤ image.size := by
  induction layout generalizing record with
  | nil => simp
  | cons first rest induction =>
      rw [List.foldlM_cons] at read
      cases first_read : image.unsigned order (base + first.offset) first.width with
      | error fault =>
          rw [first_read] at read
          contradiction
      | ok value =>
          rw [first_read] at read
          intro field member
          rcases List.mem_cons.mp member with rfl | rest_member
          · exact Image.inside_of_unsigned first_read
          · exact induction read field rest_member

/-- Fields that end inside the image are read, each from its own place. -/
theorem read_of_fields_inside (readable : layout.Readable) (nonneg : 0 ≤ base)
    (inside : ∀ field ∈ layout, base + field.offset + field.width ≤ image.size) :
    layout.read image order base = .ok (fill image order base layout []) :=
  foldlM_of_inside readable nonneg inside []

/-- A record that ends inside the image is read, each field from its own place. -/
theorem read_of_inside (sound : layout.Sound) (nonneg : 0 ≤ base)
    (inside : base + layout.size ≤ image.size) :
    layout.read image order base = .ok (fill image order base layout []) := by
  have size_le : layout.size ≤ image.size - base := by omega
  apply read_of_fields_inside sound.readable nonneg
  intro field member
  have field_le := (size_le_iff sound.nonempty).mp size_le field member
  omega

/-- A record that is read ends inside the image. -/
theorem inside_of_read {record : Record ι} (sound : layout.Sound)
    (read : layout.read image order base = .ok record) : base + layout.size ≤ image.size := by
  have size_le : layout.size ≤ image.size - base := by
    apply (size_le_iff sound.nonempty).mpr
    intro field member
    have field_inside := (inside_of_foldlM read field member).2
    omega
  omega

/-- No field of a record that is read starts before the image. -/
theorem start_nonneg_of_read {record : Record ι}
    (read : layout.read image order base = .ok record) {field : Field ι} (member : field ∈ layout) :
    0 ≤ base + field.offset :=
  (inside_of_foldlM read field member).1

/-! ## Footprint -/

theorem valueAt_congr {extent : Extent} (agree : left.AgreeOn right extent)
    (sound : layout.Sound) (nonneg : 0 ≤ base) (start_le : extent.start ≤ base)
    (stop_le : base + layout.size ≤ extent.start + extent.size) :
    layout.valueAt left order base = layout.valueAt right order base := by
  funext name
  rw [valueAt, valueAt]
  split
  · rename_i field found
    have member := (lastField?_mem found).1
    obtain ⟨supported, offset_nonneg⟩ := sound.readable field member
    have field_le := (size_le_iff sound.nonempty).mp (Int.le_refl _) field member
    rw [agree.wordAt_eq (by omega) (by omega) (by omega)]
  · rfl

end Layout
end ElfInspect
