import ElfInspect.Proofs.Bytes.Record

/-!
# Records as the format declares them

The format declares a record as members that follow one another without a gap.  Writing the members
in turn and reading them through the layout that this order gives are inverse to each other.
-/

namespace ElfInspect

/-- A record as the format declares it. -/
structure Struct (ι : Type) where
  /-- Names and widths of the members in the order in which they are stored. -/
  members : List (ι × Nat)
  members_ne_nil : members ≠ []
  supported : ∀ member ∈ members,
    member.2 = 1 ∨ member.2 = 2 ∨ member.2 = 4 ∨ member.2 = 8
  nodup : (members.map Prod.fst).Nodup
  complete : ∀ name, name ∈ members.map Prod.fst

namespace Struct

variable {ι : Type}

/-- The fields of members stored from a place of the record on. -/
def place : (start : Nat) → List (ι × Nat) → Layout ι
  | _, [] => []
  | start, (name, width) :: rest => ⟨name, start, width⟩ :: place (start + width) rest

/-- The number of bytes that members take. -/
def total : List (ι × Nat) → Nat
  | [] => 0
  | (_, width) :: rest => width + total rest

/-- The bytes of members one after the other. -/
def write (order : ByteOrder) (value : ι → Nat) : List (ι × Nat) → List UInt8
  | [] => []
  | (name, width) :: rest => Word.encode order width (value name) ++ write order value rest

/-- The layout of a record whose members start at a place. -/
def layout (struct : Struct ι) (start : Nat) : Layout ι := place start struct.members

/-- The number of bytes of a record. -/
def size (struct : Struct ι) : Nat := total struct.members

/-- The bytes of the record with given values. -/
def encode (struct : Struct ι) (order : ByteOrder) (value : ι → Nat) : List UInt8 :=
  write order value struct.members

/-- Every value can be written in the width of its member. -/
def Fits (struct : Struct ι) (value : ι → Nat) : Prop :=
  ∀ member ∈ struct.members, value member.1 < Word.count member.2

instance (struct : Struct ι) (value : ι → Nat) : Decidable (struct.Fits value) :=
  inferInstanceAs (Decidable (∀ member ∈ struct.members, _))

section Members

variable {members : List (ι × Nat)} {order : ByteOrder} {value : ι → Nat}

theorem map_place (start : Nat) :
    (place start members).map (fun field => (field.name, field.width)) =
      members.map fun member => (member.1, (member.2 : Int)) := by
  induction members generalizing start with
  | nil => rfl
  | cons member rest induction => simp [place, induction]

theorem map_name_place (start : Nat) :
    (place start members).map Field.name = members.map Prod.fst := by
  have pairs : (place start members).map (fun field => (field.name, field.width)) = _ :=
    map_place start
  simpa [Function.comp_def] using congrArg (List.map Prod.fst) pairs

theorem place_size (start : Nat) (nonempty : members ≠ []) :
    (place start members).size = start + total members := by
  induction members generalizing start with
  | nil => contradiction
  | cons member rest induction =>
      by_cases rest_nonempty : rest = []
      · simp [rest_nonempty, place, total, Layout.size, Layout.extent?]
      · have rest_size := induction (start + member.2) rest_nonempty
        have place_nonempty : place (start + member.2) rest ≠ [] := by
          simpa [← List.map_eq_nil_iff (f := Field.name), map_name_place] using rest_nonempty
        obtain ⟨extent, extent_eq⟩ := Layout.extent?_isSome place_nonempty
        simp only [Layout.size, extent_eq, Option.getD_some] at rest_size
        simp only [place, total, Layout.size, Layout.extent?, extent_eq, Option.getD_some,
          rest_size]
        omega

theorem place_readable (start : Nat)
    (supported : ∀ member ∈ members,
      member.2 = 1 ∨ member.2 = 2 ∨ member.2 = 4 ∨ member.2 = 8) :
    (place start members).Readable := by
  induction members generalizing start with
  | nil => simp [place, Layout.Readable]
  | cons member rest induction =>
      intro field field_mem
      rcases List.mem_cons.mp field_mem with rfl | rest_mem
      · have width_supported := supported member List.mem_cons_self
        simp only
        omega
      · exact induction (start + member.2)
          (fun later member_mem => supported later (List.mem_cons_of_mem _ member_mem))
          field rest_mem

/-- A word is held where it is read. -/
theorem holds_word_iff (image : Image) (order : ByteOrder) (at_place : Nat) {width number : Nat}
    (width_pos : 0 < width) (fits : number < Word.count width) :
    image.Holds at_place (Word.encode order width number) ↔
      at_place + width ≤ image.size ∧ image.wordAt order at_place width = number := by
  rw [Image.wordAt_natCast]
  constructor
  · intro holds
    have nonempty : Word.encode order width number ≠ [] := by
      rw [← List.length_pos_iff, Word.length_encode]
      exact width_pos
    have inside := holds.length_le nonempty
    rw [Word.length_encode] at inside
    rw [Image.holds_iff_slice, Word.length_encode] at holds
    rw [holds, Word.decode_encode order fits]
    exact ⟨inside, rfl⟩
  · rintro ⟨inside, rfl⟩
    have slice_length : (image.slice at_place (at_place + width)).length = width := by
      rw [Image.length_slice inside, Nat.add_sub_cancel_left]
    have rewritten := Word.encode_decode order (image.slice at_place (at_place + width))
    rw [slice_length] at rewritten
    rw [Image.holds_iff_slice, Word.length_encode, rewritten]

/-- Members are held in a row where the layout reads them one by one. -/
theorem holds_write_iff {image : Image} {base : Nat} (start : Nat)
    (supported : ∀ member ∈ members,
      member.2 = 1 ∨ member.2 = 2 ∨ member.2 = 4 ∨ member.2 = 8)
    (fits : ∀ member ∈ members, value member.1 < Word.count member.2) :
    image.Holds (base + start) (write order value members) ↔
      ∀ field ∈ place start members,
        base + (field.offset + field.width) ≤ image.size ∧
          image.wordAt order (base + field.offset) field.width = value field.name := by
  induction members generalizing start with
  | nil => simp [write, place, Image.Holds]
  | cons member rest induction =>
      obtain ⟨name, width⟩ := member
      have width_pos : 0 < width := by
        have width_supported := supported (name, width) List.mem_cons_self
        simp only at width_supported
        omega
      have word_iff := holds_word_iff image order (base + start) width_pos
        (fits (name, width) List.mem_cons_self)
      have rest_iff := induction (start + width)
        (fun later later_mem => supported later (List.mem_cons_of_mem _ later_mem))
        (fun later later_mem => fits later (List.mem_cons_of_mem _ later_mem))
      rw [write, Image.holds_append, Word.length_encode, word_iff, Nat.add_assoc base start width,
        rest_iff, place, List.forall_mem_cons]
      simp only [Int.natCast_add]
      rw [show base + (start + width) ≤ image.size ↔
          (base : Int) + ((start : Int) + width) ≤ image.size by omega]

end Members

section Records

variable {struct : Struct ι} {image : Image} {order : ByteOrder} {start base : Nat}

theorem size_pos : 0 < struct.size := by
  cases members_eq : struct.members with
  | nil => exact absurd members_eq struct.members_ne_nil
  | cons member rest =>
      have supported := struct.supported member (by rw [members_eq]; exact List.mem_cons_self)
      rw [size, members_eq, total]
      omega

theorem layout_ne_nil : struct.layout start ≠ [] := by
  rw [ne_eq, ← List.map_eq_nil_iff (f := Field.name), layout, map_name_place, List.map_eq_nil_iff]
  exact struct.members_ne_nil

theorem layout_readable : (struct.layout start).Readable := place_readable start struct.supported

@[simp]
theorem layout_size : (struct.layout start).size = start + struct.size :=
  place_size start struct.members_ne_nil

theorem layout_sound : (struct.layout start).Sound where
  readable := layout_readable
  nonempty := layout_ne_nil
  size_nonneg := by
    rw [layout_size]
    omega

variable [DecidableEq ι]

theorem lastField?_of_mem {layout : Layout ι} (nodup : (layout.map Field.name).Nodup)
    {field : Field ι} (member : field ∈ layout) :
    Layout.lastField? field.name layout = some field := by
  induction layout with
  | nil => contradiction
  | cons first rest induction =>
      rw [List.map_cons, List.nodup_cons] at nodup
      rw [Layout.lastField?]
      rcases List.mem_cons.mp member with rfl | rest_member
      · cases found : Layout.lastField? field.name rest with
        | none => simp
        | some later =>
            obtain ⟨later_mem, later_name⟩ := Layout.lastField?_mem found
            exact absurd (later_name ▸ List.mem_map_of_mem later_mem) nodup.1
      · rw [induction nodup.2 rest_member]

theorem valueAt_of_mem {field : Field ι} (member : field ∈ struct.layout start) {at_base : Int} :
    (struct.layout start).valueAt image order at_base field.name =
      image.wordAt order (at_base + field.offset) field.width := by
  have nodup : ((struct.layout start).map Field.name).Nodup := by
    rw [layout, map_name_place]
    exact struct.nodup
  rw [Layout.valueAt, lastField?_of_mem nodup member]

/-- Writing a record and reading it are inverse: an image holds the encoding of some values
exactly when it reaches far enough and those values are read from it. -/
theorem holds_encode_iff {value : ι → Nat} (fits : struct.Fits value) :
    image.Holds (base + start) (struct.encode order value) ↔
      base + (struct.layout start).size ≤ image.size ∧
        (struct.layout start).valueAt image order base = fun name => (value name : Int) := by
  rw [encode, holds_write_iff start struct.supported fits]
  have size_iff : (base : Int) + (struct.layout start).size ≤ image.size ↔
      ∀ field ∈ struct.layout start, field.offset + field.width ≤ (image.size : Int) - base := by
    rw [← Layout.size_le_iff layout_ne_nil]
    omega
  rw [size_iff]
  constructor
  · intro held
    constructor
    · intro field member
      have field_inside := (held field member).1
      omega
    · funext name
      have named : name ∈ (struct.layout start).map Field.name := by
        rw [layout, map_name_place]
        exact struct.complete name
      obtain ⟨field, member, rfl⟩ := List.mem_map.mp named
      rw [valueAt_of_mem member, (held field member).2]
  · rintro ⟨inside, values⟩ field member
    have field_inside := inside field member
    have value_eq := congrFun values field.name
    rw [valueAt_of_mem member] at value_eq
    exact ⟨by omega, by exact_mod_cast value_eq⟩

/-- Values that are read from an image can be written again. -/
theorem fits_valueAt (inside : base + (struct.layout start).size ≤ image.size) :
    struct.Fits fun name => ((struct.layout start).valueAt image order base name).toNat := by
  intro member member_mem
  have named : (member.1, (member.2 : Int)) ∈
      (struct.layout start).map fun field => (field.name, field.width) := by
    rw [layout, map_place]
    exact List.mem_map_of_mem member_mem
  obtain ⟨field, field_mem, field_eq⟩ := List.mem_map.mp named
  obtain ⟨name_eq, width_eq⟩ := Prod.mk.inj field_eq
  have offset_nonneg := (layout_readable field field_mem).2
  have field_le := (Layout.size_le_iff layout_ne_nil).mp (Int.le_refl _) field field_mem
  have value_eq : (struct.layout start).valueAt image order base member.1 =
      image.wordAt order (base + field.offset) member.2 := by
    rw [← name_eq, valueAt_of_mem field_mem, width_eq]
  simp only [value_eq, Int.toNat_natCast]
  exact Image.wordAt_lt (by omega) (by omega)

end Records

end Struct
end ElfInspect
