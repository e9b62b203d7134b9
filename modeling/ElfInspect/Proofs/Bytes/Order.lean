import ElfInspect.Proofs.Alike
import ElfInspect.Proofs.Bytes.Record

/-!
# Reading in the other byte order

The bytes that are read and the faults do not depend on the byte order.  A word that is read in the
other order has the same bytes from the back, and so has each field of a record.
-/

namespace ElfInspect

/-- The opposite byte order. -/
def ByteOrder.other : ByteOrder → ByteOrder
  | little => big
  | big => little

namespace Word

/-- The number whose bytes are those of another number from the back. -/
def reversed (width value : Nat) : Nat := ofLittle (toLittle width value).reverse

/-- Two integers are words of one width, each with the bytes of the other from the back. -/
def Reverses (width : Nat) (value other : Int) : Prop :=
  ∃ word < count width, value = word ∧ other = reversed width word

/-- Two integers are such words in two's complement. -/
def ReversesSigned (width : Nat) (value other : Int) : Prop :=
  ∃ word < count width, value = signed width word ∧ other = signed width (reversed width word)

theorem count_pos (width : Nat) : 0 < count width := by
  induction width with
  | zero => exact Nat.one_pos
  | succ width induction => exact Nat.mul_pos (by omega) induction

theorem reversed_lt (width value : Nat) : reversed width value < count width := by
  have bound := ofLittle_lt (toLittle width value).reverse
  rwa [List.length_reverse, length_toLittle] at bound

theorem reversed_reversed {width value : Nat} (fits : value < count width) :
    reversed width (reversed width value) = value := by
  have written := toLittle_ofLittle (toLittle width value).reverse
  rw [List.length_reverse, length_toLittle] at written
  rw [reversed, reversed, written, List.reverse_reverse, ofLittle_toLittle fits]

/-- A single byte has no order. -/
theorem reversed_one {value : Nat} (fits : value < count 1) : reversed 1 value = value :=
  ofLittle_toLittle fits

theorem toLittle_zero (width : Nat) : toLittle width 0 = List.replicate width 0 := by
  induction width with
  | zero => rfl
  | succ width induction =>
      rw [toLittle, Nat.zero_div, induction, List.replicate_succ]
      rfl

theorem ofLittle_replicate_zero (width : Nat) : ofLittle (List.replicate width 0) = 0 := by
  induction width with
  | zero => rfl
  | succ width induction =>
      rw [List.replicate_succ, ofLittle, induction]
      rfl

theorem reversed_zero (width : Nat) : reversed width 0 = 0 := by
  rw [reversed, toLittle_zero, List.reverse_replicate, ofLittle_replicate_zero]

theorem reversed_eq_zero_iff {width value : Nat} (fits : value < count width) :
    reversed width value = 0 ↔ value = 0 := by
  constructor
  · intro reversed_eq
    rw [← reversed_reversed fits, reversed_eq, reversed_zero]
  · rintro rfl
    exact reversed_zero width

theorem signed_eq_zero_iff {width word : Nat} (fits : word < count width) :
    signed width word = 0 ↔ word = 0 := by
  unfold signed
  split <;> omega

theorem decode_other (order : ByteOrder) (bytes : List UInt8) :
    decode order.other bytes = reversed bytes.length (decode order bytes) := by
  cases order with
  | little => simp only [ByteOrder.other, decode, reversed, toLittle_ofLittle]
  | big =>
      have written := toLittle_ofLittle bytes.reverse
      rw [List.length_reverse] at written
      simp only [ByteOrder.other, decode, reversed, written, List.reverse_reverse]

theorem Reverses.zero (width : Nat) : Reverses width 0 0 :=
  ⟨0, count_pos width, rfl, by rw [reversed_zero]; rfl⟩

/-- A single byte is the same in both orders. -/
theorem Reverses.eq_of_one {value other : Int} (reverses : Reverses 1 value other) :
    other = value := by
  obtain ⟨word, fits, rfl, rfl⟩ := reverses
  rw [reversed_one fits]

/-- The order makes no difference to whether a word is null. -/
theorem ReversesSigned.eq_zero_iff {width : Nat} {value other : Int}
    (reverses : ReversesSigned width value other) : value = 0 ↔ other = 0 := by
  obtain ⟨word, fits, rfl, rfl⟩ := reverses
  rw [signed_eq_zero_iff fits, signed_eq_zero_iff (reversed_lt width word),
    reversed_eq_zero_iff fits]

end Word

namespace Image

variable (image : Image) (order : ByteOrder) (offset width : Int)

theorem word_other :
    Alike (fun word other => word < Word.count width.toNat ∧ other = Word.reversed width.toNat word)
      (image.word order offset width) (image.word order.other offset width) := by
  unfold word
  split
  · rename_i supported
    split
    · rename_i inside
      apply Alike.decoded
      have slice_length :
          (image.slice offset.toNat (offset + width).toNat).length = width.toNat := by
        rw [length_slice (by omega)]
        omega
      rw [Word.decode_other, slice_length]
      refine ⟨?_, rfl⟩
      rw [← slice_length]
      exact Word.decode_lt order _
    · exact .failed _
  · exact .failed _

theorem unsigned_eq :
    image.unsigned order offset width = (image.word order offset width).map Int.ofNat := by
  rw [unsigned]
  cases image.word order offset width <;> rfl

theorem unsigned_other :
    Alike (Word.Reverses width.toNat) (image.unsigned order offset width)
      (image.unsigned order.other offset width) := by
  rw [unsigned_eq, unsigned_eq]
  apply (word_other image order offset width).map
  rintro word other ⟨fits, rfl⟩
  exact ⟨word, fits, rfl, rfl⟩

theorem signed_other :
    Alike (Word.ReversesSigned width.toNat) (image.signed order offset width)
      (image.signed order.other offset width) := by
  rw [signed, signed]
  apply (word_other image order offset width).map
  rintro word other ⟨fits, rfl⟩
  exact ⟨word, fits, rfl, rfl⟩

end Image

theorem Record.get_put {ι : Type} [DecidableEq ι] (record : Record ι) (name other : ι)
    (value : Int) :
    Record.get (Record.put name value record) other =
      if name = other then value else Record.get record other := by
  rw [get, value?_put]
  split <;> rfl

namespace Layout

variable {ι : Type} [DecidableEq ι] {layout : Layout ι} {width : ι → Nat}

/-- Two records with the same bytes from the back in each of their fields. -/
def Reverses (width : ι → Nat) (record other : ι → Int) : Prop :=
  ∀ name, Word.Reverses (width name) (record name) (other name)

private theorem foldlM_other (widths : ∀ field ∈ layout, field.width = width field.name)
    (image : Image) (order : ByteOrder) (base : Int) {record other : Record ι}
    (reverses : Reverses width record.get other.get) :
    Alike (fun record other => Reverses width (Record.get record) (Record.get other))
      (layout.foldlM
        (fun record field => do
          let value ← image.unsigned order (base + field.offset) field.width
          return record.put field.name value)
        record)
      (layout.foldlM
        (fun record field => do
          let value ← image.unsigned order.other (base + field.offset) field.width
          return record.put field.name value)
        other) := by
  induction layout generalizing record other with
  | nil => exact .decoded reverses
  | cons field rest induction =>
      rw [List.foldlM_cons, List.foldlM_cons, bind_assoc, bind_assoc]
      apply (image.unsigned_other order (base + field.offset) field.width).bind
      intro value valueOther value_reverses
      rw [widths field List.mem_cons_self, Int.toNat_natCast] at value_reverses
      apply induction fun later member => widths later (List.mem_cons_of_mem field member)
      intro name
      rw [Record.get_put, Record.get_put]
      by_cases same : field.name = name
      · rw [if_pos same, if_pos same, ← same]
        exact value_reverses
      · rw [if_neg same, if_neg same]
        exact reverses name

/-- A record is read alike in both orders, each field reversed at its own width. -/
theorem read_other (widths : ∀ field ∈ layout, field.width = width field.name) (image : Image)
    (order : ByteOrder) (base : Int) :
    Alike (fun record other => Reverses width (Record.get record) (Record.get other))
      (layout.read image order base) (layout.read image order.other base) :=
  foldlM_other widths image order base fun name => Word.Reverses.zero (width name)

end Layout
end ElfInspect
