import ElfInspect.Proofs.Names
import ElfInspect.Proofs.Text.Utf8

/-!
# Names read back from string tables

A table that holds names in a row, a zero byte before each of them, gives each name back, and each
end of a name as a name of its own.  From any table, a lookup reads the longest run without a zero
byte that stays inside the table; only at the end of the table nothing is read, not even an empty
name.
-/

namespace ElfInspect

namespace Image

variable {image : Image} {start : Nat} {bytes : List UInt8}

theorem Holds.slice_drop (held : image.Holds start bytes) (skipped : Nat) :
    image.slice (start + skipped) (start + bytes.length) = bytes.drop skipped := by
  rw [Image.slice_eq, ← List.drop_drop, ← Image.slice_eq, holds_iff_slice.mp held]

end Image

namespace StringTable

/-- The longest run of bytes without a zero that starts at a place and stays inside the table. -/
structure NameRun (table : StringTable) (place : Int) (run : List UInt8) : Prop where
  held : table.image.Holds (table.offset + place).toNat run
  inside : place + run.length ≤ table.size
  zero_not_mem : 0 ∉ run
  longest : ∀ other : List UInt8, table.image.Holds (table.offset + place).toNat other →
    place + other.length ≤ table.size → 0 ∉ other → other.length ≤ run.length

/-- Names in a row, a zero byte before each of them. -/
def pack (names : List String) : List UInt8 := names.flatMap fun name => 0 :: Utf8.encode name

/-- The table that consists of packed names and what ends them. -/
def ofPacked (image : Image) (start : Nat) (names : List String) (ending : List UInt8) :
    StringTable :=
  { image := image, offset := start, size := (pack names ++ ending).length }

/-- The place after some characters of a name in a table of packed names. -/
def placeIn (names : List String) (index : Nat) (front : List Char) : Nat :=
  (pack (names.take index)).length + 1 + (Utf8.encode (String.ofList front)).length

/-- Wherever the packed names lie, each of them is found, and also what is left of it after any of
its characters. -/
def FindsAll (names : List String) (ending : List UInt8) : Prop :=
  ∀ (image : Image) (start : Nat), image.Holds start (pack names ++ ending) →
    ∀ (index : Nat) (name : String), names[index]? = some name → ∀ count ≤ name.length,
      (ofPacked image start names ending).lookup (placeIn names index (name.toList.take count)) =
        .ok (String.ofList (name.toList.drop count))

/-! ## Lookups in any table -/

section Lookups

variable {table : StringTable} {place : Int}

theorem lookup_outside (outside : place < 0 ∨ table.size ≤ place) :
    table.lookup place = .error (.badStringOffset place table.size) := if_pos outside

theorem lookup_inside (place_nonneg : 0 ≤ place) (place_lt : place < table.size) :
    table.lookup place = .ok (Utf8.decode (table.nameBytes place)) :=
  if_neg (by omega)

/-- No front of some bytes without a zero is longer than the one up to the first zero. -/
theorem length_le_takeWhile {bytes run : List UInt8} (front : run <+: bytes) (free : 0 ∉ run) :
    run.length ≤ (bytes.takeWhile (· ≠ 0)).length := by
  obtain ⟨rest, rfl⟩ := front
  rw [List.takeWhile_append_of_pos, List.length_append]
  · omega
  · intro byte member
    exact decide_eq_true fun is_zero => free (is_zero ▸ member)

theorem nameRun_nameBytes (offset_nonneg : 0 ≤ table.offset) (place_nonneg : 0 ≤ place)
    (place_lt : place < table.size) : table.NameRun place (table.nameBytes place) := by
  have length_eq : (table.offset + table.size).toNat - (table.offset + place).toNat =
      (table.size - place).toNat := by omega
  let window := (table.image.toList.drop (table.offset + place).toNat).take
    (table.size - place).toNat
  have run_eq : table.nameBytes place = window.takeWhile (· ≠ 0) := by
    rw [nameBytes_eq offset_nonneg place_nonneg place_lt, Image.slice_eq, List.drop_take, length_eq]
  have front : window.takeWhile (· ≠ 0) <+: window := List.takeWhile_prefix _
  have window_le : window.length ≤ (table.size - place).toNat := List.length_take_le _ _
  rw [run_eq]
  constructor
  case held => exact front.trans (List.take_prefix _ _)
  case inside =>
    have run_le := front.length_le
    omega
  case zero_not_mem =>
    intro member
    have nonzero := List.all_eq_true.mp List.all_takeWhile 0 member
    contradiction
  case longest =>
    intro other held inside free
    exact length_le_takeWhile (List.prefix_take_iff.mpr ⟨held, by omega⟩) free

theorem NameRun.unique {run other : List UInt8} (first : table.NameRun place run)
    (second : table.NameRun place other) : run = other := by
  have run_le := second.longest run first.held first.inside first.zero_not_mem
  have other_le := first.longest other second.held second.inside second.zero_not_mem
  exact (List.prefix_of_prefix_length_le first.held second.held run_le).eq_of_length
    (Nat.le_antisymm run_le other_le)

end Lookups

/-! ## Packed names -/

section Packed

variable {names : List String} {name : String} {ending : List UInt8} {image : Image}
  {start index count : Nat}

theorem nameBytes_of_holds {bytes : List UInt8} (held : image.Holds start bytes) {place : Nat}
    (place_lt : place < bytes.length) :
    nameBytes ⟨image, start, bytes.length⟩ place = (bytes.drop place).takeWhile (· ≠ 0) := by
  have start_eq : ((start : Int) + (place : Int)).toNat = start + place := by omega
  have stop_eq : ((start : Int) + (bytes.length : Int)).toNat = start + bytes.length := by omega
  rw [nameBytes_eq (by simp only; omega) (by omega) (by simp only; omega)]
  simp only [start_eq, stop_eq, held.slice_drop]

/-- Packed names end where a name does: at a zero byte or at the end. -/
theorem head_pack_append (names : List String) (ending_eq : ending = [] ∨ ending = [0]) :
    ∀ byte ∈ (pack names ++ ending).head?, byte = 0 := by
  cases names with
  | nil =>
      obtain rfl | rfl := ending_eq
      · simp [pack]
      · simp [pack]
  | cons name rest => simp [pack]

/-- A text without the character with code zero reaches up to what follows it. -/
theorem takeWhile_encode {text : String} (free : '\x00' ∉ text.toList) {after : List UInt8}
    (ended : ∀ byte ∈ after.head?, byte = 0) :
    (Utf8.encode text ++ after).takeWhile (· ≠ 0) = Utf8.encode text := by
  rw [List.takeWhile_append_of_pos]
  · cases after with
    | nil => simp
    | cons byte rest => simp [ended byte rfl]
  · intro byte member
    exact decide_eq_true fun is_zero => Utf8.zero_not_mem_encode free (is_zero ▸ member)

/-- What stands before, in and behind the part of a name that is left after some characters. -/
theorem pack_append_eq (found : names[index]? = some name) (count : Nat) (ending : List UInt8) :
    pack names ++ ending =
      (pack (names.take index) ++ 0 :: Utf8.encode (String.ofList (name.toList.take count))) ++
        (Utf8.encode (String.ofList (name.toList.drop count)) ++
          (pack (names.drop (index + 1)) ++ ending)) := by
  obtain ⟨index_lt, rfl⟩ := List.getElem?_eq_some_iff.mp found
  have names_eq : names = names.take index ++ names[index] :: names.drop (index + 1) := by
    rw [← List.drop_eq_getElem_cons index_lt, List.take_append_drop]
  have name_eq : Utf8.encode names[index] =
      Utf8.encode (String.ofList (names[index].toList.take count)) ++
        Utf8.encode (String.ofList (names[index].toList.drop count)) := by
    rw [← Utf8.encode_ofList_append, List.take_append_drop, String.ofList_toList]
  calc
    pack names ++ ending =
        pack (names.take index ++ names[index] :: names.drop (index + 1)) ++ ending :=
      congrArg (pack · ++ ending) names_eq
    _ = _ := by
      simp only [pack, List.flatMap_append, List.flatMap_cons, name_eq, List.cons_append,
        List.append_assoc]

theorem length_pack_pos (nonempty : names ≠ []) : 0 < (pack names).length := by
  obtain ⟨name, rest, rfl⟩ := List.exists_cons_of_ne_nil nonempty
  rw [pack, List.flatMap_cons, List.cons_append, List.length_cons]
  omega

theorem length_front (names : List String) (index : Nat) (front : List Char) :
    (pack (names.take index) ++ 0 :: Utf8.encode (String.ofList front)).length =
      placeIn names index front := by
  rw [placeIn, List.length_append, List.length_cons]
  omega

/-- What is left of a packed name is found unless it is nothing at the end of the table. -/
theorem lookup_ofPacked (held : image.Holds start (pack names ++ ending))
    (ending_eq : ending = [] ∨ ending = [0]) (free : ∀ name ∈ names, '\x00' ∉ name.toList)
    (found : names[index]? = some name)
    (place_lt : placeIn names index (name.toList.take count) < (pack names ++ ending).length) :
    (ofPacked image start names ending).lookup (placeIn names index (name.toList.take count)) =
      .ok (String.ofList (name.toList.drop count)) := by
  have rest_free : '\x00' ∉ (String.ofList (name.toList.drop count)).toList := by
    rw [String.toList_ofList]
    exact fun member => free name (List.mem_of_getElem? found) (List.mem_of_mem_drop member)
  have bytes_eq : (pack names ++ ending).drop (placeIn names index (name.toList.take count)) =
      Utf8.encode (String.ofList (name.toList.drop count)) ++
        (pack (names.drop (index + 1)) ++ ending) := by
    rw [pack_append_eq found count ending, List.drop_left' (length_front _ _ _)]
  rw [ofPacked, lookup_inside (by omega) (by simp only; omega), nameBytes_of_holds held place_lt,
    bytes_eq, takeWhile_encode rest_free (head_pack_append _ ending_eq), Utf8.decode_encode]

theorem placeIn_add (found : names[index]? = some name) (count : Nat) (ending : List UInt8) :
    placeIn names index (name.toList.take count) +
        ((Utf8.encode (String.ofList (name.toList.drop count))).length +
          ((pack (names.drop (index + 1))).length + ending.length)) =
      (pack names ++ ending).length := by
  have total := congrArg List.length (pack_append_eq found count ending)
  simp only [List.length_append, List.length_cons] at total
  rw [placeIn, List.length_append]
  omega

/-- Something follows in the table unless the last name is read to its end and no zero byte ends
it. -/
theorem placeIn_lt (found : names[index]? = some name)
    (more : ending = [0] ∨ index + 1 < names.length ∨ count < name.length) :
    placeIn names index (name.toList.take count) < (pack names ++ ending).length := by
  have total := placeIn_add found count ending
  obtain rfl | names_left | chars_left := more
  · rw [List.length_singleton] at total
    omega
  · have rest_ne : names.drop (index + 1) ≠ [] := by
      rw [ne_eq, List.drop_eq_nil_iff]
      omega
    have rest_pos := length_pack_pos rest_ne
    omega
  · have chars_ne : name.toList.drop count ≠ [] := by
      rw [ne_eq, List.drop_eq_nil_iff, String.length_toList]
      omega
    have chars_pos := Utf8.length_encode_pos chars_ne
    omega

theorem placeIn_eq (found : names[index]? = some name) (index_last : index + 1 = names.length) :
    placeIn names index (name.toList.take name.length) = (pack names ++ []).length := by
  have total := placeIn_add found name.length []
  rw [index_last, List.drop_length, ← String.length_toList, List.drop_length] at total
  exact total

end Packed

/-- Packed names are found, and what is left of each of them after some of its characters, but for
nothing at all at the end of a table that no zero byte ends.  From any table, what is found at a
place inside it is the text of the longest run without a zero byte that starts there and stays
inside; that text is without the character with code zero and depends on the bytes of the table
alone. -/
theorem lookup_reads_names :
    (∀ (names : List String) (ending : List UInt8), (ending = [] ∨ ending = [0]) →
        (∀ name ∈ names, '\x00' ∉ name.toList) →
        ∀ (image : Image) (start : Nat), image.Holds start (pack names ++ ending) →
          ∀ (index : Nat) (name : String), names[index]? = some name → ∀ count ≤ name.length,
            let table := ofPacked image start names ending
            let place := placeIn names index (name.toList.take count)
            ((ending = [0] ∨ index + 1 < names.length ∨ count < name.length) →
                table.lookup place = .ok (String.ofList (name.toList.drop count))) ∧
              (ending = [] → index + 1 = names.length → count = name.length →
                place = table.size ∧
                  table.lookup place = .error (.badStringOffset place table.size))) ∧
      (∀ table : StringTable, 0 ≤ table.offset → ∀ place : Int,
        (place < 0 ∨ table.size ≤ place →
            table.lookup place = .error (.badStringOffset place table.size)) ∧
          (0 ≤ place → place < table.size →
            ∃ run, table.NameRun place run ∧ table.lookup place = .ok (Utf8.decode run) ∧
              '\x00' ∉ (Utf8.decode run).toList) ∧
          (∀ other : Image, table.image.AgreeOn other ⟨table.offset, table.size⟩ →
            lookup { table with image := other } place = table.lookup place)) := by
  constructor
  · intro names ending ending_eq free image start held index name found count _ table place
    constructor
    · intro more
      exact lookup_ofPacked held ending_eq free found (placeIn_lt found more)
    · rintro rfl index_last rfl
      have at_end : (place : Int) = table.size :=
        congrArg (Nat.cast : Nat → Int) (placeIn_eq found index_last)
      exact ⟨at_end, lookup_outside (.inr (Int.le_of_eq at_end.symm))⟩
  · intro table offset_nonneg place
    refine ⟨lookup_outside, ?_, ?_⟩
    · intro place_nonneg place_lt
      have run := nameRun_nameBytes offset_nonneg place_nonneg place_lt
      exact ⟨_, run, lookup_inside place_nonneg place_lt,
        Utf8.zero_not_mem_decode run.zero_not_mem⟩
    · intro other agree
      exact (congrFun (lookup_congr offset_nonneg agree) place).symm

/-- At the end of a table that no zero byte ends there is not even an empty name. -/
theorem not_findsAll_unended :
    (∀ name ∈ ["a", ""], '\x00' ∉ name.toList) ∧
      (Image.ofList [0, 0x61, 0]).Holds 0 (pack ["a", ""] ++ []) ∧ ¬FindsAll ["a", ""] [] := by
  have held : (Image.ofList [0, 0x61, 0]).Holds 0 (pack ["a", ""] ++ []) := by decide
  refine ⟨by decide, held, ?_⟩
  intro finds
  have found := finds _ 0 held 1 "" rfl 0 (Nat.zero_le _)
  have lost : (ofPacked (Image.ofList [0, 0x61, 0]) 0 ["a", ""] []).lookup
      (placeIn ["a", ""] 1 ("".toList.take 0)) = .error (.badStringOffset 3 3) :=
    lookup_outside (.inr (by decide))
  rw [lost] at found
  contradiction

/-- In a table that no zero byte ends, the end of a name is read as one of its own and the last name
up to the end of the table, where nothing is left. -/
theorem lookup_accented :
    let image := Image.ofList [0x58, 0, 0x6E, 0xC3, 0xA9, 0, 0x62, 0x59]
    let table := ofPacked image 1 ["né", "b"] []
    image.Holds 1 (pack ["né", "b"] ++ []) ∧ table.lookup 2 = .ok "é" ∧ table.lookup 5 = .ok "b" ∧
      table.lookup 6 = .error (.badStringOffset 6 6) ∧
      table.NameRun 3 [0xA9] ∧ table.lookup 3 = .ok (Utf8.decode [0xA9]) := by
  intro image table
  have held : image.Holds 1 (pack ["né", "b"] ++ []) := by decide
  obtain ⟨names, any⟩ := lookup_reads_names
  have named := names ["né", "b"] [] (.inl rfl) (by decide) image 1 held
  obtain ⟨_, inside, _⟩ := any table (by decide) 3
  obtain ⟨run, run_spec, found, _⟩ := inside (by decide) (by decide)
  have bytes_eq : table.nameBytes 3 = [0xA9] := by decide
  have run_eq : run = [0xA9] :=
    run_spec.unique (bytes_eq ▸ nameRun_nameBytes (by decide) (by decide) (by decide))
  rw [run_eq] at run_spec found
  exact ⟨held, (named 0 "né" rfl 1 (by decide)).1 (.inr (.inl (by decide))),
    (named 1 "b" rfl 0 (by decide)).1 (.inr (.inr (by decide))),
    ((named 1 "b" rfl 1 (by decide)).2 rfl rfl rfl).2, run_spec, found⟩

end StringTable
end ElfInspect
