import ElfInspect.Proofs.Json.Grammar
import ElfInspect.Value.Json

/-!
# What writing JSON gives

The text of a value stands for that value and has no character outside ASCII, whatever characters
its texts have and however deep it is.
-/

namespace ElfInspect

/-- A value without fractions and moments, in each record of which no two entries have the same
name. -/
inductive Value.Writable : Value → Prop where
  | null : Writable .null
  | boolean (value : Bool) : Writable (.boolean value)
  | integer (value : Int) : Writable (.integer value)
  | text (value : String) : Writable (.text value)
  | list {items : List Value} (items_writable : ∀ item ∈ items, Writable item) :
      Writable (.list items)
  | record {entries : List (String × Value)} (distinct : (entries.map Prod.fst).Nodup)
      (values_writable : ∀ entry ∈ entries, Writable entry.2) : Writable (.record entries)

attribute [simp] Value.Writable.null Value.Writable.boolean Value.Writable.integer
  Value.Writable.text

namespace Json

/-! ## Texts -/

theorem zeroFill_hexDigits {width : Nat} (value : Nat) (width_pos : 0 < width) :
    Numeral.zeroFill (width + 1) (Numeral.hexDigits value) =
      Numeral.zeroFill width (Numeral.hexDigits (value / 16)) ++ [Nat.digitChar (value % 16)] := by
  obtain ⟨rest, rfl⟩ := Nat.exists_eq_add_one_of_ne_zero (Nat.ne_of_gt width_pos)
  simp only [Numeral.zeroFill, Numeral.hexDigits]
  by_cases one_digit : value < 16
  · rw [Nat.div_eq_of_lt one_digit, Nat.mod_eq_of_lt one_digit,
      Nat.toDigits_of_lt_base one_digit, Nat.toDigits_zero]
    simp [List.replicate_succ']
  · rw [Nat.toDigits_of_base_le (by decide) (Nat.le_of_not_lt one_digit)]
    simp

/-- Four digits suffice for a unit. -/
theorem zeroFill_unit {unit : Nat} (unit_lt : unit < 0x10000) :
    Numeral.zeroFill 4 (Numeral.hexDigits unit) =
      [unit / 16 / 16 / 16, unit / 16 / 16 % 16, unit / 16 % 16, unit % 16].map Nat.digitChar := by
  have first_lt : unit / 16 / 16 / 16 < 16 := by omega
  rw [zeroFill_hexDigits unit (by decide), zeroFill_hexDigits _ (by decide),
    zeroFill_hexDigits _ (by decide), Numeral.hexDigits, Nat.toDigits_of_lt_base first_lt]
  rfl

theorem hexValue?_digitChar : ∀ value < 16, hexValue? (Nat.digitChar value) = some value := by
  decide

theorem unit?_zeroFill {unit : Nat} (unit_lt : unit < 0x10000) :
    unit? (Numeral.zeroFill 4 (Numeral.hexDigits unit)) = some unit := by
  simp only [zeroFill_unit unit_lt, List.map_cons, List.map_nil, unit?]
  rw [hexValue?_digitChar _ (by omega), hexValue?_digitChar _ (by omega),
    hexValue?_digitChar _ (by omega), hexValue?_digitChar _ (by omega)]
  simp only [Option.pure_def, Option.bind_eq_bind, Option.bind_some, Option.some.injEq]
  omega

theorem spells_codeEscape (char : Char) : Spells (codeEscape char.toNat) char := by
  unfold codeEscape
  split
  next short => exact .unit (unit?_zeroFill short)
  next =>
    have range := code_range char
    exact .surrogates (unit?_zeroFill (by omega)) (unit?_zeroFill (by omega)) (by omega) (by omega)
      (by omega)

theorem spells_escape (char : Char) : Spells (escape isPlain char) char := by
  have eq_of_code : ∀ {code : Nat}, char.toNat = code → char = Char.ofNat code := by
    rintro _ rfl
    exact (Char.ofNat_toNat char).symm
  unfold escape
  split
  next quote => exact .letter (by simp [letters, quote])
  split
  next backslash => exact .letter (by simp [letters, backslash])
  split
  next newline => exact .letter (by simp [letters, newline])
  split
  next carriage => exact .letter (by simp [letters, carriage])
  split
  next tab => exact .letter (by simp [letters, tab])
  split
  next backspace => exact .letter (by simp [letters, eq_of_code backspace])
  split
  next formFeed => exact .letter (by simp [letters, eq_of_code formFeed])
  split
  next no_quote no_backslash _ _ _ _ _ plain =>
    simp only [isPlain, Bool.and_eq_true, decide_eq_true_eq] at plain
    exact .plain plain.1 no_quote no_backslash
  next => exact spells_codeEscape char

theorem spellsAll_escape (chars : List Char) :
    SpellsAll (chars.flatMap (escape isPlain)) chars := by
  induction chars with
  | nil => exact .nil
  | cons char rest induction => exact .cons (spells_escape char) induction

theorem quotes_quote (content : String) : Quotes (quote isPlain content) content :=
  .intro (spellsAll_escape content.toList)

/-! ## Numbers -/

theorem toDigits_of_leading_zero (value : Nat)
    (leading : (Nat.toDigits 10 value).head? = some '0') : Nat.toDigits 10 value = ['0'] := by
  induction value using Nat.strongRecOn with
  | ind value induction =>
      by_cases one_digit : value < 10
      · rw [Nat.toDigits_of_lt_base one_digit] at leading ⊢
        rw [Option.some.inj leading]
      · have head_eq := List.head?_eq_some_head (Nat.toDigits_ne_nil (n := value / 10) (b := 10))
        rw [Nat.toDigits_of_base_le (by decide) (Nat.le_of_not_lt one_digit), List.head?_append,
          head_eq, Option.some_or, ← head_eq] at leading
        have front_eq := induction (value / 10) (by omega) leading
        have front_value := Nat.ofDigitChars_ten_toDigits (n := value / 10)
        rw [front_eq] at front_value
        have front_zero : value / 10 = 0 := front_value.symm
        omega

theorem isNatural_toDigits (value : Nat) : IsNatural (Nat.toDigits 10 value) value where
  nonempty := Nat.toDigits_ne_nil
  all_digits := fun _ member => Nat.isDigit_of_mem_toDigits (by decide) (by decide) member
  no_leading_zero := toDigits_of_leading_zero value
  value_eq := Nat.ofDigitChars_ten_toDigits

theorem isInteger_numeral (value : Int) : IsInteger (numeral value) value := by
  rw [numeral, Int.toString_eq_repr, Int.repr_eq_if]
  split
  next nonneg =>
    have natural : IsInteger _ _ := .natural (isNatural_toDigits value.toNat)
    rwa [Int.toNat_of_nonneg nonneg, ← Nat.toList_repr] at natural
  next negative =>
    have negated : IsInteger _ _ := .negative (isNatural_toDigits (-value).toNat)
    rw [Int.toNat_of_nonneg (by omega), Int.neg_neg, ← Nat.toList_repr] at negated
    rwa [String.toList_append]

/-! ## Values -/

theorem blank_nil : Blank [] := fun _ member => absurd member List.not_mem_nil

theorem blank_lineBreak (level : Nat) : Blank (lineBreak level) := by
  intro char member
  rcases List.mem_cons.mp member with rfl | indented
  · decide
  · rw [List.eq_of_mem_replicate indented]
    decide

/-- The text of an entry: its name and its value. -/
def writeEntry (level : Nat) (entry : String × Value) : List Char :=
  quote isPlain entry.1 ++ ": ".toList ++ write level entry.2

theorem writeItems_eq (level : Nat) (items : List Value) :
    writeItems level items =
      items.flatMap fun item => ',' :: lineBreak level ++ write level item := by
  induction items with
  | nil => rw [writeItems, List.flatMap_nil]
  | cons item rest induction => rw [writeItems, induction, List.flatMap_cons]

theorem writeEntries_eq (level : Nat) (entries : List (String × Value)) :
    writeEntries level entries =
      entries.flatMap fun entry => ',' :: lineBreak level ++ writeEntry level entry := by
  induction entries with
  | nil => rw [writeEntries, List.flatMap_nil]
  | cons entry rest induction =>
      rw [writeEntries, induction, List.flatMap_cons, writeEntry]
      simp only [List.append_assoc]

/-- Parts that are written one after the other, each behind a gap, are parted by commas. -/
theorem parted_of_written {α : Type} {Part : List Char → α → Prop} (writePart : α → List Char)
    {gap ending : List Char} (blank_gap : Blank gap) (blank_ending : Blank ending) {first : α}
    {rest : List α} (parts : ∀ part ∈ first :: rest, Part (writePart part) part) :
    Parted (Padded Part)
      (gap ++ writePart first ++ (rest.flatMap fun part => ',' :: gap ++ writePart part) ++ ending)
      (first :: rest) := by
  induction rest generalizing first with
  | nil =>
      rw [List.flatMap_nil, List.append_nil]
      exact .last (.intro blank_gap (parts first List.mem_cons_self) blank_ending)
  | cons second others induction =>
      obtain ⟨first_part, other_parts⟩ := List.forall_mem_cons.mp parts
      have padded : Padded Part (gap ++ writePart first) first := by
        simpa using Padded.intro blank_gap first_part blank_nil
      have parted := Parted.more padded (induction other_parts)
      simpa only [List.flatMap_cons, List.append_assoc, List.cons_append] using parted

theorem named_writeEntry {level : Nat} {entry : String × Value}
    (means : Means (write level entry.2) entry.2) : Named Means (writeEntry level entry) entry := by
  have named : Named Means (quote isPlain entry.1 ++ [] ++ ':' :: [' '] ++ write level entry.2)
      entry :=
    .intro (quotes_quote entry.1) blank_nil (by simp [Blank]) means
  rwa [List.append_nil] at named

/-- A written value stands for itself. -/
theorem means_write {value : Value} (writable : value.Writable) (level : Nat) :
    Means (write level value) value := by
  induction writable generalizing level with
  | null =>
      rw [write]
      exact .null
  | boolean value =>
      cases value
      · rw [write]
        exact .falsehood
      · rw [write]
        exact .truth
  | integer value =>
      rw [write]
      exact .integer (isInteger_numeral value)
  | text value =>
      rw [write]
      exact .text (quotes_quote value)
  | @list items items_writable induction =>
      cases items with
      | nil =>
          rw [write]
          exact .emptyList blank_nil
      | cons item rest =>
          rw [write, writeItems_eq]
          exact .list (parted_of_written (write (level + 1)) (blank_lineBreak (level + 1))
            (blank_lineBreak level) fun part member => induction part member (level + 1))
  | @record entries distinct values_writable induction =>
      cases entries with
      | nil =>
          rw [write]
          exact .emptyRecord blank_nil
      | cons entry rest =>
          rw [write, writeEntries_eq]
          have parted := parted_of_written (writeEntry (level + 1)) (blank_lineBreak (level + 1))
            (blank_lineBreak level) fun part member =>
              named_writeEntry (induction part member (level + 1))
          simpa only [writeEntry, List.append_assoc, List.cons_append] using
            Means.record parted distinct

/-! ## Characters -/

/-- A text has no character outside ASCII. -/
def Ascii (text : List Char) : Prop := ∀ char ∈ text, char.toNat < 128

@[simp]
theorem ascii_nil : Ascii [] := fun _ member => absurd member List.not_mem_nil

@[simp]
theorem ascii_cons {char : Char} {text : List Char} :
    Ascii (char :: text) ↔ char.toNat < 128 ∧ Ascii text :=
  List.forall_mem_cons

@[simp]
theorem ascii_append {front back : List Char} : Ascii (front ++ back) ↔ Ascii front ∧ Ascii back :=
  List.forall_mem_append

theorem ascii_digitChar : ∀ value < 16, (Nat.digitChar value).toNat < 128 := by decide

theorem ascii_unitEscape {unit : Nat} (unit_lt : unit < 0x10000) : Ascii (unitEscape unit) := by
  rw [unitEscape, zeroFill_unit unit_lt]
  simp only [ascii_cons, List.map_cons, List.map_nil]
  exact ⟨by decide, by decide, ascii_digitChar _ (by omega), ascii_digitChar _ (by omega),
    ascii_digitChar _ (by omega), ascii_digitChar _ (by omega), ascii_nil⟩

theorem ascii_codeEscape (char : Char) : Ascii (codeEscape char.toNat) := by
  unfold codeEscape
  split
  next short => exact ascii_unitEscape short
  next =>
    have range := code_range char
    exact ascii_append.mpr ⟨ascii_unitEscape (by omega), ascii_unitEscape (by omega)⟩

theorem ascii_escape (char : Char) : Ascii (escape isPlain char) := by
  have plain_or_code :
      Ascii (if isPlain char then [char] else codeEscape char.toNat) := by
    split
    next plain =>
      simp only [isPlain, Bool.and_eq_true, decide_eq_true_eq] at plain
      exact ascii_cons.mpr ⟨by omega, ascii_nil⟩
    next => exact ascii_codeEscape char
  unfold escape
  -- The seven short escapes.
  iterate 7
    split
    · simp
  exact plain_or_code

theorem ascii_quote (content : String) : Ascii (quote isPlain content) := by
  have ascii_content : Ascii (content.toList.flatMap (escape isPlain)) := by
    intro char member
    obtain ⟨escaped, _, member⟩ := List.mem_flatMap.mp member
    exact ascii_escape escaped char member
  simp [quote, ascii_content]

theorem IsNatural.ascii {digits : List Char} {value : Nat} (numeral : IsNatural digits value) :
    Ascii digits := by
  intro digit member
  have digit_le := (Char.isDigit_iff_toNat.mp (numeral.all_digits digit member)).2
  exact Nat.lt_of_le_of_lt digit_le (by decide)

theorem IsInteger.ascii {text : List Char} {value : Int} (numeral : IsInteger text value) :
    Ascii text := by
  cases numeral with
  | natural numeral => exact numeral.ascii
  | negative numeral => exact ascii_cons.mpr ⟨by decide, numeral.ascii⟩

theorem ascii_lineBreak (level : Nat) : Ascii (lineBreak level) := by
  refine ascii_cons.mpr ⟨by decide, fun char indented => ?_⟩
  rw [List.eq_of_mem_replicate indented]
  decide

/-- Parts that are written one after the other are in ASCII if each of them is. -/
theorem ascii_flatMap {α : Type} {writePart : α → List Char} {parts : List α}
    (ascii : ∀ part ∈ parts, Ascii (writePart part)) : Ascii (parts.flatMap writePart) := by
  intro char member
  obtain ⟨part, part_mem, char_mem⟩ := List.mem_flatMap.mp member
  exact ascii part part_mem char char_mem

theorem ascii_write {value : Value} (writable : value.Writable) (level : Nat) :
    Ascii (write level value) := by
  induction writable generalizing level with
  | null => simp [write]
  | boolean value => cases value <;> simp [write]
  | integer value =>
      rw [write]
      exact (isInteger_numeral value).ascii
  | text value =>
      rw [write]
      exact ascii_quote value
  | @list items items_writable induction =>
      cases items with
      | nil => simp [write]
      | cons item rest =>
          obtain ⟨ascii_item, ascii_rest⟩ := List.forall_mem_cons.mp induction
          have ascii_items : Ascii (rest.flatMap fun item =>
              ',' :: (lineBreak (level + 1) ++ write (level + 1) item)) :=
            ascii_flatMap fun item member => by
              simp [ascii_lineBreak, ascii_rest item member]
          rw [write, writeItems_eq]
          simp [ascii_lineBreak, ascii_item, ascii_items]
  | @record entries distinct values_writable induction =>
      have ascii_entry : ∀ entry ∈ entries, Ascii (writeEntry (level + 1) entry) := by
        intro entry member
        simp [writeEntry, ascii_quote, induction entry member]
      cases entries with
      | nil => simp [write]
      | cons entry rest =>
          obtain ⟨ascii_first, ascii_rest⟩ := List.forall_mem_cons.mp ascii_entry
          have ascii_entries : Ascii (rest.flatMap fun entry =>
              ',' :: (lineBreak (level + 1) ++ writeEntry (level + 1) entry)) :=
            ascii_flatMap fun entry member => by
              simp [ascii_lineBreak, ascii_rest entry member]
          rw [writeEntry] at ascii_first
          rw [write, writeEntries_eq]
          simp only [ascii_cons, ascii_append] at ascii_first ascii_entries ⊢
          simp [ascii_lineBreak, ascii_first, ascii_entries]

end Json

namespace Value

variable {value : Value}

theorem Writable.ascii_json (writable : value.Writable) : Json.Ascii value.json.toList := by
  rw [json, String.toList_ofList]
  exact Json.ascii_write writable 0

theorem Writable.means_json (writable : value.Writable) :
    Json.Padded Json.Means value.json.toList value := by
  rw [json, String.toList_ofList]
  simpa using Json.Padded.intro Json.blank_nil (Json.means_write writable 0) Json.blank_nil

end Value
end ElfInspect
