import ElfInspect.Proofs.Json.Grammar

/-!
# Reading JSON

A reader that returns the value of every text that stands for one.  So there are conforming parsers,
and no text stands for two values.
-/

namespace ElfInspect
namespace Json

/-- A reader returns what it finds at the front of a text, and the rest of the text. -/
abbrev Reader (α : Type) := List Char → Option (α × List Char)

/-! ## Texts -/

/-- The character of a code, if there is one. -/
def char? (code : Nat) : Option Char :=
  if code.isValidChar then some (Char.ofNat code) else none

def readUnit : Reader Nat := fun text => (unit? (text.take 4)).map fun unit => (unit, text.drop 4)

/-- The second half of a surrogate pair, and the character of both. -/
def readSurrogate (high : Nat) : Reader Char
  | '\\' :: 'u' :: text => do
      let (low, rest) ← readUnit text
      if 0xDC00 ≤ low ∧ low < 0xE000 then
        let char ← char? (0x10000 + 0x400 * (high - 0xD800) + (low - 0xDC00))
        return (char, rest)
      else none
  | _ => none

/-- The character of what follows a backslash. -/
def readEscape : Reader Char
  | [] => none
  | letter :: text =>
      if letter = 'u' then do
        let (unit, rest) ← readUnit text
        if 0xD800 ≤ unit ∧ unit < 0xDC00 then readSurrogate unit rest
        else
          let char ← char? unit
          return (char, rest)
      else (letters.lookup letter).map fun char => (char, text)

def readChar : Reader Char
  | [] => none
  | char :: text =>
      if char = '\\' then readEscape text
      else if 0x20 ≤ char.toNat then some (char, text)
      else none

/-- The characters up to a double quote. -/
def readChars : Nat → Reader (List Char)
  | 0, _ => none
  | _ + 1, [] => none
  | fuel + 1, first :: text =>
      if first = '"' then some ([], text)
      else do
        let (char, rest) ← readChar (first :: text)
        let (chars, rest) ← readChars fuel rest
        return (char :: chars, rest)

def readQuotes (fuel : Nat) : Reader String
  | [] => none
  | first :: text =>
      if first = '"' then (readChars fuel text).map fun (chars, rest) => (String.ofList chars, rest)
      else none

/-! ## Numbers -/

def readNatural : Reader Nat := fun text =>
  let digits := text.takeWhile Char.isDigit
  if digits ≠ [] ∧ (digits.head? = some '0' → digits = ['0']) then
    some (Nat.ofDigitChars 10 digits 0, text.dropWhile Char.isDigit)
  else none

def readInteger : Reader Int
  | [] => none
  | first :: text =>
      if first = '-' then (readNatural text).map fun (value, rest) => (-value, rest)
      else (readNatural (first :: text)).map fun (value, rest) => (value, rest)

/-! ## Values -/

def isBlank (char : Char) : Bool := char ∈ [' ', '\t', '\n', '\r']

section Parts

variable {α : Type}

/-- A part and the blanks around it. -/
def readPadded (read : Reader α) : Reader α := fun text =>
  (read (text.dropWhile isBlank)).map fun (item, rest) => (item, rest.dropWhile isBlank)

/-- Parts up to the closing bracket. -/
def readParts (read : Reader α) (close : Char) : Nat → Reader (List α)
  | 0, _ => none
  | fuel + 1, text => do
      let (item, rest) ← readPadded read text
      match rest with
      | [] => none
      | mark :: rest =>
          if mark = close then return ([item], rest)
          else if mark = ',' then
            let (items, rest) ← readParts read close fuel rest
            return (item :: items, rest)
          else none

/-- Parts, or none of them, up to the closing bracket. -/
def readBracket (read : Reader α) (close : Char) (fuel : Nat) : Reader (List α) := fun text =>
  if (text.dropWhile isBlank).head? = some close then some ([], (text.dropWhile isBlank).tail)
  else readParts read close fuel text

/-- A name, a colon and a part. -/
def readNamed (read : Reader α) (fuel : Nat) : Reader (String × α) := fun text => do
  let (name, rest) ← readQuotes fuel text
  match rest.dropWhile isBlank with
  | [] => none
  | mark :: rest =>
      if mark = ':' then
        let (item, rest) ← read (rest.dropWhile isBlank)
        return ((name, item), rest)
      else none

end Parts

def readLiteral (literal : String) (value : Value) : Reader Value := fun text =>
  if literal.toList <+: text then some (value, text.drop literal.length) else none

def readValue : Nat → Reader Value
  | 0, _ => none
  | _ + 1, [] => none
  | fuel + 1, first :: text =>
      if first = 'n' then readLiteral "null" .null (first :: text)
      else if first = 't' then readLiteral "true" (.boolean true) (first :: text)
      else if first = 'f' then readLiteral "false" (.boolean false) (first :: text)
      else if first = '"' then
        (readQuotes fuel (first :: text)).map fun (content, rest) => (.text content, rest)
      else if first = '[' then
        (readBracket (readValue fuel) ']' fuel text).map fun (items, rest) => (.list items, rest)
      else if first = '\x7b' then do
        let (entries, rest) ← readBracket (readNamed (readValue fuel) fuel) '\x7d' fuel text
        if (entries.map Prod.fst).Nodup then return (.record entries, rest) else none
      else (readInteger (first :: text)).map fun (value, rest) => (.integer value, rest)

/-- The value for which a text stands. -/
def read? (text : String) : Option Value :=
  match readPadded (readValue text.length) text.toList with
  | some (value, []) => some value
  | _ => none

/-! ## Every text that stands for something is read -/

theorem char?_toNat (char : Char) : char? char.toNat = some char := by
  rw [char?, if_pos (show char.toNat.isValidChar from char.valid), Char.ofNat_toNat]

theorem readUnit_append {digits : List Char} {unit : Nat} (unit_eq : unit? digits = some unit)
    (rest : List Char) : readUnit (digits ++ rest) = some (unit, rest) := by
  have length_eq : digits.length = 4 := by
    unfold unit? at unit_eq
    split at unit_eq
    · rfl
    · contradiction
  rw [readUnit, List.take_left' length_eq, List.drop_left' length_eq, unit_eq]
  rfl

theorem lookup_letters : ∀ pair ∈ letters, pair.1 ≠ 'u' ∧ letters.lookup pair.1 = some pair.2 := by
  decide

theorem readChar_of_spells {spelling : List Char} {char : Char} (spells : Spells spelling char)
    (rest : List Char) : readChar (spelling ++ rest) = some (char, rest) := by
  cases spells with
  | plain visible no_quote no_backslash =>
      rw [List.singleton_append, readChar, if_neg no_backslash, if_pos visible]
  | letter listed =>
      obtain ⟨letter_ne, lookup_eq⟩ := lookup_letters _ listed
      simp only [List.cons_append, List.nil_append, readChar, readEscape, if_pos, if_neg letter_ne,
        lookup_eq, Option.map_some]
  | unit unit_eq =>
      have no_surrogate : ¬(0xD800 ≤ char.toNat ∧ char.toNat < 0xDC00) := by
        have range := code_range char
        omega
      simp only [List.cons_append, readChar, readEscape, if_pos, readUnit_append unit_eq,
        Option.bind_eq_bind, Option.bind_some, if_neg no_surrogate, char?_toNat]
      rfl
  | surrogates high_eq low_eq high_range low_range code_eq =>
      simp only [List.cons_append, List.append_assoc, readChar, readEscape, readSurrogate, if_pos,
        readUnit_append high_eq, readUnit_append low_eq, Option.bind_eq_bind, Option.bind_some,
        if_pos high_range, if_pos low_range, ← code_eq, char?_toNat]
      rfl

theorem ne_quote_of_spells {spelling : List Char} {char : Char} (spells : Spells spelling char) :
    ∃ first rest, spelling = first :: rest ∧ first ≠ '"' := by
  cases spells with
  | plain visible no_quote no_backslash => exact ⟨_, _, rfl, no_quote⟩
  | letter listed => exact ⟨_, _, rfl, by decide⟩
  | unit unit_eq => exact ⟨_, _, rfl, by decide⟩
  | surrogates => exact ⟨_, _, rfl, by decide⟩

theorem readChars_of_spellsAll {spelling chars : List Char} (spells : SpellsAll spelling chars)
    {fuel : Nat} (size_lt : spelling.length < fuel) (rest : List Char) :
    readChars fuel (spelling ++ '"' :: rest) = some (chars, rest) := by
  induction spells generalizing fuel with
  | nil =>
      obtain ⟨remaining, rfl⟩ := Nat.exists_eq_add_one_of_ne_zero (Nat.ne_of_gt size_lt)
      rfl
  | cons first others induction =>
      obtain ⟨mark, tail, rfl, no_quote⟩ := ne_quote_of_spells first
      obtain ⟨remaining, rfl⟩ :=
        Nat.exists_eq_add_one_of_ne_zero (Nat.ne_of_gt (Nat.zero_lt_of_lt size_lt))
      rw [List.length_append, List.length_cons] at size_lt
      have read_first := readChar_of_spells first
      simp only [List.cons_append] at read_first
      simp only [List.cons_append, List.append_assoc, readChars, if_neg no_quote, read_first,
        Option.bind_eq_bind, Option.bind_some, induction (by omega : _ < remaining)]
      rfl

theorem readQuotes_of_quotes {text : List Char} {content : String} (quotes : Quotes text content)
    {fuel : Nat} (size_le : text.length ≤ fuel + 1) (rest : List Char) :
    readQuotes fuel (text ++ rest) = some (content, rest) := by
  cases quotes with
  | intro spells =>
      rw [List.length_append, List.length_cons, List.length_singleton] at size_le
      rw [List.append_assoc, List.cons_append, List.singleton_append, readQuotes, if_pos rfl,
        readChars_of_spellsAll spells (by omega), Option.map_some]
      simp only [String.ofList_toList]

/-- What follows a numeral does not go on with it. -/
def Stops (rest : List Char) : Prop := ∀ char ∈ rest.head?, char.isDigit = false

/-- What follows a part neither goes on with its numeral nor with blanks. -/
def Ends (rest : List Char) : Prop :=
  ∀ char ∈ rest.head?, char.isDigit = false ∧ isBlank char = false

theorem readNatural_of_isNatural {digits : List Char} {value : Nat}
    (numeral : IsNatural digits value) {rest : List Char} (stops : Stops rest) :
    readNatural (digits ++ rest) = some (value, rest) := by
  have take_rest : rest.takeWhile Char.isDigit = [] := by
    cases rest with
    | nil => rfl
    | cons char tail => rw [List.takeWhile_cons_of_neg (by simp [stops char rfl])]
  have drop_rest : rest.dropWhile Char.isDigit = rest := by
    cases rest with
    | nil => rfl
    | cons char tail => rw [List.dropWhile_cons_of_neg (by simp [stops char rfl])]
  rw [readNatural, List.takeWhile_append_of_pos numeral.all_digits, take_rest, List.append_nil,
    List.dropWhile_append_of_pos numeral.all_digits, drop_rest]
  simp only [if_pos (And.intro numeral.nonempty numeral.no_leading_zero), numeral.value_eq]

theorem IsNatural.exists_cons {digits : List Char} {value : Nat}
    (numeral : IsNatural digits value) : ∃ first rest, digits = first :: rest ∧ first.isDigit := by
  obtain ⟨first, rest, rfl⟩ := List.exists_cons_of_ne_nil numeral.nonempty
  exact ⟨first, rest, rfl, numeral.all_digits first List.mem_cons_self⟩

theorem readInteger_of_isInteger {text : List Char} {value : Int} (numeral : IsInteger text value)
    {rest : List Char} (stops : Stops rest) : readInteger (text ++ rest) = some (value, rest) := by
  cases numeral with
  | natural numeral =>
      have read := readNatural_of_isNatural numeral stops
      obtain ⟨first, digits, rfl, digit⟩ := numeral.exists_cons
      have no_sign : first ≠ '-' := by
        rintro rfl
        contradiction
      rw [List.cons_append] at read ⊢
      rw [readInteger, if_neg no_sign, read, Option.map_some]
  | negative numeral =>
      rw [List.cons_append, readInteger, if_pos rfl, readNatural_of_isNatural numeral stops,
        Option.map_some]

/-- A numeral can be told from everything else by its first character. -/
theorem IsInteger.exists_cons {text : List Char} {value : Int} (numeral : IsInteger text value) :
    ∃ first rest, text = first :: rest ∧
      ∀ char, char.isDigit = false → char ≠ '-' → first ≠ char := by
  cases numeral with
  | natural numeral =>
      obtain ⟨first, rest, rfl, digit⟩ := numeral.exists_cons
      refine ⟨first, rest, rfl, ?_⟩
      rintro char no_digit - rfl
      rw [no_digit] at digit
      contradiction
  | negative numeral => exact ⟨'-', _, rfl, fun char _ no_sign => no_sign.symm⟩

section Parts

variable {α : Type}

/-- A part can be told from blanks and from the end of what holds it. -/
def Starts (Part : List Char → α → Prop) : Prop :=
  ∀ text item, Part text item →
    ∃ first rest, text = first :: rest ∧ isBlank first = false ∧ first ≠ ']' ∧ first ≠ '\x7d'

/-- A reader finds the parts up to some size. -/
def Reads (read : Reader α) (Part : List Char → α → Prop) (size : Nat) : Prop :=
  ∀ text item, Part text item → text.length ≤ size →
    ∀ rest, Stops rest → read (text ++ rest) = some (item, rest)

variable {read : Reader α} {Part : List Char → α → Prop} {size fuel : Nat} {close : Char}
variable {text rest : List Char}

theorem dropWhile_blank (blank : Blank text) (rest : List Char) :
    (text ++ rest).dropWhile isBlank = rest.dropWhile isBlank :=
  List.dropWhile_append_of_pos fun char member => decide_eq_true (blank char member)

theorem Ends.dropWhile (ends : Ends rest) : rest.dropWhile isBlank = rest := by
  cases rest with
  | nil => rfl
  | cons char tail => rw [List.dropWhile_cons_of_neg (by simp [(ends char rfl).2])]

theorem Ends.stops (ends : Ends rest) : Stops rest := fun char head => (ends char head).1

theorem stops_cons {char : Char} (no_digit : char.isDigit = false) (rest : List Char) :
    Stops (char :: rest) := by
  rintro _ ⟨⟩
  exact no_digit

theorem blank_not_digit : ∀ char ∈ [' ', '\t', '\n', '\r'], char.isDigit = false := by simp

theorem Ends.stops_blank (ends : Ends rest) (blank : Blank text) : Stops (text ++ rest) := by
  cases text with
  | nil => exact ends.stops
  | cons char tail => exact stops_cons (blank_not_digit char (blank char List.mem_cons_self)) _

theorem Starts.dropWhile (starts : Starts Part) {item : α} (part : Part text item)
    (rest : List Char) : (text ++ rest).dropWhile isBlank = text ++ rest := by
  obtain ⟨first, tail, rfl, no_blank, _⟩ := starts _ _ part
  rw [List.cons_append, List.dropWhile_cons_of_neg (by simp [no_blank])]

theorem Reads.padded (reads : Reads read Part size) (starts : Starts Part) {item : α}
    (padded : Padded Part text item) (size_le : text.length ≤ size) (ends : Ends rest) :
    readPadded read (text ++ rest) = some (item, rest) := by
  cases padded with
  | @intro front inner back _ before part after =>
      rw [List.length_append, List.length_append] at size_le
      rw [readPadded, List.append_assoc, List.append_assoc, dropWhile_blank before,
        starts.dropWhile part,
        reads inner item part (by omega) (back ++ rest) (ends.stops_blank after), Option.map_some]
      simp only [dropWhile_blank after, ends.dropWhile]

theorem Starts.head_ne (starts : Starts Part) {item : α} (padded : Padded Part text item)
    (bracket : close = ']' ∨ close = '\x7d') (rest : List Char) :
    ((text ++ rest).dropWhile isBlank).head? ≠ some close := by
  cases padded with
  | @intro front inner back _ before part after =>
      rw [List.append_assoc, List.append_assoc, dropWhile_blank before, starts.dropWhile part]
      obtain ⟨first, tail, rfl, _, no_square, no_curly⟩ := starts _ _ part
      rintro ⟨⟩
      exact bracket.elim no_square no_curly

theorem ends_cons {mark : Char} (no_digit : mark.isDigit = false) (no_blank : isBlank mark = false)
    (rest : List Char) : Ends (mark :: rest) := by
  rintro _ ⟨⟩
  exact ⟨no_digit, no_blank⟩

theorem Reads.parts (reads : Reads read Part size) (starts : Starts Part) {items : List α}
    (bracket : close = ']' ∨ close = '\x7d') (parts : Parted (Padded Part) text items)
    (size_le : text.length ≤ size) (size_lt : text.length < fuel) (rest : List Char) :
    readParts read close fuel (text ++ close :: rest) = some (items, rest) := by
  obtain ⟨no_digit, no_blank, no_comma⟩ :
      close.isDigit = false ∧ isBlank close = false ∧ ',' ≠ close := by
    rcases bracket with rfl | rfl <;> decide
  induction parts generalizing fuel with
  | last part =>
      obtain ⟨remaining, rfl⟩ :=
        Nat.exists_eq_add_one_of_ne_zero (Nat.ne_of_gt (Nat.zero_lt_of_lt size_lt))
      have found := reads.padded starts part size_le (ends_cons no_digit no_blank rest)
      simp only [readParts, found, Option.bind_eq_bind, Option.bind_some, if_pos]
      rfl
  | @more front back item items part others induction =>
      obtain ⟨remaining, rfl⟩ :=
        Nat.exists_eq_add_one_of_ne_zero (Nat.ne_of_gt (Nat.zero_lt_of_lt size_lt))
      rw [List.length_append, List.length_cons] at size_le size_lt
      have found := reads.padded starts part (by omega)
        (ends_cons (by decide) (by decide) (back ++ close :: rest) : Ends (',' :: _))
      have others_found := induction (by omega) (by omega : _ < remaining)
      simp only [List.append_assoc, List.cons_append, readParts, found, Option.bind_eq_bind,
        Option.bind_some, if_pos, if_neg no_comma, others_found]
      rfl

theorem Reads.bracket (reads : Reads read Part size) (starts : Starts Part) {items : List α}
    (bracket : close = ']' ∨ close = '\x7d') (parts : Parted (Padded Part) text items)
    (size_le : text.length ≤ size) (size_lt : text.length < fuel) (rest : List Char) :
    readBracket read close fuel (text ++ close :: rest) = some (items, rest) := by
  have no_close : ((text ++ close :: rest).dropWhile isBlank).head? ≠ some close := by
    cases parts with
    | last part => exact starts.head_ne part bracket _
    | more part others =>
        rw [List.append_assoc]
        exact starts.head_ne part bracket _
  rw [readBracket, if_neg no_close, reads.parts starts bracket parts size_le size_lt]

theorem readBracket_blank (read : Reader α) (bracket : close = ']' ∨ close = '\x7d')
    (blank : Blank text) (fuel : Nat) (rest : List Char) :
    readBracket read close fuel (text ++ close :: rest) = some ([], rest) := by
  have no_blank : isBlank close = false := by
    rcases bracket with rfl | rfl <;> decide
  have dropped : (text ++ close :: rest).dropWhile isBlank = close :: rest := by
    rw [dropWhile_blank blank, List.dropWhile_cons_of_neg (by simp [no_blank])]
  rw [readBracket, dropped, List.head?_cons, if_pos rfl, List.tail_cons]

theorem Reads.named (reads : Reads read Part size) (starts : Starts Part)
    (size_le : size ≤ fuel + 1) : Reads (readNamed read fuel) (Named Part) size := by
  rintro text ⟨name, item⟩ named inside rest stops
  cases named with
  | @intro label front back inner _ _ quotes before after part =>
      simp only [List.length_append, List.length_cons] at inside
      have name_found := readQuotes_of_quotes quotes (by omega : label.length ≤ fuel + 1)
        (front ++ ':' :: (back ++ (inner ++ rest)))
      have colon_found : (front ++ ':' :: (back ++ (inner ++ rest))).dropWhile isBlank =
          ':' :: (back ++ (inner ++ rest)) := by
        rw [dropWhile_blank before, List.dropWhile_cons_of_neg (by decide)]
      have part_found : read ((back ++ (inner ++ rest)).dropWhile isBlank) = some (item, rest) := by
        rw [dropWhile_blank after, starts.dropWhile part,
          reads inner item part (by omega) rest stops]
      simp only [List.append_assoc, List.cons_append, readNamed, name_found, Option.bind_eq_bind,
        Option.bind_some, colon_found, if_pos, part_found]
      rfl

theorem starts_named : Starts (Named Part) := by
  rintro text ⟨name, item⟩ named
  cases named with
  | intro quotes before after part =>
      cases quotes with
      | intro spells => exact ⟨_, _, rfl, by decide⟩

end Parts

theorem starts_means : Starts Means := by
  intro text value means
  cases means with
  | null => exact ⟨_, _, rfl, by decide⟩
  | truth => exact ⟨_, _, rfl, by decide⟩
  | falsehood => exact ⟨_, _, rfl, by decide⟩
  | integer numeral =>
      obtain ⟨first, rest, text_eq, first_ne⟩ := numeral.exists_cons
      refine ⟨first, rest, text_eq, ?_, first_ne _ (by decide) (by decide),
        first_ne _ (by decide) (by decide)⟩
      refine decide_eq_false fun blank => ?_
      have no_sign : first ≠ '-' := by
        rintro rfl
        simp at blank
      exact first_ne first (blank_not_digit first blank) no_sign rfl
  | text quotes =>
      cases quotes with
      | intro spells => exact ⟨_, _, rfl, by decide⟩
  | emptyList blank => exact ⟨_, _, rfl, by decide⟩
  | list parts => exact ⟨_, _, rfl, by decide⟩
  | emptyRecord blank => exact ⟨_, _, rfl, by decide⟩
  | record parts distinct => exact ⟨_, _, rfl, by decide⟩

theorem readLiteral_append (literal : String) (value : Value) (rest : List Char) :
    readLiteral literal value (literal.toList ++ rest) = some (value, rest) := by
  rw [readLiteral, if_pos (List.prefix_append _ _), ← String.length_toList, List.drop_left]

/-! The first character decides which reader goes on. -/

theorem readValue_quote (fuel : Nat) (text : List Char) :
    readValue (fuel + 1) ('"' :: text) =
      (readQuotes fuel ('"' :: text)).map fun (content, rest) => (.text content, rest) :=
  rfl

theorem readValue_square (fuel : Nat) (text : List Char) :
    readValue (fuel + 1) ('[' :: text) =
      (readBracket (readValue fuel) ']' fuel text).map fun (items, rest) => (.list items, rest) :=
  rfl

theorem readValue_curly {fuel : Nat} {text rest : List Char} {entries : List (String × Value)}
    (found : readBracket (readNamed (readValue fuel) fuel) '\x7d' fuel text = some (entries, rest))
    (distinct : (entries.map Prod.fst).Nodup) :
    readValue (fuel + 1) ('\x7b' :: text) = some (.record entries, rest) := by
  change (readBracket (readNamed (readValue fuel) fuel) '\x7d' fuel text).bind _ = _
  rw [found]
  exact if_pos distinct

theorem readValue_numeral (fuel : Nat) {first : Char} (text : List Char)
    (first_ne : ∀ char, char.isDigit = false → char ≠ '-' → first ≠ char) :
    readValue (fuel + 1) (first :: text) =
      (readInteger (first :: text)).map fun (value, rest) => (.integer value, rest) := by
  simp [readValue, first_ne]

/-- A reader finds every value as long as its fuel. -/
theorem reads_readValue (fuel : Nat) : Reads (readValue fuel) Means fuel := by
  induction fuel with
  | zero =>
      intro text value means size_le rest stops
      obtain ⟨first, tail, rfl, _⟩ := starts_means _ _ means
      contradiction
  | succ fuel induction =>
      intro text value means size_le rest stops
      cases means with
      | null => exact readLiteral_append "null" .null rest
      | truth => exact readLiteral_append "true" (.boolean true) rest
      | falsehood => exact readLiteral_append "false" (.boolean false) rest
      | integer numeral =>
          have found := readInteger_of_isInteger numeral stops
          obtain ⟨first, tail, rfl, first_ne⟩ := numeral.exists_cons
          rw [List.cons_append] at found ⊢
          rw [readValue_numeral fuel _ first_ne, found]
          rfl
      | text quotes =>
          have found := readQuotes_of_quotes quotes size_le rest
          cases quotes with
          | intro spells =>
              rw [List.cons_append, List.cons_append] at found ⊢
              rw [readValue_quote, found]
              rfl
      | emptyList blank =>
          rw [List.append_assoc, List.cons_append, List.singleton_append, readValue_square,
            readBracket_blank _ (.inl rfl) blank]
          rfl
      | list parts =>
          simp only [List.length_append, List.length_cons, List.length_nil] at size_le
          rw [List.append_assoc, List.cons_append, List.singleton_append, readValue_square,
            induction.bracket starts_means (.inl rfl) parts (by omega) (by omega)]
          rfl
      | emptyRecord blank =>
          rw [List.append_assoc, List.cons_append, List.singleton_append]
          exact readValue_curly (readBracket_blank _ (.inr rfl) blank _ _) List.nodup_nil
      | record parts distinct =>
          simp only [List.length_append, List.length_cons, List.length_nil] at size_le
          have named := induction.named starts_means (Nat.le_succ fuel)
          rw [List.append_assoc, List.cons_append, List.singleton_append]
          exact readValue_curly
            (named.bracket starts_named (.inr rfl) parts (by omega) (by omega) _) distinct

/-- The reader conforms to the grammar. -/
theorem conforms_read? : Conforms read? := by
  intro text value padded
  have reads := reads_readValue text.length
  have found := reads.padded starts_means padded (Nat.le_of_eq String.length_toList)
    (by simp [Ends] : Ends [])
  rw [List.append_nil] at found
  rw [read?, found]

example : read? " [-7, \"\\u00e9\\/\\uD83D\\ude00\"] " =
    some (.list [.integer (-7), .text "é/😀"]) :=
  rfl

/-- No text stands for two values. -/
theorem padded_means_unique {text : List Char} {left right : Value}
    (left_means : Padded Means text left) (right_means : Padded Means text right) :
    left = right := by
  rw [← String.toList_ofList (l := text)] at left_means right_means
  have same := (conforms_read? _ left left_means).symm.trans (conforms_read? _ right right_means)
  exact Option.some.inj same

end Json
end ElfInspect
