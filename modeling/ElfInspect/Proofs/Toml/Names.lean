import ElfInspect.Proofs.Value.Entry
import ElfInspect.Toml.Document

/-!
# Names in settings documents

A document that gives a name twice in one table is ill formed: in what is read, at any depth, no two
entries of a table have the same name.
-/

namespace ElfInspect
namespace Toml

/-! ## What scanners find -/

/-- Everything that can be found has a property. -/
def Yields {α : Type} (Good : α → Prop) (result : Except Flaw α) : Prop :=
  ∀ found, result = .ok found → Good found

namespace Yields

variable {α β : Type} {Good : α → Prop} {Other : β → Prop} {result : Except Flaw α}

theorem ok {found : α} (good : Good found) : Yields Good (.ok found) := by
  intro other same
  rw [← Except.ok.inj same]
  exact good

theorem error (flaw : Flaw) : Yields Good (.error flaw) := by
  intro found same
  contradiction

theorem trivial (result : Except Flaw α) : Yields (fun _ => True) result :=
  fun _ _ => True.intro

theorem bind {next : α → Except Flaw β} (first : Yields Good result)
    (then_yields : ∀ found, Good found → Yields Other (next found)) :
    Yields Other (result >>= next) := by
  cases result with
  | error flaw => exact error flaw
  | ok found => exact then_yields found (first found rfl)

theorem map {convert : α → β} (first : Yields Good result)
    (then_good : ∀ found, Good found → Other (convert found)) :
    Yields Other (result.map convert) := by
  cases result with
  | error flaw => exact error flaw
  | ok found => exact ok (then_good found (first found rfl))

theorem demand {found : Option α} (every : ∀ item, found = some item → Good item) :
    Yields Good (demand found) := by
  cases found with
  | none => exact error .malformed
  | some item => exact ok (every item rfl)

end Yields

/-! ## Changes of tables -/

/-- A change after which no two entries of a table have the same name if none had before. -/
def KeepsNames (change : Entries → Option Entries) : Prop :=
  ∀ entries changed, change entries = some changed → (Value.record entries).WellNamed →
    (Value.record changed).WellNamed

theorem keepsNames_some : KeepsNames some := by
  intro entries changed same named
  rw [← Option.some.inj same]
  exact named

theorem keepsNames_insertNew {value : Value} (value_named : value.WellNamed) (key : String) :
    KeepsNames (insertNew key value) := by
  intro entries changed inserted named
  rw [insertNew] at inserted
  cases found : Value.entry? key entries with
  | none =>
      rw [found] at inserted
      rw [← Option.some.inj inserted]
      exact named.append found value_named
  | some old =>
      rw [found] at inserted
      contradiction

theorem keepsNames_appendTable (key : String) : KeepsNames (appendTable key) := by
  intro entries changed appended named
  rw [appendTable] at appended
  split at appended
  case h_1 found =>
    rw [← Option.some.inj appended]
    exact named.append found (.list (List.forall_mem_singleton.mpr .empty))
  case h_2 items found =>
    rw [← Option.some.inj appended]
    have items_named := Value.wellNamed_list_iff.mp (named.entry found)
    exact named.replace (.listAppend items_named .empty)
  case h_3 => contradiction

/-- A change at the end of a path keeps the names on the way to it. -/
theorem keepsNames_within {change : Entries → Option Entries} (keeps : KeepsNames change)
    (throughLists : Bool) (path : KeyPath) : KeepsNames (within throughLists change path) := by
  induction path with
  | nil => exact keeps
  | cons key path induction =>
      intro entries changed reached named
      rw [within] at reached
      split at reached
      case h_1 found =>
        obtain ⟨inner, inner_reached, ⟨⟩⟩ := Option.bind_eq_some_iff.mp reached
        exact named.append found (induction _ _ inner_reached .empty)
      case h_2 old found =>
        obtain ⟨inner, inner_reached, ⟨⟩⟩ := Option.bind_eq_some_iff.mp reached
        exact named.replace (induction _ _ inner_reached (named.entry found))
      case h_3 items found =>
        have items_named := Value.wellNamed_list_iff.mp (named.entry found)
        split at reached
        case h_1 old last_eq =>
          obtain ⟨inner, inner_reached, ⟨⟩⟩ := Option.bind_eq_some_iff.mp reached
          have old_named := items_named _ (List.mem_of_getLast? last_eq)
          exact named.replace (.listAppend
            (fun item member => items_named item (List.dropLast_subset _ member))
            (induction _ _ inner_reached old_named))
        case h_2 => contradiction
      case h_4 => contradiction

/-! ## Values -/

theorem keepsNames_demand {change : Entries → Option Entries} (keeps : KeepsNames change)
    {entries : Entries} (named : (Value.record entries).WellNamed) :
    Yields (fun changed => (Value.record changed).WellNamed) (demand (change entries)) :=
  .demand fun changed changed_eq => keeps entries changed changed_eq named

theorem wellNamed_decimal (chars : List Char) :
    Yields (fun found => found.1.WellNamed) (decimal chars) := by
  rw [decimal]
  refine .bind (.trivial _) fun read _ => ?_
  dsimp only
  split
  case isTrue => exact .ok (.fraction _)
  case isFalse =>
    split
    case isTrue => exact .error _
    case isFalse => exact .ok (.integer _)

theorem wellNamed_scalar (chars : List Char) :
    Yields (fun found => found.1.WellNamed) (scalar chars) := by
  rw [scalar]
  split
  case h_1 => exact .error _
  case h_2 => exact .ok (.moment _)
  case h_3 => exact .ok (.moment _)
  case h_4 =>
    rw [number]
    split
    case h_1 => exact .ok (.integer _)
    case h_2 => exact .ok (.fraction _)
    case h_3 => exact wellNamed_decimal chars

/-- What the reader of values finds within some rounds has no name twice. -/
structure FindsNamed (fuel : Nat) : Prop where
  value : ∀ depth chars, Yields (fun found => found.1.WellNamed) (valueWithin fuel depth chars)
  items : ∀ depth chars,
    Yields (fun found => ∀ item ∈ found.1, item.WellNamed) (itemsWithin fuel depth chars)
  entries : ∀ depth frozen entries chars, (Value.record entries).WellNamed →
    Yields (fun found => (Value.record found.1).WellNamed)
      (entriesWithin fuel depth frozen entries chars)

theorem FindsNamed.value_succ {fuel : Nat} (earlier : FindsNamed fuel) (depth : Nat)
    (chars : List Char) :
    Yields (fun found => found.1.WellNamed) (valueWithin (fuel + 1) depth chars) := by
  rw [valueWithin.eq_def]
  dsimp only
  split
  case h_1 => exact .map (.trivial _) fun _ _ => .text _
  case h_2 => exact .map (.trivial _) fun _ _ => .text _
  case h_3 => exact .map (.trivial _) fun _ _ => .text _
  case h_4 => exact .map (.trivial _) fun _ _ => .text _
  case h_5 => exact .ok (.boolean _)
  case h_6 => exact .ok (.boolean _)
  case h_7 rest =>
    refine .bind (.trivial _) fun left _ => ?_
    refine .bind (earlier.items left rest) fun found items_named => ?_
    exact .ok (.list items_named)
  case h_8 rest =>
    split
    case h_1 => exact .ok .empty
    case h_2 =>
      refine .bind (.trivial _) fun left _ => ?_
      refine .bind (earlier.entries left _ _ _ .empty) fun found entries_named => ?_
      exact .ok entries_named
  case h_9 => exact wellNamed_scalar _

theorem FindsNamed.items_succ {fuel : Nat} (earlier : FindsNamed fuel) (depth : Nat)
    (chars : List Char) :
    Yields (fun found => ∀ item ∈ found.1, item.WellNamed)
      (itemsWithin (fuel + 1) depth chars) := by
  rw [itemsWithin]
  refine .bind (.trivial _) fun start _ => ?_
  split
  case h_1 => exact .ok (by simp)
  case h_2 =>
    refine .bind (earlier.value depth _) fun found item_named => ?_
    refine .bind (.trivial _) fun next _ => ?_
    split
    case h_1 => exact .ok (by simpa using item_named)
    case h_2 =>
      refine .bind (earlier.items depth _) fun others others_named => ?_
      exact .ok (List.forall_mem_cons.mpr ⟨item_named, others_named⟩)
    case h_3 => exact .error _

theorem FindsNamed.entries_succ {fuel : Nat} (earlier : FindsNamed fuel) (depth : Nat)
    (frozen : List KeyPath) {entries : Entries} (chars : List Char)
    (named : (Value.record entries).WellNamed) :
    Yields (fun found => (Value.record found.1).WellNamed)
      (entriesWithin (fuel + 1) depth frozen entries chars) := by
  rw [entriesWithin]
  refine .bind (.trivial _) fun read _ => ?_
  obtain ⟨path, rest⟩ := read
  dsimp only
  split
  case h_1 =>
    refine .bind (earlier.value depth _) fun read value_named => ?_
    split
    case isTrue => exact .error _
    case isFalse =>
      have keeps :=
        keepsNames_within (keepsNames_insertNew value_named (path.getLastD "")) false path.dropLast
      refine .bind (keepsNames_demand keeps named) fun inserted inserted_named => ?_
      split
      case h_1 => exact .ok inserted_named
      case h_2 => exact earlier.entries _ _ _ _ inserted_named
      case h_3 => exact .error _
  case h_2 => exact .error _

-- The readers of values, items and entries call each other with less fuel, so one induction carries
-- what all three find.
theorem findsNamed (fuel : Nat) : FindsNamed fuel := by
  induction fuel with
  | zero =>
      refine ⟨fun depth chars => ?_, fun depth chars => ?_, fun depth frozen entries chars _ => ?_⟩
      · rw [valueWithin]
        exact .error _
      · rw [itemsWithin]
        exact .error _
      · rw [entriesWithin]
        exact .error _
  | succ fuel earlier =>
      exact ⟨earlier.value_succ, earlier.items_succ,
        fun depth frozen _ chars named => earlier.entries_succ depth frozen chars named⟩

/-! ## Documents -/

/-- No table that has been read has a name twice. -/
def Draft.Named (draft : Draft) : Prop := (Value.record draft.entries).WellNamed

theorem Draft.named_openTable {draft opened : Draft} {path : KeyPath}
    (open_eq : draft.openTable path = some opened) (named : draft.Named) : opened.Named := by
  rw [openTable] at open_eq
  split at open_eq
  case isTrue => contradiction
  case isFalse =>
    obtain ⟨entries, reached, ⟨⟩⟩ := Option.bind_eq_some_iff.mp open_eq
    exact keepsNames_within keepsNames_some true path _ _ reached named

theorem Draft.named_openListed {draft opened : Draft} {path : KeyPath}
    (open_eq : draft.openListed path = some opened) (named : draft.Named) : opened.Named := by
  rw [openListed] at open_eq
  split at open_eq
  case isTrue => contradiction
  case isFalse =>
    obtain ⟨entries, reached, ⟨⟩⟩ := Option.bind_eq_some_iff.mp open_eq
    exact keepsNames_within (keepsNames_appendTable _) true _ _ _ reached named

theorem Draft.named_assign {draft assigned : Draft} {key : KeyPath} {value : Value}
    (assign_eq : draft.assign key value = some assigned) (value_named : value.WellNamed)
    (named : draft.Named) : assigned.Named := by
  rw [assign] at assign_eq
  split at assign_eq
  case isTrue => contradiction
  case isFalse =>
    obtain ⟨entries, reached, ⟨⟩⟩ := Option.bind_eq_some_iff.mp assign_eq
    exact keepsNames_within (keepsNames_insertNew value_named _) true _ _ _ reached named

theorem named_assignment {draft : Draft} (named : draft.Named) (chars : List Char) :
    Yields (fun found => found.1.Named) (assignment draft chars) := by
  rw [assignment]
  refine .bind (.trivial _) fun read _ => ?_
  obtain ⟨path, rest⟩ := read
  dsimp only
  split
  case h_1 rest =>
    refine .bind ((findsNamed _).value deepest (skipBlanks rest)) fun read value_named => ?_
    have assigned_named : Yields Draft.Named (demand (draft.assign path read.1)) :=
      .demand fun assigned assign_eq => Draft.named_assign assign_eq value_named named
    refine .bind assigned_named fun assigned assigned_named => ?_
    exact .ok assigned_named
  case h_2 => exact .error _

theorem named_header {draft : Draft} (named : draft.Named) (chars : List Char) :
    Yields (fun found => found.1.Named) (demand (header draft chars)) := by
  refine .demand fun found header_eq => ?_
  rw [header.eq_def] at header_eq
  split at header_eq
  case h_1 rest =>
    obtain ⟨⟨path, rest⟩, _, header_eq⟩ := Option.bind_eq_some_iff.mp header_eq
    dsimp only at header_eq
    split at header_eq
    case h_1 =>
      obtain ⟨opened, opened_eq, ⟨⟩⟩ := Option.bind_eq_some_iff.mp header_eq
      exact Draft.named_openListed opened_eq named
    case h_2 => contradiction
  case h_2 =>
    obtain ⟨⟨path, rest⟩, _, header_eq⟩ := Option.bind_eq_some_iff.mp header_eq
    dsimp only at header_eq
    split at header_eq
    case h_1 =>
      obtain ⟨opened, opened_eq, ⟨⟩⟩ := Option.bind_eq_some_iff.mp header_eq
      exact Draft.named_openTable opened_eq named
    case h_2 => contradiction

theorem named_statement {draft : Draft} (named : draft.Named) (chars : List Char) :
    Yields (fun found => found.1.Named) (statement draft chars) := by
  rw [statement.eq_def]
  split
  case h_1 => exact .ok named
  case h_2 => exact .ok named
  case h_3 => exact .ok named
  case h_4 rest => exact named_header named rest
  case h_5 => exact named_assignment named chars

theorem named_linesWithin (fuel : Nat) {draft : Draft} (named : draft.Named) (chars : List Char) :
    Yields Draft.Named (linesWithin fuel draft chars) := by
  induction fuel generalizing draft chars with
  | zero => exact .error _
  | succ fuel induction =>
      rw [linesWithin]
      refine .bind (named_statement named _) fun read read_named => ?_
      refine .bind (.trivial _) fun after _ => ?_
      split
      case h_1 => exact .ok read_named
      case h_2 rest => exact induction read_named rest
      case h_3 => exact .error _

/-- No two entries of a table of a document have the same name. -/
theorem wellNamed_of_parse {document : String} {entries : Entries}
    (parsed : parse document = .ok entries) : (Value.record entries).WellNamed := by
  have empty_named : Draft.Named {} := .empty
  have lines_named := named_linesWithin ((plainBreaks document.toList).length + 1) empty_named
    (plainBreaks document.toList)
  have document_named : Yields (fun entries => (Value.record entries).WellNamed) (parse document) :=
    lines_named.map fun _ named => named
  exact document_named entries parsed

end Toml
end ElfInspect
