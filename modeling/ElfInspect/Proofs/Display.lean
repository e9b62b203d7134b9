import ElfInspect.Display

/-!
# Why writing stops

A page is written to its end unless the width of names is no number or a text holds marks that do
not fit together.
-/

namespace ElfInspect

namespace Page

variable {first second : Page} {pages : List Page}

@[simp] theorem fault_ofLines (lines : List String) : (ofLines lines).fault = none := rfl

@[simp] theorem fault_stop (fault : PageFault) : (stop fault).fault = some fault := rfl

@[simp]
theorem fault_append : (first ++ second).fault = first.fault.or second.fault := by
  change (append first second).fault = _
  rw [append]
  cases fault_eq : first.fault with
  | none => rfl
  | some fault => exact fault_eq

theorem lines_append (whole : first.fault = none) :
    (first ++ second).lines = first.lines ++ second.lines := by
  change (append first second).lines = _
  rw [append, whole]
  rfl

/-- Nothing on a page depends on the width of names, or that is a number. -/
def NamesFit (page : Page) : Prop := page.fault ≠ some .nameWidth

@[simp]
theorem namesFit_ofLines (lines : List String) : (ofLines lines).NamesFit := nofun

@[simp]
theorem namesFit_append :
    (first ++ second).NamesFit ↔ first.NamesFit ∧ (first.fault = none → second.NamesFit) := by
  rw [NamesFit, NamesFit, NamesFit, fault_append]
  cases first.fault <;> simp

theorem namesFit_concat (fit : ∀ page ∈ pages, page.NamesFit) : (concat pages).NamesFit := by
  induction pages with
  | nil => exact nofun
  | cons page rest induction =>
      obtain ⟨page_fits, rest_fit⟩ := List.forall_mem_cons.mp fit
      exact namesFit_append.mpr ⟨page_fits, fun _ => induction rest_fit⟩

end Page

theorem isSome_mapM_iff {α β : Type} {convert : α → Option β} {items : List α} :
    (items.mapM convert).isSome ↔ ∀ item ∈ items, (convert item).isSome := by
  induction items with
  | nil => simp
  | cons head rest induction =>
      rw [List.mapM_cons, List.forall_mem_cons, ← induction]
      cases convert head with
      | none => simp
      | some converted => cases rest.mapM convert <;> simp

namespace Console

open Page

variable (screen : Screen)

@[simp]
theorem namesFit_print (content : String) : (print screen content).NamesFit := by
  rw [print]
  cases screen.render content <;> exact nofun

@[simp]
theorem namesFit_heading (title addition : String) :
    (heading screen title addition).NamesFit := namesFit_print screen _

@[simp]
theorem namesFit_warning (message : String) : (warning screen message).NamesFit :=
  namesFit_print screen _

@[simp]
theorem namesFit_info (message : String) : (info screen message).NamesFit :=
  namesFit_print screen _

@[simp]
theorem namesFit_blank (count : Int) : (blank count).NamesFit := nofun

@[simp]
theorem namesFit_grid (columns : List Column) (rows : List (List String))
    (heading caption : String) : (grid screen columns rows heading caption).NamesFit := by
  simp only [grid]
  split <;> exact nofun

theorem fault_grid_eq_none_iff {screen : Screen} {columns : List Column}
    {rows : List (List String)} {heading caption : String} :
    (grid screen columns rows heading caption).fault = none ↔
      (∀ column ∈ columns, (screen.render column.title).isSome) ∧
        (∀ row ∈ rows, ∀ cell ∈ row, (screen.render cell).isSome) ∧
        (screen.render heading).isSome ∧ (screen.render caption).isSome := by
  have columns_iff : (columns.mapM fun column => (screen.render column.title).map fun title =>
      { column with title := title }).isSome ↔
        ∀ column ∈ columns, (screen.render column.title).isSome := by
    simp only [isSome_mapM_iff, Option.isSome_map]
  have rows_iff : (rows.mapM fun row : List String => row.mapM screen.render).isSome ↔
      ∀ row ∈ rows, ∀ cell ∈ row, (screen.render cell).isSome := by
    simp only [isSome_mapM_iff]
  rw [← columns_iff, ← rows_iff]
  simp only [grid]
  cases columns.mapM fun column => (screen.render column.title).map fun title =>
    { column with title := title } with
  | none => simp
  | some columns =>
      cases rows.mapM fun row : List String => row.mapM screen.render with
      | none => simp
      | some rows =>
          cases screen.render heading with
          | none => simp
          | some heading => cases screen.render caption <;> simp

@[simp]
theorem namesFit_keyValues (pairs : List (String × String)) :
    (keyValues screen pairs).NamesFit := by
  refine namesFit_concat ?_
  intro page member
  obtain ⟨pair, _, rfl⟩ := List.mem_map.mp member
  exact namesFit_print screen _

theorem namesFit_separate {pages : List Page} (fit : ∀ page ∈ pages, page.NamesFit) :
    (separate pages).NamesFit := by
  induction pages with
  | nil => exact nofun
  | cons page rest induction =>
      obtain ⟨page_fits, rest_fit⟩ := List.forall_mem_cons.mp fit
      cases rest with
      | nil => exact page_fits
      | cons next rest => simp [separate, page_fits, induction rest_fit]

end Console

namespace Display

open Console Page

variable (screen : Screen) (width : Int)

theorem namesFit_fileHeader (dump : Dump) : (fileHeader screen dump).NamesFit := by
  simp [fileHeader]

theorem namesFit_sectionHeaders (dump : Dump) :
    (sectionHeaders screen (some width) dump).NamesFit := by
  rw [sectionHeaders]
  cases dump.sections.isEmpty <;> simp

theorem namesFit_programHeaders (dump : Dump) : (programHeaders screen dump).NamesFit := by
  rw [programHeaders]
  cases dump.segments.isEmpty <;> simp

theorem namesFit_dynamic (dump : Dump) : (dynamic screen dump).NamesFit := by
  rw [dynamic]
  cases dump.dynamic.isEmpty <;> simp

theorem namesFit_symbolTable (addressClass : AddressClass) (table : SymbolTable) :
    (symbolTable screen addressClass (some width) table).NamesFit := by
  rw [symbolTable]
  cases table.error <;> simp

theorem namesFit_symbolTables (kinds : List Int) (dump : Dump) :
    (symbolTables screen (some width) kinds dump).NamesFit := by
  simp only [symbolTables]
  split
  · exact namesFit_info screen _
  · refine namesFit_separate ?_
    intro page member
    obtain ⟨table, _, rfl⟩ := List.mem_map.mp member
    exact namesFit_symbolTable screen width _ table

theorem namesFit_warnings (dump : Dump) : (warnings screen dump).NamesFit := by
  rw [warnings]
  split
  · exact nofun
  · refine namesFit_append.mpr ⟨namesFit_blank 1, fun _ => namesFit_concat ?_⟩
    intro page member
    obtain ⟨marker, _, rfl⟩ := List.mem_map.mp member
    exact namesFit_warning screen _

theorem namesFit_chosen {chosen : Bool} {part : Page} (fits : part.NamesFit) :
    ∀ page ∈ (if chosen then [part] else []), page.NamesFit := by
  cases chosen <;> simp [fits]

/-- The width of names keeps no page from its end if it is a number. -/
theorem namesFit_page (parts : Parts) (dump : Dump) :
    (page screen (some width) parts dump).NamesFit := by
  refine namesFit_append.mpr ⟨namesFit_separate ?_, fun _ => namesFit_warnings screen dump⟩
  simp only [pages, List.forall_mem_append]
  refine ⟨⟨⟨⟨namesFit_chosen (namesFit_fileHeader screen dump),
    namesFit_chosen (namesFit_sectionHeaders screen width dump)⟩,
    namesFit_chosen (namesFit_programHeaders screen dump)⟩,
    namesFit_chosen (namesFit_dynamic screen dump)⟩, ?symbols⟩
  cases parts.symbols with
  | false => exact namesFit_chosen (namesFit_symbolTables screen width _ dump)
  | true =>
      rw [if_pos rfl, List.forall_mem_singleton]
      exact namesFit_symbolTables screen width _ dump

end Display
end ElfInspect
