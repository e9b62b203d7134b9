import ElfInspect.Proofs.Json.Reader
import ElfInspect.Proofs.Json.Writing
import ElfInspect.Report
import Mathlib.Data.List.Basic

/-!
# What a report tells

The JSON of a report can be read back, and everything in the report can be told from what is read:
no two lists of dumps and failures have the same report.
-/

namespace ElfInspect

namespace Value

/-- The first entry of a given name, if the value is a record. -/
def field? (name : String) : Value → Option Value
  | record entries => entry? name entries
  | _ => none

variable {α : Type} {convert : α → Value}

theorem writable_ofOption (named : ∀ item, (convert item).Writable) (item : Option α) :
    (ofOption convert item).Writable := by
  cases item with
  | none => exact .null
  | some item => exact named item

theorem writable_list_map (named : ∀ item, (convert item).Writable) (items : List α) :
    (list (items.map convert)).Writable := by
  refine .list fun value member => ?_
  obtain ⟨item, _, rfl⟩ := List.mem_map.mp member
  exact named item

theorem ofOption_injective (injective : Function.Injective convert)
    (not_null : ∀ item, convert item ≠ null) : Function.Injective (ofOption convert) := by
  intro left right same
  cases left with
  | none =>
      cases right with
      | none => rfl
      | some right => exact absurd same.symm (not_null right)
  | some left =>
      cases right with
      | none => exact absurd same (not_null left)
      | some right => rw [injective same]

end Value

/-! ## No two entries of a record have the same name -/

theorem Marker.writable_toValue (marker : Marker) : marker.toValue.Writable :=
  .record (by simp) (by simp)

theorem Identity.writable_toValue (identity : Identity) : identity.toValue.Writable :=
  .record (by simp) (by simp [Value.writable_list_map])

theorem FileHeader.writable_toValue (header : FileHeader) : header.toValue.Writable :=
  .record (by simp) (by simp)

theorem Segment.writable_toValue (segment : Segment) : segment.toValue.Writable :=
  .record (by simp) (by simp)

theorem Section.writable_toValue (header : Section) : header.toValue.Writable :=
  .record (by simp) (by simp [Value.writable_ofOption, Marker.writable_toValue])

theorem Symbol.writable_toValue (symbol : Symbol) : symbol.toValue.Writable :=
  .record (by simp) (by simp [Value.writable_ofOption, Marker.writable_toValue])

theorem SymbolTable.writable_toValue (table : SymbolTable) : table.toValue.Writable :=
  .record (by simp)
    (by simp [Value.writable_ofOption, Value.writable_list_map, Marker.writable_toValue,
      Symbol.writable_toValue])

theorem DynamicEntry.writable_toValue (entry : DynamicEntry) : entry.toValue.Writable :=
  .record (by simp) (by simp [Value.writable_ofOption, Marker.writable_toValue])

theorem Dump.writable_toValue (dump : Dump) : dump.toValue.Writable :=
  .record (by simp)
    (by simp [Value.writable_list_map, Identity.writable_toValue, FileHeader.writable_toValue,
      Segment.writable_toValue, Section.writable_toValue, SymbolTable.writable_toValue,
      DynamicEntry.writable_toValue, Marker.writable_toValue])

theorem Failure.writable_toValue (failure : Failure) : failure.toValue.Writable :=
  .record (by simp) (by simp)

theorem Report.writable_toValue (report : Report) : report.toValue.Writable :=
  .record (by simp)
    (by simp [Value.writable_list_map, Dump.writable_toValue, Failure.writable_toValue])

/-! ## Everything can be told from its value -/

theorem AddressClass.code_injective : Function.Injective AddressClass.code := by
  intro left right same
  cases left <;> cases right <;> first | rfl | contradiction

theorem ByteOrder.code_injective : Function.Injective ByteOrder.code := by
  intro left right same
  cases left <;> cases right <;> first | rfl | contradiction

theorem Value.ofOption_text_injective : Function.Injective (Value.ofOption .text) :=
  ofOption_injective (fun _ _ same => Value.text.inj same) nofun

theorem Marker.toValue_injective : Function.Injective Marker.toValue := by
  rintro ⟨⟩ ⟨⟩ same
  simpa [toValue] using same

theorem Marker.ofOption_toValue_injective : Function.Injective (Value.ofOption Marker.toValue) :=
  Value.ofOption_injective toValue_injective nofun

theorem Identity.toValue_injective : Function.Injective Identity.toValue := by
  have byte_injective : Function.Injective fun byte : UInt8 => Value.integer byte.toNat := by
    intro left right same
    exact UInt8.toNat_inj.mp (Int.ofNat.inj (Value.integer.inj same))
  rintro ⟨⟩ ⟨⟩ same
  simpa [toValue, Int.natCast_inj, AddressClass.code_injective.eq_iff,
    ByteOrder.code_injective.eq_iff, byte_injective.list_map.eq_iff] using same

theorem FileHeader.toValue_injective : Function.Injective FileHeader.toValue := by
  rintro ⟨⟩ ⟨⟩ same
  simpa [toValue] using same

theorem Segment.toValue_injective : Function.Injective Segment.toValue := by
  rintro ⟨⟩ ⟨⟩ same
  simpa [toValue] using same

theorem Section.toValue_injective : Function.Injective Section.toValue := by
  rintro ⟨⟩ ⟨⟩ same
  simpa [toValue, Value.ofOption_text_injective.eq_iff,
    Marker.ofOption_toValue_injective.eq_iff] using same

theorem Symbol.toValue_injective : Function.Injective Symbol.toValue := by
  rintro ⟨⟩ ⟨⟩ same
  simpa [toValue, Marker.ofOption_toValue_injective.eq_iff] using same

theorem SymbolTable.toValue_injective : Function.Injective SymbolTable.toValue := by
  rintro ⟨⟩ ⟨⟩ same
  simpa [toValue, Marker.ofOption_toValue_injective.eq_iff,
    Symbol.toValue_injective.list_map.eq_iff] using same

theorem DynamicEntry.toValue_injective : Function.Injective DynamicEntry.toValue := by
  rintro ⟨⟩ ⟨⟩ same
  simpa [toValue, Value.ofOption_text_injective.eq_iff,
    Marker.ofOption_toValue_injective.eq_iff] using same

theorem Dump.toValue_injective : Function.Injective Dump.toValue := by
  have indices_injective :
      Function.Injective fun members : List Int => Value.list (members.map .integer) := by
    intro left right same
    have integer_injective : Function.Injective Value.integer := fun _ _ => Value.integer.inj
    exact integer_injective.list_map (Value.list.inj same)
  rintro ⟨⟩ ⟨⟩ same
  simp only [toValue, Value.record.injEq, List.cons.injEq, Prod.mk.injEq, Value.text.injEq,
    Value.integer.injEq, Value.list.injEq, Int.natCast_inj, true_and,
    Identity.toValue_injective.eq_iff, FileHeader.toValue_injective.eq_iff,
    Segment.toValue_injective.list_map.eq_iff, Section.toValue_injective.list_map.eq_iff,
    indices_injective.list_map.eq_iff, SymbolTable.toValue_injective.list_map.eq_iff,
    DynamicEntry.toValue_injective.list_map.eq_iff,
    Marker.toValue_injective.list_map.eq_iff] at same
  -- The last two entries are told by the others.
  obtain ⟨rfl, rfl, rfl, rfl, rfl, rfl, rfl, rfl, rfl, rfl, _, _⟩ := same
  rfl

theorem Failure.toValue_injective : Function.Injective Failure.toValue := by
  rintro ⟨⟩ ⟨⟩ same
  simpa [toValue] using same

theorem Report.toValue_injective : Function.Injective Report.toValue := by
  rintro ⟨⟩ ⟨⟩ same
  simpa [toValue, Dump.toValue_injective.list_map.eq_iff,
    Failure.toValue_injective.list_map.eq_iff] using same

/-! ## What is read back -/

namespace Report

/-- The tree of a report has its dumps and failures in their order, and each dump says that it has
warnings exactly if it lists some marker. -/
structure ToldBy (report : Report) (tree : Value) : Prop where
  files : tree.field? "files" = some (.list (report.dumps.map Dump.toValue))
  failures : tree.field? "failures" = some (.list (report.failures.map Failure.toValue))
  warned : ∀ dump ∈ report.dumps, ∃ warned markers,
    dump.toValue.field? "has_warnings" = some (.boolean warned) ∧
      dump.toValue.field? "markers" = some (.list markers) ∧ (warned = true ↔ markers ≠ [])

theorem toldBy_toValue (report : Report) : report.ToldBy report.toValue where
  files := rfl
  failures := rfl
  warned := by
    intro dump _
    refine ⟨dump.hasWarnings, dump.markers.map Marker.toValue, rfl, rfl, ?_⟩
    simp [Dump.hasWarnings]

/-- The JSON of a report is ASCII and stands for its tree and for nothing else.  So every parser
that conforms to the grammar reads the tree back, and reports with the same JSON have the same dumps
and failures. -/
theorem json_lossless (report : Report) :
    Json.Ascii report.toValue.json.toList ∧
      (∀ tree, Json.Padded Json.Means report.toValue.json.toList tree ↔ tree = report.toValue) ∧
      (∀ parse, Json.Conforms parse →
        ∃ tree, parse report.toValue.json = some tree ∧ tree = report.toValue ∧
          report.ToldBy tree) ∧
      ∀ other : Report, other.toValue.json = report.toValue.json →
        other.dumps = report.dumps ∧ other.failures = report.failures := by
  have means := report.writable_toValue.means_json
  refine ⟨report.writable_toValue.ascii_json, ?unique, ?readBack, ?injective⟩
  case unique =>
    intro tree
    constructor
    · intro tree_means
      exact Json.padded_means_unique tree_means means
    · rintro rfl
      exact means
  case readBack =>
    intro parse conforms
    exact ⟨report.toValue, conforms _ _ means, rfl, report.toldBy_toValue⟩
  case injective =>
    intro other same_json
    have other_means := other.writable_toValue.means_json
    rw [same_json] at other_means
    obtain rfl := toValue_injective (Json.padded_means_unique other_means means)
    exact ⟨rfl, rfl⟩

/-- A report of a path with a quote, a control character and a character beyond 16 bits, and of a
failure whose message has several lines. -/
def sample : Report :=
  { time := "now"
    dumps :=
      [{ path := "a\"\\\x7f😀"
         identity := { addressClass := .bits64, byteOrder := .big }
         header := { flags := -1 }
         warnings := [{ kind := "OutOfBounds", field := "sections", message := "too short" }] }]
    failures := [{ path := "é", message := "first\nsecond\t" }] }

theorem json_lossless_sample :
    Json.Conforms Json.read? ∧ Json.read? sample.toValue.json = some sample.toValue := by
  obtain ⟨tree, found, rfl, _⟩ := (json_lossless sample).2.2.1 Json.read? Json.conforms_read?
  exact ⟨Json.conforms_read?, found⟩

end Report
end ElfInspect
