import ElfInspect.Value.Basic
import Mathlib.Data.List.Nodup

/-!
# Entries of records

What a record has under a name, and how it changes when entries are added or replaced.
-/

namespace ElfInspect
namespace Value

/-- In each record of the value no two entries have the same name. -/
inductive WellNamed : Value → Prop where
  | null : WellNamed .null
  | boolean (value : Bool) : WellNamed (.boolean value)
  | integer (value : Int) : WellNamed (.integer value)
  | fraction (numeral : String) : WellNamed (.fraction numeral)
  | moment (content : String) : WellNamed (.moment content)
  | text (value : String) : WellNamed (.text value)
  | list {items : List Value} (items_named : ∀ item ∈ items, WellNamed item) :
      WellNamed (.list items)
  | record {entries : List (String × Value)} (distinct : (entries.map Prod.fst).Nodup)
      (values_named : ∀ entry ∈ entries, WellNamed entry.2) : WellNamed (.record entries)

variable {name : String} {value : Value} {entries : List (String × Value)}

theorem mem_of_found (found : entry? name entries = some value) : (name, value) ∈ entries := by
  induction entries with
  | nil => contradiction
  | cons entry rest induction =>
      rw [Value.entry?] at found
      by_cases same : entry.1 = name
      · rw [if_pos same, Option.some.injEq] at found
        rw [← same, ← found]
        exact List.mem_cons_self
      · rw [if_neg same] at found
        exact List.mem_cons_of_mem entry (induction found)

theorem entry?_eq_none_iff : entry? name entries = none ↔ ∀ entry ∈ entries, entry.1 ≠ name := by
  induction entries with
  | nil => simp [Value.entry?]
  | cons entry rest induction =>
      rw [Value.entry?, List.forall_mem_cons]
      by_cases same : entry.1 = name
      · simp [same]
      · rw [if_neg same, induction, and_iff_right same]

theorem entry?_eq_some_iff (distinct : (entries.map Prod.fst).Nodup) :
    entry? name entries = some value ↔ (name, value) ∈ entries := by
  constructor
  · exact mem_of_found
  · intro member
    cases found : entry? name entries with
    | none => exact absurd rfl (entry?_eq_none_iff.mp found _ member)
    | some other =>
        have same := List.inj_on_of_nodup_map distinct (mem_of_found found) member rfl
        rw [(Prod.mk.inj same).2]

theorem wellNamed_record_iff : (record entries).WellNamed ↔
    (entries.map Prod.fst).Nodup ∧ ∀ entry ∈ entries, entry.2.WellNamed := by
  constructor
  · intro named
    cases named with
    | record distinct values_named => exact ⟨distinct, values_named⟩
  · rintro ⟨distinct, values_named⟩
    exact .record distinct values_named

theorem wellNamed_list_iff {items : List Value} :
    (list items).WellNamed ↔ ∀ item ∈ items, item.WellNamed := by
  constructor
  · intro named
    cases named with
    | list items_named => exact items_named
  · exact .list

theorem WellNamed.empty : (Value.record []).WellNamed := .record List.nodup_nil (by simp)

theorem WellNamed.entry (named : (Value.record entries).WellNamed)
    (found : entry? name entries = some value) : value.WellNamed :=
  (wellNamed_record_iff.mp named).2 _ (mem_of_found found)

/-- A record with one more entry. -/
theorem WellNamed.append (named : (Value.record entries).WellNamed)
    (absent : entry? name entries = none) (value_named : value.WellNamed) :
    (Value.record (entries ++ [(name, value)])).WellNamed := by
  obtain ⟨distinct, values_named⟩ := wellNamed_record_iff.mp named
  refine .record ?_ ?_
  · have name_new : name ∉ entries.map Prod.fst := by
      intro member
      obtain ⟨entry, entry_mem, same⟩ := List.mem_map.mp member
      exact entry?_eq_none_iff.mp absent entry entry_mem same
    rw [List.map_append, List.nodup_append_comm]
    exact List.nodup_cons.mpr ⟨name_new, distinct⟩
  · intro entry member
    rcases List.mem_append.mp member with old | new
    · exact values_named entry old
    · rw [List.mem_singleton.mp new]
      exact value_named

/-- A record with another value under a name. -/
theorem WellNamed.replace (named : (Value.record entries).WellNamed)
    (value_named : value.WellNamed) : (Value.record (entries.map fun entry =>
      if entry.1 = name then (name, value) else entry)).WellNamed := by
  obtain ⟨distinct, values_named⟩ := wellNamed_record_iff.mp named
  refine .record ?_ ?_
  · have names_eq : (entries.map fun entry =>
        if entry.1 = name then (name, value) else entry).map Prod.fst = entries.map Prod.fst := by
      rw [List.map_map]
      refine List.map_congr_left fun entry _ => ?_
      by_cases same : entry.1 = name <;> simp [same]
    rw [names_eq]
    exact distinct
  · intro entry member
    obtain ⟨old, old_mem, rfl⟩ := List.mem_map.mp member
    by_cases same : old.1 = name
    · rw [if_pos same]
      exact value_named
    · rw [if_neg same]
      exact values_named old old_mem

/-- A list with one more item. -/
theorem WellNamed.listAppend {items : List Value} (items_named : ∀ item ∈ items, item.WellNamed)
    (value_named : value.WellNamed) : (Value.list (items ++ [value])).WellNamed := by
  refine .list fun item member => ?_
  rcases List.mem_append.mp member with old | new
  · exact items_named item old
  · rw [List.mem_singleton.mp new]
    exact value_named

end Value
end ElfInspect
