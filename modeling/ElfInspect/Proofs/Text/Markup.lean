import ElfInspect.Text.Markup

/-!
# Plain texts

Without an opening bracket there is no mark, so there is nothing to escape.
-/

namespace ElfInspect
namespace Markup

/-- A text holds neither an opening bracket nor a backslash. -/
def IsPlain (content : String) : Prop := '[' ∉ content.toList ∧ '\\' ∉ content.toList

@[simp]
theorem isPlain_append {first second : String} :
    IsPlain (first ++ second) ↔ IsPlain first ∧ IsPlain second := by
  simp only [IsPlain, String.toList_append, List.mem_append, not_or]
  exact and_and_and_comm

variable {chars : List Char}

theorem leadingMark?_eq_none (bare : '[' ∉ chars) : leadingMark? chars = none := by
  have bare_behind : '[' ∉ chars.drop (chars.takeWhile (· = '\\')).length :=
    fun member => bare (List.mem_of_mem_drop member)
  rw [leadingMark?]
  split
  case h_1 rest dropped => exact absurd (dropped ▸ .head rest) bare_behind
  case h_2 => rfl

theorem escapeChars_eq_self (bare : '[' ∉ chars) : escapeChars 0 chars = chars := by
  induction chars with
  | nil => rfl
  | cons char rest induction =>
      rw [escapeChars, leadingMark?_eq_none bare]
      simp only
      rw [induction fun member => bare (.tail char member)]

theorem endsInSlash_eq_false (unslashed : '\\' ∉ chars) : endsInSlash chars = false := by
  rw [← List.mem_reverse] at unslashed
  rw [endsInSlash]
  split
  case h_1 => rfl
  case h_2 rest _ reversed => exact absurd (reversed ▸ .head rest) unslashed
  case h_3 => rfl

theorem escape_eq_self {content : String} (plain : IsPlain content) : escape content = content := by
  rw [escape, escapeChars_eq_self plain.1]
  simp only [endsInSlash_eq_false plain.2, Bool.false_eq_true, if_false, String.ofList_toList]

end Markup
end ElfInspect
