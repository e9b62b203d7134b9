import Mathlib
import ElfInspect.Proofs.Text.Markup

/-!
# Texts that can be shown

A text can be shown if each mark that closes a style finds it open.  An escaped text closes nothing,
whatever it holds, as long as what stands behind it does not end a mark that the text has begun.
-/

namespace ElfInspect
namespace Markup

variable {chars front back text rest : List Char} {opened : List (List Char)} {char : Char}

/-! ## Marks at the start of a text -/

/-- A text can stand between the brackets of a mark. -/
def IsMark : List Char → Prop
  | [] => False
  | first :: inner => startsMark first = true ∧ ∀ char ∈ inner, char ≠ '[' ∧ char ≠ ']'

theorem IsMark.apart (marked : IsMark text) : ∀ char ∈ text, char ≠ '[' ∧ char ≠ ']' := by
  cases text with
  | nil => exact marked.elim
  | cons first inner =>
      obtain ⟨starts, inner_apart⟩ := marked
      refine List.forall_mem_cons.mpr ⟨⟨?_, ?_⟩, inner_apart⟩
      · rintro rfl
        exact absurd starts (by decide)
      · rintro rfl
        exact absurd starts (by decide)

theorem IsMark.bracketless (marked : IsMark text) : '[' ∉ text :=
  fun member => (marked.apart '[' member).1 rfl

theorem drop_length_takeWhile {α : Type} (keep : α → Bool) (items : List α) :
    items.drop (items.takeWhile keep).length = items.dropWhile keep := by
  induction items with
  | nil => rfl
  | cons item rest induction => by_cases kept : keep item <;> simp [kept, induction]

theorem markText?_eq_some_iff :
    markText? chars = some text ↔ IsMark text ∧ ∃ back, chars = text ++ ']' :: back := by
  cases chars with
  | nil => simp [markText?]
  | cons first rest =>
      rw [markText?, Option.ite_none_right_eq_some, Bool.and_eq_true, decide_eq_true_eq,
        drop_length_takeWhile]
      constructor
      · rintro ⟨⟨starts, closing⟩, text_eq⟩
        cases text_eq
        obtain ⟨back, back_eq⟩ := List.head?_eq_some_iff.mp closing
        refine ⟨⟨starts, fun char member => ?_⟩, back, ?_⟩
        · simpa using List.mem_takeWhile_imp member
        · rw [List.cons_append, ← back_eq, List.takeWhile_append_dropWhile]
      · rintro ⟨marked, back, chars_eq⟩
        cases text with
        | nil => exact marked.elim
        | cons start inner =>
            rw [List.cons_append] at chars_eq
            obtain ⟨rfl, rfl⟩ := List.cons.inj chars_eq
            have kept : ∀ char ∈ inner, (decide (char ≠ '[') && decide (char ≠ ']')) = true :=
              fun char member => by simpa using marked.2 char member
            rw [List.takeWhile_append_of_pos kept, List.dropWhile_append_of_pos kept]
            simpa using marked.1

@[simp]
theorem leadingMark?_nil : leadingMark? [] = none := rfl

theorem leadingMark?_bracket :
    leadingMark? ('[' :: chars) = (markText? chars).map fun text => (0, text) := by
  simp [leadingMark?]

theorem leadingMark?_slash :
    leadingMark? ('\\' :: chars) =
      (leadingMark? chars).map fun (slashes, text) => (slashes + 1, text) := by
  have run_eq : ('\\' :: chars).takeWhile (· = '\\') = '\\' :: chars.takeWhile (· = '\\') := by
    simp
  rw [leadingMark?, run_eq, List.length_cons, List.drop_succ_cons, leadingMark?]
  split
  · rw [Option.map_map]
    rfl
  · rfl

theorem leadingMark?_other (no_bracket : char ≠ '[') (no_slash : char ≠ '\\') :
    leadingMark? (char :: chars) = none := by
  simp [leadingMark?, no_bracket, no_slash]

theorem exists_of_leadingMark? {slashes : Nat} (found : leadingMark? chars = some (slashes, text)) :
    IsMark text ∧
      ∃ back, chars = List.replicate slashes '\\' ++ '[' :: (text ++ ']' :: back) := by
  induction chars generalizing slashes with
  | nil => cases found
  | cons char rest induction =>
      by_cases bracket : char = '['
      · rw [bracket, leadingMark?_bracket, Option.map_eq_some_iff] at found
        obtain ⟨text, text_eq, pair_eq⟩ := found
        cases pair_eq
        obtain ⟨marked, back, rfl⟩ := markText?_eq_some_iff.mp text_eq
        exact ⟨marked, back, by rw [bracket]; rfl⟩
      · by_cases slash : char = '\\'
        · rw [slash, leadingMark?_slash, Option.map_eq_some_iff] at found
          obtain ⟨⟨fewer, text⟩, behind, pair_eq⟩ := found
          cases pair_eq
          obtain ⟨marked, back, rfl⟩ := induction behind
          exact ⟨marked, back, by rw [slash]; rfl⟩
        · rw [leadingMark?_other bracket slash] at found
          cases found

theorem leadingMark?_of_isMark (marked : IsMark text) (slashes : Nat) (back : List Char) :
    leadingMark? (List.replicate slashes '\\' ++ '[' :: (text ++ ']' :: back)) =
      some (slashes, text) := by
  induction slashes with
  | zero =>
      have text_eq := markText?_eq_some_iff.mpr ⟨marked, back, rfl⟩
      rw [List.replicate_zero, List.nil_append, leadingMark?_bracket, text_eq]
      rfl
  | succ slashes induction =>
      rw [List.replicate_succ, List.cons_append, leadingMark?_slash, induction]
      rfl

/-! ## Marks one after the other -/

theorem tokensBehind_length (front back : List Char) :
    tokensBehind front.length (front ++ back) = tokensBehind 0 back := by
  induction front with
  | nil => rfl
  | cons char rest induction => exact induction

theorem escapeChars_length (front back : List Char) :
    escapeChars front.length (front ++ back) = front ++ escapeChars 0 back := by
  induction front with
  | nil => rfl
  | cons char rest induction => exact congrArg (char :: ·) induction

/-- Backslashes with a mark behind them have a first character. -/
theorem exists_cons_of_mark (slashes : Nat) (text : List Char) :
    ∃ first inner, inner.length = slashes + text.length + 1 ∧
      ∀ back, List.replicate slashes '\\' ++ '[' :: (text ++ ']' :: back) =
        first :: (inner ++ back) := by
  cases slashes with
  | zero => exact ⟨'[', text ++ [']'], by simp, fun back => by simp⟩
  | succ slashes =>
      exact ⟨'\\', List.replicate slashes '\\' ++ '[' :: (text ++ [']']), by simp; omega,
        fun back => by simp [List.replicate_succ]⟩

/-- What stands for a mark behind backslashes. -/
def markTokens (slashes : Nat) (text : List Char) : List Token :=
  List.replicate (slashes / 2) (.plain '\\') ++
    if slashes % 2 = 0 then [.mark text] else ('[' :: text ++ [']']).map .plain

theorem tokensBehind_of_isMark (marked : IsMark text) (slashes : Nat) (back : List Char) :
    tokensBehind 0 (List.replicate slashes '\\' ++ '[' :: (text ++ ']' :: back)) =
      markTokens slashes text ++ tokensBehind 0 back := by
  have found := leadingMark?_of_isMark marked slashes back
  obtain ⟨first, inner, length_eq, whole_eq⟩ := exists_cons_of_mark slashes text
  rw [whole_eq] at found ⊢
  rw [tokensBehind, found]
  simp only
  rw [← length_eq, tokensBehind_length]
  rfl

/-- Escaping doubles the backslashes in front of a mark and adds one. -/
theorem escapeChars_of_isMark (marked : IsMark text) (slashes : Nat) (back : List Char) :
    escapeChars 0 (List.replicate slashes '\\' ++ '[' :: (text ++ ']' :: back)) =
      List.replicate (2 * slashes + 1) '\\' ++ '[' :: (text ++ ']' :: escapeChars 0 back) := by
  have found := leadingMark?_of_isMark marked slashes back
  obtain ⟨first, inner, length_eq, whole_eq⟩ := exists_cons_of_mark slashes text
  have count_eq : 2 * slashes + 1 = slashes + 1 + slashes := by omega
  rw [whole_eq] at found ⊢
  rw [escapeChars, found]
  simp only
  rw [← length_eq, escapeChars_length, ← whole_eq, ← List.append_assoc,
    List.replicate_append_replicate, ← count_eq]

theorem escapeChars_cons (unmarked : leadingMark? (char :: chars) = none) :
    escapeChars 0 (char :: chars) = char :: escapeChars 0 chars := by
  rw [escapeChars, unmarked]

/-! ## Brackets -/

/-- The first bracket of a text. -/
def bracket? (chars : List Char) : Option Char := chars.find? fun char => char = '[' || char = ']'

theorem bracket?_append : bracket? (front ++ back) = (bracket? front).or (bracket? back) :=
  List.find?_append

theorem bracket?_mark (slashes : Nat) (back : List Char) :
    bracket? (List.replicate slashes '\\' ++ '[' :: back) = some '[' := by
  induction slashes with
  | zero => rfl
  | succ slashes induction => exact induction

/-- Without an opening bracket a closing one comes first. -/
theorem bracket?_of_bracketless (bracketless : '[' ∉ front) (back : List Char) :
    bracket? (front ++ ']' :: back) = some ']' := by
  induction front with
  | nil => rfl
  | cons char rest induction =>
      have char_ne : char ≠ '[' := fun bracket => bracketless (bracket ▸ .head rest)
      have rest_eq := induction fun member => bracketless (.tail char member)
      rw [bracket?, List.cons_append, List.find?_cons]
      split
      · simp_all
      · exact rest_eq

/-- Escaping changes nothing in front of a closing bracket that is the first one. -/
theorem exists_of_escapeChars_eq (bracketless : '[' ∉ front)
    (escaped : escapeChars 0 chars = front ++ ']' :: back) :
    ∃ back, chars = front ++ ']' :: back := by
  induction chars generalizing front with
  | nil => simp [escapeChars] at escaped
  | cons char rest induction =>
      cases found : leadingMark? (char :: rest) with
      | some mark =>
          obtain ⟨marked, behind, whole_eq⟩ := exists_of_leadingMark? found
          rw [whole_eq, escapeChars_of_isMark marked] at escaped
          have first_eq := congrArg bracket? escaped
          rw [bracket?_mark, bracket?_of_bracketless bracketless] at first_eq
          exact absurd first_eq (by decide)
      | none =>
          rw [escapeChars_cons found] at escaped
          cases front with
          | nil => exact ⟨rest, by rw [(List.cons.inj escaped).1]; rfl⟩
          | cons first front =>
              obtain ⟨rfl, rest_eq⟩ := List.cons.inj escaped
              obtain ⟨back, rfl⟩ :=
                induction (fun member => bracketless (.tail _ member)) rest_eq
              exact ⟨back, rfl⟩

theorem markText?_escapeChars (unmarked : markText? chars = none)
    (opens : bracket? rest ≠ some ']') : markText? (escapeChars 0 chars ++ rest) = none := by
  refine Option.eq_none_iff_forall_ne_some.mpr fun text found => ?_
  obtain ⟨marked, back, whole_eq⟩ := markText?_eq_some_iff.mp found
  obtain ⟨last, text_eq, rest_eq⟩ | ⟨last, escaped_eq, back_eq⟩ :=
    List.append_eq_append_iff.mp whole_eq
  · have bracketless : '[' ∉ last := fun member =>
      marked.bracketless (text_eq ▸ List.mem_append_right _ member)
    exact opens (rest_eq ▸ bracket?_of_bracketless bracketless back)
  · cases last with
    | nil => exact opens (congrArg bracket? back_eq).symm
    | cons closing last =>
        obtain ⟨rfl, _⟩ := List.cons.inj back_eq
        obtain ⟨behind, chars_eq⟩ := exists_of_escapeChars_eq marked.bracketless escaped_eq
        have text_eq := markText?_eq_some_iff.mpr ⟨marked, behind, chars_eq⟩
        exact absurd (unmarked.symm.trans text_eq) nofun

/-- An escaped text without a mark at its start gets none from what stands behind it, unless it is
made of backslashes alone. -/
theorem leadingMark?_escapeChars (unmarked : leadingMark? chars = none)
    (opens : bracket? rest ≠ some ']') :
    leadingMark? (escapeChars 0 chars ++ rest) = none ∨
      chars = List.replicate chars.length '\\' := by
  induction chars with
  | nil => exact .inr rfl
  | cons char chars induction =>
      rw [escapeChars_cons unmarked, List.cons_append]
      by_cases bracket : char = '['
      · rw [bracket, leadingMark?_bracket, Option.map_eq_none_iff] at unmarked ⊢
        exact .inl (markText?_escapeChars unmarked opens)
      by_cases slash : char = '\\'
      · rw [slash, leadingMark?_slash, Option.map_eq_none_iff] at unmarked ⊢
        exact (induction unmarked).imp_right fun chars_eq => by
          rw [List.length_cons, List.replicate_succ, ← chars_eq]
      · exact .inl (leadingMark?_other bracket slash)

theorem escapeChars_replicate (count : Nat) :
    escapeChars 0 (List.replicate count '\\') = List.replicate count '\\' :=
  escapeChars_eq_self (by simp)

/-! ## What can be shown -/

/-- A text can be shown where styles are open. -/
def Shows (opened : List (List Char)) (chars : List Char) : Prop :=
  (shown opened (tokensBehind 0 chars)).isSome

/-- A text can be shown behind any number of backslashes. -/
def ShowsBehindSlashes (opened : List (List Char)) (chars : List Char) : Prop :=
  ∀ slashes, Shows opened (List.replicate slashes '\\' ++ chars)

@[simp]
theorem isSome_shown_plain (opened : List (List Char)) (chars : List Char) (tokens : List Token) :
    (shown opened (chars.map .plain ++ tokens)).isSome = (shown opened tokens).isSome := by
  induction chars with
  | nil => rfl
  | cons char rest induction =>
      rw [List.map_cons, List.cons_append, shown, Option.isSome_map, induction]

/-- A mark behind an odd number of backslashes is shown as it is. -/
theorem isSome_shown_markTokens {slashes : Nat} (odd : slashes % 2 = 1) (tokens : List Token) :
    (shown opened (markTokens slashes text ++ tokens)).isSome = (shown opened tokens).isSome := by
  have plain_eq : markTokens slashes text =
      (List.replicate (slashes / 2) '\\' ++ ('[' :: text ++ [']'])).map .plain := by
    simp [markTokens, odd]
  rw [plain_eq, isSome_shown_plain]

/-- What stands behind an escaped text can be shown if it can be shown behind any number of
backslashes. -/
theorem shows_escapeChars_append (opens : bracket? rest ≠ some ']')
    (behind : ShowsBehindSlashes opened rest) (chars : List Char) :
    Shows opened (escapeChars 0 chars ++ rest) := by
  induction length_eq : chars.length using Nat.strongRecOn generalizing chars with
  | ind length induction =>
      cases chars with
      | nil => exact behind 0
      | cons char chars =>
          have shorter (others : List Char) (fewer : others.length ≤ chars.length) :
              Shows opened (escapeChars 0 others ++ rest) :=
            induction others.length (by simp at length_eq; omega) others rfl
          cases found : leadingMark? (char :: chars) with
          | some mark =>
              obtain ⟨marked, back, whole_eq⟩ := exists_of_leadingMark? found
              have fewer : back.length ≤ chars.length := by
                have := congrArg List.length whole_eq
                simp at this
                omega
              rw [whole_eq, escapeChars_of_isMark marked]
              simp only [List.append_assoc, List.cons_append]
              rw [Shows, tokensBehind_of_isMark marked, isSome_shown_markTokens (by omega)]
              exact shorter back fewer
          | none =>
              by_cases slashes_eq : char :: chars = List.replicate (char :: chars).length '\\'
              · rw [slashes_eq, escapeChars_replicate]
                exact behind _
              have unmarked := (leadingMark?_escapeChars found opens).resolve_right slashes_eq
              rw [escapeChars_cons found, List.cons_append] at unmarked ⊢
              rw [Shows, tokensBehind, unmarked]
              simp only
              split
              case isFalse =>
                rw [shown, Option.isSome_map]
                exact shorter chars le_rfl
              case isTrue bracket =>
                have slash : char = '\\' := by simp_all
                cases chars with
                | nil => exact absurd (slash ▸ rfl) slashes_eq
                | cons next others =>
                    rw [slash, leadingMark?_slash, Option.map_eq_none_iff] at found
                    rw [escapeChars_cons found]
                    rw [shown, Option.isSome_map]
                    exact shorter others (Nat.le_succ _)

/-! ## More open styles -/

/-- A mark that has a place keeps it where more styles are open. -/
theorem exists_afterMark_of_sublist {after more : List (List Char)} (sub : opened.Sublist more)
    (after_eq : afterMark opened text = some after) :
    ∃ moreAfter, afterMark more text = some moreAfter ∧ after.Sublist moreAfter := by
  simp only [afterMark] at after_eq ⊢
  split at after_eq
  case h_1 closing _ =>
    split at after_eq
    case isTrue unnamed =>
      rw [if_pos unnamed]
      cases opened with
      | nil => cases after_eq
      | cons style opened =>
          cases after_eq
          cases more with
          | nil => cases sub
          | cons other more => exact ⟨more, rfl, sub.tail⟩
    case isFalse named =>
      obtain ⟨found, erased⟩ := Option.ite_none_right_eq_some.mp after_eq
      cases erased
      rw [List.contains_iff_mem] at found
      rw [if_neg named, if_pos (List.contains_iff_mem.mpr (sub.subset found))]
      exact ⟨_, rfl, sub.erase _⟩
  case h_2 opening =>
    cases after_eq
    exact ⟨_, rfl, sub.cons_cons _⟩

theorem isSome_shown_of_sublist {more : List (List Char)} {tokens : List Token}
    (sub : opened.Sublist more) (is_some : (shown opened tokens).isSome) :
    (shown more tokens).isSome := by
  induction tokens generalizing opened more with
  | nil => rfl
  | cons token tokens induction =>
      cases token with
      | plain char =>
          rw [shown, Option.isSome_map] at is_some ⊢
          exact induction sub is_some
      | mark text =>
          rw [shown] at is_some ⊢
          cases after_eq : afterMark opened text with
          | none => simp [after_eq] at is_some
          | some after =>
              obtain ⟨moreAfter, more_eq, after_sub⟩ := exists_afterMark_of_sublist sub after_eq
              rw [after_eq] at is_some
              rw [more_eq]
              exact induction after_sub is_some

/-! ## Texts with their marks -/

/-- A text closes nothing that it does not open itself, and nothing that stands behind it can take
part in its marks. -/
def Sealed (content : String) : Prop :=
  ∀ opened rest, Shows opened rest → Shows opened (content.toList ++ rest)

/-- A text closes nothing that it does not open itself, as long as what stands behind it does not
end a mark that the text has begun. -/
def SelfContained (content : String) : Prop :=
  ∀ opened rest, bracket? rest ≠ some ']' → ShowsBehindSlashes opened rest →
    Shows opened (content.toList ++ rest)

theorem shows_plain_append (bare : '[' ∉ front) (unslashed : '\\' ∉ front) :
    Shows opened (front ++ rest) ↔ Shows opened rest := by
  induction front with
  | nil => rfl
  | cons char front induction =>
      obtain ⟨no_bracket, bare⟩ := not_or.mp (mt List.mem_cons.mpr bare)
      obtain ⟨no_slash, unslashed⟩ := not_or.mp (mt List.mem_cons.mpr unslashed)
      rw [Shows, List.cons_append, tokensBehind,
        leadingMark?_other (Ne.symm no_bracket) (Ne.symm no_slash)]
      simp only [Ne.symm no_slash, decide_false, Bool.false_and, Bool.false_eq_true, if_false,
        shown, Option.isSome_map]
      exact induction bare unslashed

theorem leadingMark?_replicate (unmarked : leadingMark? rest = none) (slashes : Nat) :
    leadingMark? (List.replicate slashes '\\' ++ rest) = none := by
  induction slashes with
  | zero => exact unmarked
  | succ slashes induction =>
      rw [List.replicate_succ, List.cons_append, leadingMark?_slash, induction]
      rfl

theorem showsBehindSlashes (unmarked : leadingMark? rest = none) (apart : rest.head? ≠ some '[')
    (shows : Shows opened rest) : ShowsBehindSlashes opened rest := by
  intro slashes
  induction slashes with
  | zero => exact shows
  | succ slashes induction =>
      have all_unmarked := leadingMark?_replicate unmarked (slashes + 1)
      have all_apart : (List.replicate slashes '\\' ++ rest).head? ≠ some '[' := by
        cases slashes with
        | zero => exact apart
        | succ slashes => simp [List.replicate_succ]
      rw [List.replicate_succ, List.cons_append] at all_unmarked ⊢
      rw [Shows, tokensBehind, all_unmarked]
      simp only [all_apart, decide_true, decide_false, Bool.and_false, Bool.false_eq_true, if_false,
        shown, Option.isSome_map]
      exact induction

variable {first second content : String}

theorem sealed_of_isPlain (plain : IsPlain content) : Sealed content :=
  fun _ _ shows => (shows_plain_append plain.1 plain.2).mpr shows

theorem Sealed.append (first_sealed : Sealed first) (second_sealed : Sealed second) :
    Sealed (first ++ second) := by
  intro opened rest shows
  rw [String.toList_append, List.append_assoc]
  exact first_sealed opened _ (second_sealed opened rest shows)

/-- A bracket in front of a character with which no mark starts is a plain one. -/
theorem Sealed.bracket_append (contained : Sealed content)
    (dull : ∃ first ∈ content.toList.head?, startsMark first = false) :
    Sealed ("[" ++ content) := by
  intro opened rest shows
  have content_shows := contained opened rest shows
  obtain ⟨first, head_eq, dull⟩ := dull
  obtain ⟨chars, content_eq⟩ := List.head?_eq_some_iff.mp head_eq
  have unmarked : leadingMark? ('[' :: (content.toList ++ rest)) = none := by
    rw [leadingMark?_bracket, content_eq, List.cons_append, markText?, dull]
    rfl
  rw [String.toList_append]
  change Shows opened ('[' :: (content.toList ++ rest))
  rw [Shows, tokensBehind, unmarked]
  exact (Option.isSome_map ..).trans content_shows

theorem Sealed.selfContained (contained : Sealed content) : SelfContained content :=
  fun opened rest _ behind => contained opened rest (behind 0)

theorem selfContained_of_isPlain (plain : IsPlain content) : SelfContained content :=
  (sealed_of_isPlain plain).selfContained

theorem Sealed.append_selfContained (first_sealed : Sealed first)
    (contained : SelfContained second) : SelfContained (first ++ second) := by
  intro opened rest opens behind
  rw [String.toList_append, List.append_assoc]
  exact first_sealed opened _ (contained opened rest opens behind)

theorem SelfContained.append_plain (contained : SelfContained first) (plain : IsPlain second)
    (unclosing : ']' ∉ second.toList) : SelfContained (first ++ second) := by
  intro opened rest opens behind
  rw [String.toList_append, List.append_assoc]
  cases second_eq : second.toList with
  | nil => exact contained opened rest opens behind
  | cons char chars =>
      have shows : Shows opened (second.toList ++ rest) :=
        (shows_plain_append plain.1 plain.2).mpr (behind 0)
      have bare : bracket? second.toList = none := by
        refine List.find?_eq_none.mpr fun char member bracket => ?_
        obtain rfl | rfl : char = '[' ∨ char = ']' := by simpa using bracket
        · exact plain.1 member
        · exact unclosing member
      rw [IsPlain, second_eq] at plain
      rw [second_eq] at shows bare
      have char_plain : char ≠ '[' ∧ char ≠ '\\' := by
        constructor <;> rintro rfl <;> simp_all
      refine contained opened _ ?_ (showsBehindSlashes ?_ ?_ shows)
      · rw [bracket?_append, bare]
        exact opens
      · exact leadingMark?_other char_plain.1 char_plain.2
      · simpa using char_plain.1

theorem selfContained_escape (content : String) : SelfContained (escape content) := by
  intro opened rest opens behind
  rw [escape, String.toList_ofList]
  split
  · have longer : ShowsBehindSlashes opened ('\\' :: rest) := by
      intro slashes
      have shows := behind (slashes + 1)
      rwa [List.replicate_succ', List.append_assoc] at shows
    have longer_opens : bracket? ('\\' :: rest) ≠ some ']' := opens
    rw [List.append_assoc]
    exact shows_escapeChars_append longer_opens longer _
  · exact shows_escapeChars_append opens behind _

/-! ## Styles -/

/-- A name of small letters and dots. -/
structure IsStyle (style : String) : Prop where
  /-- It starts with a letter. -/
  starts : ∃ letter ∈ style.toList.head?, letter.isLower = true
  /-- It holds nothing else. -/
  lower : ∀ char ∈ style.toList, char.isLower = true ∨ char = '.'

theorem IsStyle.not_mem {style : String} (is_style : IsStyle style) {char : Char}
    (not_lower : char.isLower = false) (not_dot : char ≠ '.') : char ∉ style.toList := by
  intro member
  obtain lower | dot := is_style.lower char member
  · rw [not_lower] at lower
    contradiction
  · exact not_dot dot

theorem IsStyle.isMark {style : String} (is_style : IsStyle style) : IsMark style.toList := by
  obtain ⟨letter, head_eq, lower⟩ := is_style.starts
  obtain ⟨inner, style_eq⟩ := List.head?_eq_some_iff.mp head_eq
  have bare := is_style.not_mem (rfl : ('[').isLower = false) (by decide)
  have unclosing := is_style.not_mem (rfl : (']').isLower = false) (by decide)
  rw [style_eq] at bare unclosing ⊢
  refine ⟨by rw [startsMark, lower, Bool.true_or], fun char member => ⟨?_, ?_⟩⟩
  · rintro rfl
    exact bare (.tail _ member)
  · rintro rfl
    exact unclosing (.tail _ member)

theorem IsStyle.takeWhile_eq {style : String} (is_style : IsStyle style) :
    style.toList.takeWhile (· ≠ '=') = style.toList := by
  rw [List.takeWhile_eq_self_iff]
  intro char member
  have bare := is_style.not_mem (rfl : ('=').isLower = false) (by decide)
  exact decide_eq_true fun equality => bare (equality ▸ member)

theorem toLower_of_isLower (lower : char.isLower = true) : char.toLower = char := by
  simp only [Char.isLower, Bool.and_eq_true, decide_eq_true_eq, ge_iff_le,
    UInt32.le_iff_toNat_le] at lower
  rw [Char.toLower, dif_neg]
  simp only [ge_iff_le, UInt32.le_iff_toNat_le, not_and, not_le]
  exact fun _ => Nat.lt_of_lt_of_le (by decide) lower.1

theorem isWhitespace_of_isLower (lower : char.isLower = true) : char.isWhitespace = false := by
  rw [← Bool.not_eq_true, Char.isWhitespace]
  intro blank
  simp only [Bool.or_eq_true, decide_eq_true_eq] at blank
  obtain ((rfl | rfl) | rfl) | rfl := blank <;> contradiction

theorem dropWhile_isWhitespace (solid : ∀ char ∈ chars, char.isWhitespace = false) :
    chars.dropWhile Char.isWhitespace = chars := by
  cases chars with
  | nil => rfl
  | cons char rest => exact List.dropWhile_cons_of_neg (by simp [solid])

theorem IsStyle.styleName_eq {style : String} (is_style : IsStyle style) :
    styleName style.toList = style.toList := by
  have solid : ∀ char ∈ style.toList, char.isWhitespace = false := by
    intro char member
    obtain lower | rfl := is_style.lower char member
    · exact isWhitespace_of_isLower lower
    · rfl
  have small : ∀ char ∈ style.toList, char.toLower = id char := by
    intro char member
    obtain lower | rfl := is_style.lower char member
    · exact toLower_of_isLower lower
    · rfl
  rw [styleName]
  simp only [dropWhile_isWhitespace solid]
  rw [dropWhile_isWhitespace (by simpa using solid), List.reverse_reverse,
    List.map_congr_left small, List.map_id]

theorem IsStyle.afterMark_open {style : String} (is_style : IsStyle style)
    (opened : List (List Char)) :
    afterMark opened style.toList = some (style.toList :: opened) := by
  rw [afterMark, is_style.takeWhile_eq]
  split
  case h_1 closing style_eq =>
    have slashless := is_style.not_mem (rfl : ('/').isLower = false) (by decide)
    exact absurd (style_eq ▸ .head closing) slashless
  case h_2 => rw [is_style.styleName_eq]

theorem IsStyle.afterMark_close {style : String} (is_style : IsStyle style)
    (opened : List (List Char)) :
    afterMark (style.toList :: opened) ('/' :: style.toList) = some opened := by
  have taken : ('/' :: style.toList).takeWhile (· ≠ '=') = '/' :: style.toList := by
    rw [List.takeWhile_cons_of_pos (by decide), is_style.takeWhile_eq]
  have filled : ¬ style.toList.isEmpty = true := by
    intro empty
    obtain ⟨letter, head_eq, _⟩ := is_style.starts
    rw [List.isEmpty_iff.mp empty] at head_eq
    contradiction
  rw [afterMark, taken]
  simp only [is_style.styleName_eq, if_neg filled]
  simp

/-- The mark that closes a style can be shown behind any number of backslashes where the style is
open. -/
theorem IsStyle.showsBehindSlashes_close {style : String} (is_style : IsStyle style)
    (shows : Shows opened rest) :
    ShowsBehindSlashes (style.toList :: opened) ('[' :: ('/' :: style.toList ++ ']' :: rest)) := by
  have marked : IsMark ('/' :: style.toList) := ⟨by decide, is_style.isMark.apart⟩
  intro slashes
  rw [Shows, tokensBehind_of_isMark marked]
  by_cases odd : slashes % 2 = 1
  · rw [isSome_shown_markTokens odd]
    exact isSome_shown_of_sublist (List.sublist_cons_self _ opened) shows
  · have tokens_eq : markTokens slashes ('/' :: style.toList) =
        (List.replicate (slashes / 2) '\\').map .plain ++ [.mark ('/' :: style.toList)] := by
      simp [markTokens, odd]
    rw [tokens_eq, List.append_assoc, isSome_shown_plain, List.singleton_append, shown,
      is_style.afterMark_close]
    exact shows

theorem toList_mark (style content : String) (rest : List Char) :
    (mark style content).toList ++ rest =
      '[' :: (style.toList ++ ']' ::
        (content.toList ++ '[' :: ('/' :: style.toList ++ ']' :: rest))) := by
  simp [mark]

/-- What a style is opened and closed around has to look after its own marks only. -/
theorem SelfContained.sealed_mark {style : String} (is_style : IsStyle style)
    (contained : SelfContained content) : Sealed (mark style content) := by
  intro opened rest shows
  have opens : bracket? ('[' :: ('/' :: style.toList ++ ']' :: rest)) ≠ some ']' := by
    rw [bracket?]
    simp
  have inside := contained _ _ opens (is_style.showsBehindSlashes_close shows)
  have opening := tokensBehind_of_isMark is_style.isMark 0
    (content.toList ++ '[' :: ('/' :: style.toList ++ ']' :: rest))
  rw [List.replicate_zero, List.nil_append] at opening
  rw [toList_mark, Shows, opening, markTokens]
  simp only [Nat.zero_div, List.replicate_zero, List.nil_append, Nat.zero_mod, if_true,
    List.cons_append, shown, is_style.afterMark_open]
  exact inside

/-! ## Rendering -/

theorem SelfContained.isSome_render (contained : SelfContained content) :
    (render content).isSome := by
  have shows := contained [] [] nofun (showsBehindSlashes rfl nofun rfl)
  rw [List.append_nil] at shows
  rw [render, Option.isSome_map]
  exact shows

end Markup
end ElfInspect
