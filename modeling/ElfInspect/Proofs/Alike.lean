import ElfInspect.Table
import Mathlib.Data.List.Forall2

/-!
# Decoding the same thing in two ways

Two outcomes are alike when both fail with the same error or both succeed with related results.  A
table is decoded alike in two ways as soon as each of its entries is.
-/

namespace ElfInspect

theorem exists_of_bind_eq_ok {ε α β : Type} {first : Except ε α} {next : α → Except ε β}
    {result : β} (done : first >>= next = .ok result) :
    ∃ found, first = .ok found ∧ next found = .ok result := by
  cases first with
  | error error => contradiction
  | ok found => exact ⟨found, rfl, done⟩

/-- Two outcomes fail with one error, or succeed with related results. -/
inductive Alike {ε α β : Type} (Related : α → β → Prop) : Except ε α → Except ε β → Prop
  | failed (error : ε) : Alike Related (.error error) (.error error)
  | decoded {left : α} {right : β} (related : Related left right) :
      Alike Related (.ok left) (.ok right)

namespace Alike

variable {ε α β γ δ : Type} {Related Other : α → β → Prop} {left : Except ε α} {right : Except ε β}

theorem refl (outcome : Except ε α) : Alike Eq outcome outcome := by
  cases outcome with
  | error error => exact .failed error
  | ok found => exact .decoded rfl

theorem mono (alike : Alike Related left right)
    (weaken : ∀ found other, Related found other → Other found other) : Alike Other left right := by
  cases alike with
  | failed error => exact .failed error
  | decoded related => exact .decoded (weaken _ _ related)

theorem map {Converted : γ → δ → Prop} {convert : α → γ} {convertOther : β → δ}
    (alike : Alike Related left right)
    (converted : ∀ found other, Related found other →
      Converted (convert found) (convertOther other)) :
    Alike Converted (left.map convert) (right.map convertOther) := by
  cases alike with
  | failed error => exact .failed error
  | decoded related => exact .decoded (converted _ _ related)

theorem bind {Next : γ → δ → Prop} {next : α → Except ε γ} {nextOther : β → Except ε δ}
    (alike : Alike Related left right)
    (step : ∀ found other, Related found other → Alike Next (next found) (nextOther other)) :
    Alike Next (left >>= next) (right >>= nextOther) := by
  cases alike with
  | failed error => exact .failed error
  | decoded related => exact step _ _ related

/-- A step without a result before both of two outcomes. -/
theorem after (check : Except ε Unit) (alike : Alike Related left right) :
    Alike Related (check >>= fun _ => left) (check >>= fun _ => right) := by
  cases check with
  | error error => exact .failed error
  | ok _ => exact alike

end Alike

/-- Lists related entry by entry stay so when each entry is built for its own place. -/
theorem forall₂_mapIdx {α β γ δ : Type} {Related : α → β → Prop} {Built : γ → δ → Prop}
    {build : Nat → α → γ} {buildOther : Nat → β → δ} {entries : List α} {others : List β}
    (related : List.Forall₂ Related entries others)
    (built : ∀ index entry other, Related entry other →
      Built (build index entry) (buildOther index other)) :
    List.Forall₂ Built (entries.mapIdx build) (others.mapIdx buildOther) := by
  induction related generalizing build buildOther with
  | nil => exact .nil
  | cons first _ induction =>
      rw [List.mapIdx_cons, List.mapIdx_cons]
      exact .cons (built 0 _ _ first)
        (induction fun index entry other related => built (index + 1) entry other related)

theorem map_eq_map_of_forall₂ {α γ : Type} {convert : α → γ} {entries others : List α}
    (related : List.Forall₂ (fun entry other => convert entry = convert other) entries others) :
    entries.map convert = others.map convert := by
  induction related with
  | nil => rfl
  | cons same _ induction => rw [List.map_cons, List.map_cons, same, induction]

namespace Table

variable {ε α β : Type} {Related : α → β → Prop} {isLast : α → Bool} {isLastOther : β → Bool}
  {read : Nat → Except ε α} {readOther : Nat → Except ε β}

private theorem collectFrom_alike (reads : ∀ index, Alike Related (read index) (readOther index))
    (last_eq : ∀ entry other, Related entry other → isLast entry = isLastOther other)
    (index remaining : Nat) {collected : List α} {collectedOther : List β}
    (related : List.Forall₂ Related collected collectedOther) :
    Alike (List.Forall₂ Related) (collectFrom isLast read index remaining collected)
      (collectFrom isLastOther readOther index remaining collectedOther) := by
  induction remaining generalizing index collected collectedOther with
  | zero => exact .decoded (List.rel_reverse related)
  | succ remaining induction =>
      rw [collectFrom, collectFrom]
      have first := reads index
      generalize read index = outcome, readOther index = outcomeOther at first
      cases first with
      | failed error => exact .failed error
      | @decoded entry other entry_related =>
          simp only [last_eq entry other entry_related]
          by_cases last : isLastOther other = true
          · rw [if_pos last, if_pos last]
            exact .decoded (List.rel_reverse (.cons entry_related related))
          · rw [if_neg last, if_neg last]
            exact induction (index + 1) (.cons entry_related related)

/-- Collecting up to the last entry goes alike if each read does and the ends are the same. -/
theorem collectUntil_alike (count : Nat)
    (reads : ∀ index, Alike Related (read index) (readOther index))
    (last_eq : ∀ entry other, Related entry other → isLast entry = isLastOther other) :
    Alike (List.Forall₂ Related) (collectUntil isLast count read)
      (collectUntil isLastOther count readOther) :=
  collectFrom_alike reads last_eq 0 count .nil

theorem collect_alike (count : Nat)
    (reads : ∀ index, Alike Related (read index) (readOther index)) :
    Alike (List.Forall₂ Related) (collect count read) (collect count readOther) :=
  collectUntil_alike count reads fun _ _ _ => rfl

/-- What holds of every entry that can be read holds of all that have been collected. -/
theorem forall_mem_of_collectUntil (Holds : α → Prop) {count : Nat} {found : List α}
    (reads : ∀ index entry, read index = .ok entry → Holds entry)
    (found_eq : collectUntil isLast count read = .ok found) : ∀ entry ∈ found, Holds entry := by
  -- The table is compared with itself.
  have same_reads : ∀ index,
      Alike (fun entry other => entry = other ∧ Holds entry) (read index) (read index) := by
    intro index
    cases outcome : read index with
    | error error => exact .failed error
    | ok entry => exact .decoded ⟨rfl, reads index entry outcome⟩
  have alike := collectUntil_alike count same_reads fun _ _ related => congrArg isLast related.1
  rw [found_eq] at alike
  cases alike with
  | decoded related =>
      intro entry member
      exact (List.forall₂_same.mp related entry member).2

end Table
end ElfInspect
