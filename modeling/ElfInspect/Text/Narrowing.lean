/-!
# Narrowing

Widths whose total is too large are narrowed from the widest ones on: those come down to the next
smaller width, again and again, until the total is small enough.  What has to be taken away in a
step is shared out as evenly as whole numbers allow.
-/

namespace ElfInspect
namespace Narrowing

/-- The whole number nearest to a quotient, and the even one of two that are equally near. -/
def nearest (dividend divisor : Nat) : Nat :=
  let quotient := dividend / divisor
  let doubled := 2 * (dividend % divisor)
  if divisor < doubled || (doubled = divisor && quotient % 2 = 1) then quotient + 1 else quotient

/-- Widths with an amount taken away from those among them that have a given width.  `count` of them
remain, and none gives more than `most`. -/
def share (width most : Nat) : (amount count : Nat) → List Nat → List Nat
  | _, _, [] => []
  | amount, count, first :: rest =>
      if first = width then
        let taken := min most (nearest amount count)
        (first - taken) :: share width most (amount - taken) (count - 1) rest
      else first :: share width most amount count rest

/-- The total of widths. -/
def total (widths : List Nat) : Nat := widths.foldl (· + ·) 0

/-- The greatest width below a bound. -/
def nextBelow (bound : Nat) (widths : List Nat) : Nat :=
  widths.foldl (fun found width => if width < bound then max found width else found) 0

/-- Widths after a step that brings the widest ones down. -/
def step (excess : Nat) (widths : List Nat) : List Nat :=
  let widest := widths.foldl max 0
  share widest (min excess (widest - nextBelow widest widths)) excess
    (widths.filter (· = widest)).length widths

/-- Widths after at most `fuel` steps towards a total. -/
def narrowWithin : (fuel : Nat) → (limit : Nat) → List Nat → List Nat
  | 0, _, widths => widths
  | fuel + 1, limit, widths =>
      if total widths ≤ limit then widths
      else narrowWithin fuel limit (step (total widths - limit) widths)

/-- Widths narrowed until their total is within a limit.  Each step takes at least one away. -/
def narrow (limit : Nat) (widths : List Nat) : List Nat :=
  narrowWithin (total widths - limit) limit widths

end Narrowing
end ElfInspect
