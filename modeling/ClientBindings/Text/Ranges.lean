/-!
# Ranges — look-up in sorted tables of code points

* `inRanges` — membership in a table of closed ranges;
* `CaseRun`, `image?` — a table of runs, each sending every `step`-th code point to an image that
  moves along with it.

Both tables are sorted by first code point, so a look-up stops at the first entry past its key.
-/

namespace ClientBindings
namespace Text

/-- Whether a code point lies in one of the closed ranges of a table. -/
def inRanges (n : Nat) : List (Nat × Nat) → Bool
  | [] => false
  | (first, last) :: rest =>
    -- The table is sorted, so no later range holds `n` either.
    if n < first then false else n ≤ last || inRanges n rest

/-- The code points `first`, `first + step`, … up to `last`, sent to `image`, `image + step`, …. -/
structure CaseRun where
  first : Nat
  last : Nat
  step : Nat
  image : Nat

/-- Image of a code point under a table of runs; `none` where the table is silent. -/
def image? (n : Nat) : List CaseRun → Option Nat
  | [] => none
  | r :: rest =>
    if n < r.first then none
    else if n ≤ r.last ∧ (n - r.first) % r.step = 0 then some (r.image + (n - r.first))
    else image? n rest

end Text
end ClientBindings
