import ClientBindings.Text.Ranges

/-!
# Blanks — white space and stripping

`isBlank` is the white space of Unicode together with the four information separators
`U+001C`–`U+001F`.  `strip` removes it from both ends of a text.
-/

namespace ClientBindings
namespace Text

def blankRanges : List (Nat × Nat) :=
  [(9, 13), (28, 32), (133, 133), (160, 160), (0x1680, 0x1680), (0x2000, 0x200a),
    (0x2028, 0x2029), (0x202f, 0x202f), (0x205f, 0x205f), (0x3000, 0x3000)]

def isBlank (c : Char) : Bool :=
  inRanges c.toNat blankRanges

/-- The text from its first non-blank character on. -/
def stripStart (cs : List Char) : List Char :=
  cs.dropWhile isBlank

/-- The text up to its last non-blank character. -/
def stripEnd (cs : List Char) : List Char :=
  (cs.reverse.dropWhile isBlank).reverse

def strip (cs : List Char) : List Char :=
  stripEnd (stripStart cs)

theorem length_strip_le (cs : List Char) : (strip cs).length ≤ cs.length := by
  have start : (stripStart cs).length ≤ cs.length := (List.dropWhile_sublist isBlank).length_le
  have stop : (stripEnd (stripStart cs)).length ≤ (stripStart cs).length := by
    have back := (List.dropWhile_sublist (l := (stripStart cs).reverse) isBlank).length_le
    simpa [stripEnd] using back
  exact Nat.le_trans stop start

end Text
end ClientBindings
