import ClientBindings.Decimal.Shortest

/-!
# Decimal layout — how a binary number is written

`Layout` holds the decisions of a written form, and `Layout.write` follows them.  `Layout.plain`
writes numbers below `10^16` and from `10^-4` on with a decimal point, others with an exponent of at
least two digits, and keeps a fractional part also where it is zero.
-/

namespace ClientBindings

structure Layout where
  /-- The least and the largest decimal exponent written with a point. -/
  lowestPlain : Int
  highestPlain : Int
  /-- What follows a whole number written with a point. -/
  wholeEnd : String
  /-- Least digit count of an exponent. -/
  exponentWidth : Nat
  notANumber : String
  infinity : String

namespace Layout

def plain : Layout := ⟨-4, 15, ".0", 2, "nan", "inf"⟩

def zeros (n : Nat) : String :=
  .ofList (List.replicate n '0')

/-- Digits with a point after the first `whole` of them, zeros where digits are missing. -/
def pointed (l : Layout) (digits : String) (whole : Int) : String :=
  if whole ≤ 0 then "0." ++ zeros (-whole).toNat ++ digits
  else if whole.toNat < digits.length then
    .ofList (digits.toList.take whole.toNat) ++ "." ++ .ofList (digits.toList.drop whole.toNat)
  else digits ++ zeros (whole.toNat - digits.length) ++ l.wholeEnd

/-- Digits with a point after the first one, if others follow, and the exponent. -/
def exponential (l : Layout) (digits : String) (exponent : Int) : String :=
  let power := toString exponent.natAbs
  let head := .ofList (digits.toList.take 1)
  let rest := digits.toList.drop 1
  head ++ (if rest = [] then "" else "." ++ .ofList rest) ++
    (if exponent < 0 then "e-" else "e+") ++ zeros (l.exponentWidth - power.length) ++ power

def magnitude (l : Layout) (d : Decimal) : String :=
  let digits := toString d.digits
  let leading : Int := d.exponent + digits.length - 1
  if l.lowestPlain ≤ leading ∧ leading ≤ l.highestPlain then l.pointed digits (leading + 1)
  else l.exponential digits leading

/-- A double in the fewest digits that read back. -/
def write (l : Layout) (bits : UInt64) : String :=
  let size := Double.unsigned bits
  if Double.infinity < size then l.notANumber
  else
    (if Double.isNegative bits then "-" else "") ++
      (if size = Double.infinity then l.infinity
      else if size = 0 then l.pointed "0" 1
      else l.magnitude (Binary.ofBits size).shortest)

end Layout
end ClientBindings
