/-!
# Shortest decimals — the fewest digits that read back

A finite positive binary number is `m · 2^q`.  The reals that round to it form the interval between
the midpoints to its two neighbours, the ends included when `m` is even.  `shortest` looks for the
coarsest decimal grid with a point in that interval; of two such points it takes the nearer one, and
of two equally near ones the even one.  All comparisons are exact, on natural numbers.

* `Decimal` — digits times a power of ten;
* `Double` — bit patterns of doubles;
* `Binary`, `Binary.ofBits` — significand and exponent, read off the bit pattern;
* `Binary.whole?` — the whole number that a binary number is;
* `Binary.shortest` — the decimal.
-/

namespace ClientBindings

/-- `digits · 10^exponent`. -/
structure Decimal where
  digits : Nat
  exponent : Int

namespace Double

/-- A double without its sign. -/
def unsigned (bits : UInt64) : UInt64 :=
  bits &&& 0x7fffffffffffffff

/-- Infinity; the patterns above it are no numbers. -/
def infinity : UInt64 := 0x7ff0000000000000

def isNegative (bits : UInt64) : Bool :=
  bits ≠ unsigned bits

end Double

/-- `significand · 2^exponent`; `lowest` marks the least significand of a binade, below which the
spacing of the numbers halves. -/
structure Binary where
  significand : Nat
  exponent : Int
  lowest : Bool

namespace Binary

/-- Significand and exponent of a positive double, by its bit pattern. -/
def ofBits (bits : UInt64) : Binary :=
  let fraction := bits.toNat % Nat.pow 2 52
  let biased := bits.toNat / Nat.pow 2 52 % Nat.pow 2 11
  if biased = 0 then ⟨fraction, -1074, false⟩
  else ⟨Nat.pow 2 52 + fraction, Int.ofNat biased - 1075, fraction = 0 ∧ 1 < biased⟩

/-- The number as a whole number, if it is one. -/
def whole? (x : Binary) : Option Nat :=
  let unit := Nat.pow 2 (-x.exponent).toNat
  if x.significand % unit = 0 then some (x.significand / unit * Nat.pow 2 x.exponent.toNat) else none

/-- `a · 10^s` against `b · 2^t`: both sides as natural numbers of one scale. -/
def scaled (a : Nat) (s : Int) (b : Nat) (t : Int) : Nat × Nat :=
  (a * Nat.pow 10 s.toNat * Nat.pow 2 (-t).toNat, b * Nat.pow 2 t.toNat * Nat.pow 10 (-s).toNat)

/-- Quarters of the unit in the last place from the number down to the lower midpoint. -/
def lowerGap (x : Binary) : Nat :=
  if x.lowest then 1 else 2

/-- Whether the point `c · 10^s` of a grid rounds to the number. -/
def covers (x : Binary) (c : Nat) (s : Int) : Bool :=
  -- In quarters of the last place both midpoints are whole numbers.
  let t := x.exponent - 2
  let below := scaled c s (4 * x.significand - x.lowerGap) t
  let above := scaled c s (4 * x.significand + 2) t
  if x.significand % 2 = 0 then below.2 ≤ below.1 && above.1 ≤ above.2
  else below.2 < below.1 && above.1 < above.2

/-- The largest point of the grid of step `10^s` that is not above the number. -/
def gridFloor (x : Binary) (s : Int) : Nat :=
  let sides := scaled 1 s x.significand x.exponent
  sides.2 / sides.1

/-- Whether the point after `c` is nearer to the number than `c` is; a tie goes to the even one. -/
def nearerAbove (x : Binary) (c : Nat) (s : Int) : Bool :=
  let sides := scaled (2 * c + 1) s (2 * x.significand) x.exponent
  sides.1 < sides.2 || (sides.1 = sides.2 && c % 2 = 1)

/-- A point of the grid of step `10^s` that rounds to the number: the nearer one if two do. -/
def onGrid? (x : Binary) (s : Int) : Option Nat :=
  let c := x.gridFloor s
  match x.covers c s, x.covers (c + 1) s with
  | true, true => some (if x.nearerAbove c s then c + 1 else c)
  | true, false => some c
  | false, true => some (c + 1)
  | false, false => none

/-- The first grid with a point that rounds to the number, from step `10^s` down. -/
def search (x : Binary) : Nat → Int → Decimal
  -- Not reached: a grid finer than the spacing of the numbers has a point that rounds to `x`.
  | 0, s => ⟨x.gridFloor s, s⟩
  | fuel + 1, s =>
    match x.onGrid? s with
    | some c => ⟨c, s⟩
    | none => search x fuel (s - 1)

/-- A power of ten above every point that rounds to the number. -/
def ceilingExponent (x : Binary) : Int :=
  let bits : Int := x.significand.log2 + 1 + x.exponent
  -- A little more than the logarithm of two to the base ten.
  bits * 30103 / 100000 + 1

/-- The shortest decimal that rounds to a positive number.  Forty grids reach past the seventeen
digits that tell any two doubles apart. -/
def shortest (x : Binary) : Decimal :=
  search x 40 x.ceilingExponent

end Binary
end ClientBindings
