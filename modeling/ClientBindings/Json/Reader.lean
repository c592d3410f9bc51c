import ClientBindings.Json.Basic

/-!
# Reader — a document from its text

`Json.read` accepts the JSON grammar, together with the three number names `NaN`, `Infinity` and
`-Infinity`.  Of two members with one name the last counts, at the place of the first.  Control
characters inside a text have to be escaped, and a whole number has at most 4300 digits.  A text has
to be made up of whole characters: half of a surrogate pair, spelled on its own, is refused.

* `ReadFault` — why a text is refused; of several reasons the first from the left counts;
* `Json.read` — the document of a text.
-/

namespace ClientBindings
namespace Json

inductive ReadFault where
  | notJson
  /-- A whole number has too many digits. -/
  | numberTooLong
  /-- Half of a surrogate pair stands on its own. -/
  | halfCharacter
  deriving DecidableEq

namespace Reader

abbrev Input := List Char

abbrev Read := Except ReadFault

/-- Go on with what was read, or fail where the grammar does not go on. -/
def grammar {α : Type} : Option α → Read α
  | some read => .ok read
  | none => .error .notJson

def isSpace (c : Char) : Bool :=
  c = ' ' || c = '\t' || c = '\n' || c = '\r'

def skipSpace (cs : Input) : Input :=
  cs.dropWhile isSpace

/-- The rest of the input after a word, if it starts with it. -/
def after? (word : String) (cs : Input) : Option Input :=
  if word.toList.isPrefixOf cs then some (cs.drop word.length) else none

/-! ## Texts -/

def hexValue? (c : Char) : Option Nat :=
  if c.isDigit then some (c.toNat - 48)
  else if 'a' ≤ c ∧ c ≤ 'f' then some (c.toNat - 87)
  else if 'A' ≤ c ∧ c ≤ 'F' then some (c.toNat - 55)
  else none

/-- The number that hexadecimal digits stand for. -/
def hexNumber? (cs : List Char) : Option Nat :=
  cs.foldlM (fun n c => (hexValue? c).map (16 * n + ·)) 0

/-- The character after a backslash. -/
def escaped? : Char → Option Nat
  | '\x22' => some 34
  | '\\' => some 92
  | '/' => some 47
  | 'b' => some 8
  | 'f' => some 12
  | 'n' => some 10
  | 'r' => some 13
  | 't' => some 9
  | _ => none

/-- Code points and halves of code points up to the closing quote, and the input after it. -/
def units? : Input → Option (List Nat × Input)
  | [] => none
  | '\x22' :: rest => some ([], rest)
  | '\\' :: 'u' :: a :: b :: c :: d :: rest => do
    let unit ← hexNumber? [a, b, c, d]
    let (units, rest) ← units? rest
    return (unit :: units, rest)
  | '\\' :: c :: rest => do
    let unit ← escaped? c
    let (units, rest) ← units? rest
    return (unit :: units, rest)
  | c :: rest =>
    if c.toNat < 32 ∨ c = '\\' then none
    else do
      let (units, rest) ← units? rest
      return (c.toNat :: units, rest)

def isHighHalf (n : Nat) : Bool :=
  0xd800 ≤ n && n < 0xdc00

def isLowHalf (n : Nat) : Bool :=
  0xdc00 ≤ n && n < 0xe000

/-- A code point as a character. -/
def character (n : Nat) : Read Char :=
  if isHighHalf n || isLowHalf n then .error .halfCharacter else .ok (.ofNat n)

/-- Characters of a sequence of units: a high half and the low half after it are one character. -/
def characters : List Nat → Read (List Char)
  | [] => .ok []
  | [n] => return [← character n]
  | high :: low :: rest => do
    -- Only a high half and a low half in this order make one character.
    if isHighHalf high && isLowHalf low then
      let others ← characters rest
      return .ofNat (0x10000 + (high - 0xd800) * 0x400 + (low - 0xdc00)) :: others
    else
      let first ← character high
      return first :: (← characters (low :: rest))

/-- A text, after its opening quote. -/
def text (cs : Input) : Read (String × Input) := do
  let (units, rest) ← grammar (units? cs)
  return (.ofList (← characters units), rest)

/-! ## Numbers -/

def digitsValue (cs : List Char) : Nat :=
  cs.foldl (fun n c => 10 * n + (c.toNat - 48)) 0

/-- Digits without a superfluous zero in front, and the input after them. -/
def whole? : Input → Option (List Char × Input)
  | '0' :: rest => some (['0'], rest)
  | cs =>
    match cs.takeWhile Char.isDigit with
    | [] => none
    | digits => some (digits, cs.dropWhile Char.isDigit)

/-- The digits after a point; none where no digit follows the point. -/
def fraction : Input → List Char × Input
  | '.' :: rest =>
    match rest.takeWhile Char.isDigit with
    | [] => ([], '.' :: rest)
    | digits => (digits, rest.dropWhile Char.isDigit)
  | cs => ([], cs)

/-- A sign as a factor, and the input after it. -/
def sign : Input → Int × Input
  | '-' :: rest => (-1, rest)
  | '+' :: rest => (1, rest)
  | cs => (1, cs)

/-- The exponent after its letter; none where no digit follows. -/
def exponent? : Input → Option (Int × Input)
  | e :: rest =>
    if e = 'e' ∨ e = 'E' then
      let (factor, rest) := sign rest
      match rest.takeWhile Char.isDigit with
      | [] => none
      | digits => some (factor * digitsValue digits, rest.dropWhile Char.isDigit)
    else none
  | [] => none

def infinity : Float := 1.0 / 0.0

/-- `digits · 10^exponent` as a double.  Beyond `10^400` every number is infinite, and below
`10^-400` every number is zero. -/
def magnitude (digits : List Char) (exponent : Int) : Float :=
  let value := digitsValue digits
  let top : Int := exponent + (toString value).length
  if value = 0 ∨ top < -400 then 0.0
  else if 400 < top then infinity
  else .ofScientific value (exponent < 0) exponent.natAbs

/-- The largest count of digits of a whole number. -/
def digitLimit : Nat := 4300

/-- A number without its sign. -/
def unsigned (negative : Bool) (cs : Input) : Read (Json × Input) := do
  let (digits, cs) ← grammar (whole? cs)
  let (decimals, cs) := fraction cs
  let power := exponent? cs
  -- Without a fraction and an exponent the number is whole.
  if decimals = [] ∧ power = none then
    if digitLimit < digits.length then throw .numberTooLong
    let value : Int := digitsValue digits
    return (.integer (if negative then -value else value), cs)
  else
    let (shift, cs) := power.getD (0, cs)
    let value := magnitude (digits ++ decimals) (shift - decimals.length)
    return (.real (if negative then -value else value).toBits, cs)

def number : Input → Read (Json × Input)
  | '-' :: rest =>
    match after? "Infinity" rest with
    | some rest => .ok (.real (-infinity).toBits, rest)
    | none => unsigned true rest
  | cs => unsigned false cs

/-! ## Values -/

/-- Values that are written as words. -/
def words : List (String × Json) :=
  [("null", .null), ("true", .bool true), ("false", .bool false),
    ("NaN", .real (0.0 / 0.0 : Float).toBits), ("Infinity", .real infinity.toBits)]

/-- A value that is written as a word, at the start of the input. -/
def word? (cs : Input) : Option (Json × Input) :=
  words.findSome? fun (word, value) => (after? word cs).map (value, ·)

/-- `null`, the flags, the names of numbers, numbers. -/
def scalar (cs : Input) : Read (Json × Input) :=
  match word? cs with
  | some read => .ok read
  | none => number cs

mutual

/-- A value at the start of the input; each step into a value or to the next one takes one unit of
`fuel`. -/
def value : Nat → Input → Read (Json × Input)
  | 0, _ => .error .notJson
  | _ + 1, '\x22' :: rest => do
    let (s, rest) ← text rest
    return (.text s, rest)
  | fuel + 1, '[' :: rest =>
    match skipSpace rest with
    | ']' :: rest => .ok (.list [], rest)
    | rest => do
      let (read, rest) ← items fuel rest
      return (.list read, rest)
  | fuel + 1, '\x7b' :: rest =>
    match skipSpace rest with
    | '\x7d' :: rest => .ok (.object [], rest)
    | rest => do
      let (read, rest) ← members fuel rest
      return (.object (Table.ofList read), rest)
  | _ + 1, cs => scalar cs

/-- Items up to the closing bracket. -/
def items : Nat → Input → Read (List Json × Input)
  | 0, _ => .error .notJson
  | fuel + 1, cs => do
    let (item, rest) ← value fuel cs
    match skipSpace rest with
    | ']' :: rest => return ([item], rest)
    -- A comma has to be followed by an item.
    | ',' :: rest =>
      let (others, rest) ← items fuel (skipSpace rest)
      return (item :: others, rest)
    | _ => throw .notJson

/-- Members up to the closing brace. -/
def members : Nat → Input → Read (List (String × Json) × Input)
  | 0, _ => .error .notJson
  | fuel + 1, '\x22' :: cs => do
    let (name, rest) ← text cs
    match skipSpace rest with
    | ':' :: rest =>
      let (entry, rest) ← value fuel (skipSpace rest)
      match skipSpace rest with
      | '\x7d' :: rest => return ([(name, entry)], rest)
      | ',' :: rest =>
        let (others, rest) ← members fuel (skipSpace rest)
        return ((name, entry) :: others, rest)
      | _ => throw .notJson
    | _ => throw .notJson
  | _ + 1, _ => .error .notJson

end

end Reader

/-- The document that a text holds, with nothing but space around it, if the fuel is enough. -/
def readWith (fuel : Nat) (text : String) : Except ReadFault Json := do
  let (document, rest) ← Reader.value fuel (Reader.skipSpace text.toList)
  if Reader.skipSpace rest = [] then return document else throw .notJson

/-- The document that a text holds.  A value, what is in it and the step to the next one take up a
character for every two units of fuel, so more fuel would change nothing. -/
def read (text : String) : Except ReadFault Json :=
  readWith (2 * text.toList.length + 1) text

end Json
end ClientBindings
