import ClientBindings.Text.Printable

/-!
# Quoted texts — a text as it is shown inside a message

A quoted text stands between single quotes, or between double quotes if it holds a single quote and
no double one.  The quote that encloses it, the backslash, and every character that is not
printable are escaped.
-/

namespace ClientBindings
namespace Text

/-- The quote that encloses a text. -/
def enclosingQuote (cs : List Char) : Char :=
  if '\x27' ∈ cs ∧ '\x22' ∉ cs then '\x22' else '\x27'

def hexDigit (n : Nat) : Char :=
  (Nat.toDigits 16 (n % 16)).head?.getD '0'

/-- The last `width` hexadecimal digits of a number. -/
def hexDigits (n : Nat) : Nat → List Char
  | 0 => []
  | width + 1 => hexDigits (n / 16) width ++ [hexDigit n]

/-- A character as a number, in the shortest of the three widths that holds it. -/
def numericEscape (c : Char) : List Char :=
  let n := c.toNat
  if n < 0x100 then '\\' :: 'x' :: hexDigits n 2
  else if n < 0x10000 then '\\' :: 'u' :: hexDigits n 4
  else '\\' :: 'U' :: hexDigits n 8

def quotedChar (quote c : Char) : List Char :=
  if c = quote ∨ c = '\\' then ['\\', c]
  else if c = '\n' then ['\\', 'n']
  else if c = '\r' then ['\\', 'r']
  else if c = '\t' then ['\\', 't']
  else if isPrintable c then [c]
  else numericEscape c

/-- A text between quotes, with its escapes. -/
def quoted (text : String) : String :=
  let cs := text.toList
  let quote := enclosingQuote cs
  .ofList (quote :: cs.flatMap (quotedChar quote) ++ [quote])

end Text
end ClientBindings
