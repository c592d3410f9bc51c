import ClientBindings.Decimal.Layout
import ClientBindings.Json.Basic
import ClientBindings.Text.Pieces
import ClientBindings.Text.Quoted

/-!
# Writer — the text of a document

`Json.write` puts a document on one line, without spaces.  Quotes, backslashes and control
characters inside texts are escaped.
-/

namespace ClientBindings
namespace Json

/-- Numbers of a document: the plain layout, with the names that the reader knows. -/
def numberLayout : Layout :=
  { Layout.plain with notANumber := "NaN", infinity := "Infinity" }

def writtenChar (c : Char) : List Char :=
  if c = '\x22' ∨ c = '\\' then ['\\', c]
  else if c.toNat < 32 then '\\' :: 'u' :: Text.hexDigits c.toNat 4
  else [c]

def writtenText (s : String) : String :=
  "\x22" ++ .ofList (s.toList.flatMap writtenChar) ++ "\x22"

mutual

def write : Json → String
  | null => "null"
  | bool true => "true"
  | bool false => "false"
  | integer n => toString n
  | real bits => numberLayout.write bits
  | text s => writtenText s
  | list items => "[" ++ Text.joined "," (writeItems items) ++ "]"
  | object members => "\x7b" ++ Text.joined "," (writeMembers members) ++ "\x7d"
termination_by structural j => j

def writeItems : List Json → List String
  | [] => []
  | j :: rest => j.write :: writeItems rest
termination_by structural items => items

def writeMembers : List (String × Json) → List String
  | [] => []
  | (name, j) :: rest => (writtenText name ++ ":" ++ j.write) :: writeMembers rest
termination_by structural members => members

end

end Json
end ClientBindings
