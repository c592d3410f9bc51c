import ClientBindings.Decimal.Layout
import ClientBindings.Json.Basic
import ClientBindings.Text.Pieces
import ClientBindings.Text.Quoted

/-!
# Display — a decoded value inside a text

`Json.display` shows a text as it is and any other value by `Json.shown`, which quotes the texts
inside lists and objects.
-/

namespace ClientBindings
namespace Json

mutual

/-- A value with the texts in it quoted. -/
def shown : Json → String
  | null => "None"
  | bool true => "True"
  | bool false => "False"
  | integer n => toString n
  | real bits => Layout.plain.write bits
  | text s => Text.quoted s
  | list items => "[" ++ Text.joined ", " (shownItems items) ++ "]"
  | object members => "\x7b" ++ Text.joined ", " (shownMembers members) ++ "\x7d"
termination_by structural j => j

def shownItems : List Json → List String
  | [] => []
  | j :: rest => j.shown :: shownItems rest
termination_by structural items => items

def shownMembers : List (String × Json) → List String
  | [] => []
  | (name, j) :: rest => (Text.quoted name ++ ": " ++ j.shown) :: shownMembers rest
termination_by structural members => members

end

/-- A value as part of a text. -/
def display : Json → String
  | text s => s
  | j => j.shown

end Json
end ClientBindings
