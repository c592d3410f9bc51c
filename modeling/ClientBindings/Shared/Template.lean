import ClientBindings.Fault
import ClientBindings.Json.Display

/-!
# Template — texts with holes

A template is a list of pieces: fixed text, values, loops and choices.  It is filled in from a scope
of named values.  A name or a member that the scope lacks is a fault wherever it is used, so a
template never leaves a blank where a value should stand.

* `Expr` — a value by its name, a member of a value, or the last item of a list;
* `Expr.value`, `Expr.items` — a value that has to be defined, and the items of one;
* `Piece`, `Piece.fill`, `fillAll` — pieces and their text.
-/

namespace ClientBindings
namespace Shared

abbrev Scope := List (String × Json)

inductive Expr where
  | name (name : String)
  | member (value : Expr) (key : String)
  /-- The member `values` of a value. -/
  | values (value : Expr)
  | last (list : Expr)

namespace Expr

/-- The member `values` of a value.  An object without one has an operation of that name, which
counts as set and cannot be looped over. -/
def valuesOf? : Json → Option Json
  | .object members => some ((Table.get? members "values").getD (.bool true))
  | _ => none

/-- A value in a scope, if it is defined there. -/
def value? (scope : Scope) : Expr → Option Json
  | name n => scope.lookup n
  | member v key => (v.value? scope).bind (·.get? key)
  | values v => (v.value? scope).bind valuesOf?
  | last list => ((list.value? scope).bind Json.elements?).bind List.getLast?

/-- A value that has to be defined. -/
def value (scope : Scope) (e : Expr) : Except Fault Json :=
  match e.value? scope with
  | some v => .ok v
  | none => .error .undefinedValue

/-- Items of a value that has to be defined and to have some. -/
def items (scope : Scope) (e : Expr) : Except Fault (List Json) := do
  match (← e.value scope).elements? with
  | some items => return items
  | none => throw .notALoop

end Expr

inductive Piece where
  | text (s : String)
  | hole (e : Expr)
  | each (item : String) (list : Expr) (body : List Piece)
  | choose (test : Expr) (yes no : List Piece)

/-- Whole lines of text. -/
def Piece.lines (ls : List String) : Piece :=
  .text (String.join (ls.map (· ++ "\n")))

/-- Name under which a loop tells its body where it stands. -/
def loopName : String := "loop"

/-- Scopes of the rounds of a loop: the item, and whether it is the last one. -/
def rounds (scope : Scope) (item : String) (items : List Json) : List Scope :=
  items.zipIdx.map fun (value, index) =>
    -- The names of the round hide those around the loop.
    (item, value) ::
      (loopName, .object [("last", .bool (index + 1 = items.length))]) :: scope

mutual

/-- Text of a piece in a scope. -/
def Piece.fill (scope : Scope) : Piece → Except Fault String
  | .text s => .ok s
  | .hole e => return (← e.value scope).display
  | .each item list body => do
    let items ← list.items scope
    return String.join (← (rounds scope item items).mapM fun round => fillAll round body)
  | .choose test yes no => do
    if (← test.value scope).truthy then fillAll scope yes else fillAll scope no
termination_by structural piece => piece

/-- Text of a list of pieces in a scope. -/
def fillAll (scope : Scope) : List Piece → Except Fault String
  | [] => .ok ""
  | piece :: rest => do
    let first ← piece.fill scope
    return first ++ (← fillAll scope rest)
termination_by structural pieces => pieces

end

end Shared
end ClientBindings
