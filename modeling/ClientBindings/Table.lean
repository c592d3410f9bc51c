/-!
# Table — named entries in order of first appearance

A table lists its entries in the order in which their names first appeared.  Giving a name a second
time changes its entry and leaves its place.

* `Table.insert`, `Table.get?`, `Table.has` — writing and look-up;
* `Table.ofList` — the table of a list of entries, the last entry of a name winning.
-/

namespace ClientBindings

abbrev Table (α : Type) := List (String × α)

namespace Table

variable {α : Type}

/-- Entry of a name. -/
def get? (t : Table α) (name : String) : Option α :=
  t.lookup name

def has (t : Table α) (name : String) : Bool :=
  (t.get? name).isSome

/-- Give a name an entry: in its place if it has one, at the end otherwise. -/
def insert (name : String) (entry : α) : Table α → Table α
  | [] => [(name, entry)]
  | (other, old) :: rest =>
    if other = name then (name, entry) :: rest else (other, old) :: insert name entry rest

def ofList (entries : List (String × α)) : Table α :=
  entries.foldl (fun t e => insert e.1 e.2 t) []

def names (t : Table α) : List String :=
  t.map Prod.fst

end Table
end ClientBindings
