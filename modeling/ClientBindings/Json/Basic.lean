import ClientBindings.Decimal.Shortest
import ClientBindings.Table

/-!
# Json — decoded documents

A document is a value of `Json`.  Whole numbers and numbers with a fraction or an exponent are kept
apart: the latter are doubles, held by their bits, so that equality of documents is decidable.  A
text is a sequence of whole characters, as UTF-8 writes them: half of a surrogate pair is in no text.
An object lists its members in order.

* `Json.truthy` — whether a value counts as set where a flag is expected;
* `Json.get?` — a member of an object;
* `Json.elements?` — the values that a loop over a value meets;
* `Json.entries?` — the same where every entry has to be an object;
* `Json.same_iff` — equality is decided part by part.
-/

namespace ClientBindings

inductive Json where
  | null
  | bool (b : Bool)
  | integer (n : Int)
  /-- A double, by its bits. -/
  | real (bits : UInt64)
  | text (s : String)
  | list (items : List Json)
  | object (members : List (String × Json))

namespace Json

/-- Everything counts as set but `null`, `false`, zero, and what is empty. -/
def truthy : Json → Bool
  | null => false
  | bool b => b
  | integer n => n ≠ 0
  | real bits => Double.unsigned bits ≠ 0
  | text s => s ≠ ""
  | list items => !items.isEmpty
  | object members => !members.isEmpty

def get? : Json → String → Option Json
  | object members, key => Table.get? members key
  | _, _ => none

/-- What a loop over a value meets: the items of a list, the characters of a text, the names of an
object's members.  Other values cannot be looped over. -/
def elements? : Json → Option (List Json)
  | list items => some items
  | text s => some (s.toList.map fun c => text (.ofList [c]))
  | object members => some (members.map fun m => text m.1)
  | _ => none

/-- Items of a list whose entries have to be objects.  The empty text and the empty object are
empty lists; the entries of any other text or object would be texts. -/
def entries? : Json → Option (List Json)
  | list items => some items
  | text "" => some []
  | object [] => some []
  | _ => none

def isText : Json → Bool
  | text _ => true
  | _ => false

/-- Whether a value is a number, as which the flags count. -/
def isNumber : Json → Bool
  | bool _ | integer _ | real _ => true
  | _ => false

/-- Whether a value holds no further values. -/
def isScalar : Json → Bool
  | list _ | object _ => false
  | _ => true

/-! ## Equality -/

mutual

/-- Whether two values are the same. -/
def same : Json → Json → Bool
  | null, null => true
  | bool b, bool c => b = c
  | integer m, integer n => m = n
  | real x, real y => x = y
  | text s, text t => s = t
  | list items, list others => sameItems items others
  | object members, object others => sameMembers members others
  | _, _ => false
termination_by structural j => j

def sameItems : List Json → List Json → Bool
  | [], [] => true
  | j :: rest, k :: others => j.same k && sameItems rest others
  | _, _ => false
termination_by structural items => items

def sameMembers : List (String × Json) → List (String × Json) → Bool
  | [], [] => true
  | (name, j) :: rest, (other, k) :: others =>
    name = other && j.same k && sameMembers rest others
  | _, _ => false
termination_by structural members => members

end

mutual

theorem same_iff (j k : Json) : j.same k = true ↔ j = k := by
  cases j with
  | list items => cases k <;> simp [same, sameItems_iff]
  | object members => cases k <;> simp [same, sameMembers_iff]
  | _ => cases k <;> simp [same]

theorem sameItems_iff (items others : List Json) :
    sameItems items others = true ↔ items = others := by
  cases items with
  | nil => cases others <;> simp [sameItems]
  | cons j rest => cases others <;> simp [sameItems, same_iff, sameItems_iff]

theorem sameMembers_iff (members others : List (String × Json)) :
    sameMembers members others = true ↔ members = others := by
  cases members with
  | nil => cases others <;> simp [sameMembers]
  | cons m rest =>
    obtain ⟨name, j⟩ := m
    cases others <;> simp [sameMembers, Prod.ext_iff, same_iff, sameMembers_iff]

end

instance : DecidableEq Json :=
  fun j k => decidable_of_iff (j.same k = true) (same_iff j k)

/-! ## Sizes

A member or an item is smaller than the value that holds it. -/

theorem sizeOf_lt_of_lookup {members : List (String × Json)} {key : String} {v : Json}
    (h : members.lookup key = some v) : sizeOf v < sizeOf members := by
  induction members with
  | nil => simp at h
  | cons m rest ih =>
    obtain ⟨name, w⟩ := m
    rw [List.lookup_cons] at h
    split at h
    · have same : w = v := by simpa using h
      subst same
      simp only [List.cons.sizeOf_spec, Prod.mk.sizeOf_spec]
      omega
    · have := ih h
      simp only [List.cons.sizeOf_spec]
      omega

theorem sizeOf_lt_of_get? {j v : Json} {key : String} (h : j.get? key = some v) :
    sizeOf v < sizeOf j := by
  cases j with
  | object members =>
    have := sizeOf_lt_of_lookup (show members.lookup key = some v from h)
    simp only [object.sizeOf_spec]
    omega
  | _ => simp [get?] at h

theorem sizeOf_lt_of_mem_entries? {j e : Json} {items : List Json} (h : j.entries? = some items)
    (he : e ∈ items) : sizeOf e < sizeOf j := by
  unfold entries? at h
  split at h
  · cases h
    have := List.sizeOf_lt_of_mem he
    simp only [list.sizeOf_spec]
    omega
  all_goals simp_all

end Json
end ClientBindings
