import ClientBindings.Json.Writer

/-!
# Name — values that name things

Documents name things by texts, as a rule, but any scalar can be a name.  Numbers that are equal are
one name, and the flags are the numbers zero and one.

* `Json.wholeValue?` — the whole number that a value is equal to;
* `Json.canonical`, `Json.sameName` — when two values are one name;
* `Json.memberText` — a name as the name of an object's member.
-/

namespace ClientBindings
namespace Json

/-- A double as a whole number, if it is one. -/
def wholeDouble? (bits : UInt64) : Option Int :=
  let size := Double.unsigned bits
  if Double.infinity ≤ size then none
  else (Binary.ofBits size).whole?.map fun n => if Double.isNegative bits then -(n : Int) else n

/-- The whole number that a flag or a number is equal to. -/
def wholeValue? : Json → Option Int
  | bool b => some (if b then 1 else 0)
  | integer n => some n
  | real bits => wholeDouble? bits
  | _ => none

/-- The value that stands for all values of one name. -/
def canonical (j : Json) : Json :=
  match j.wholeValue? with
  | some n => integer n
  | none => j

def sameName (j k : Json) : Bool :=
  j.canonical = k.canonical

/-- A name as the name of an object's member. -/
def memberText : Json → String
  | text s => s
  | j => j.write

theorem canonical_text (s : String) : (text s).canonical = text s :=
  rfl

theorem sameName_text {s t : String} : (text s).sameName (text t) = true ↔ s = t := by
  simp [sameName, canonical_text]

end Json
end ClientBindings
