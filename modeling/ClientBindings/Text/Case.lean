import ClientBindings.Text.CaseTable

/-!
# Case — upper, lower and capitalised text

* `upper` — every character by its full upper-case mapping, so `ß` becomes `SS`;
* `lower` — every character by its full lower-case mapping, where a capital sigma that ends a word
  becomes the final form `ς`;
* `capitalized` — the first character in title case and the others in lower case.
-/

namespace ClientBindings
namespace Text

/-- Image of a character under an expansion table, then under a table of runs. -/
def caseImage? (expansions : List (Nat × List Nat)) (runs : List CaseRun) (c : Char) :
    Option (List Char) :=
  match expansions.lookup c.toNat with
  | some images => some (images.map Char.ofNat)
  | none => (image? c.toNat runs).map fun n => [Char.ofNat n]

def upperChar (c : Char) : List Char :=
  (caseImage? upperExpansions upperRuns c).getD [c]

def titleChar (c : Char) : List Char :=
  (caseImage? titleExpansions titleRuns c).getD (upperChar c)

/-- Lower case of a character on its own. -/
def lowerChar (c : Char) : List Char :=
  (caseImage? lowerExpansions lowerRuns c).getD [c]

def isCased (c : Char) : Bool :=
  inRanges c.toNat casedRanges

def isCaseIgnorable (c : Char) : Bool :=
  inRanges c.toNat caseIgnorableRanges

/-- Whether the first character that counts for case is a cased one. -/
def startsCased (cs : List Char) : Bool :=
  ((cs.dropWhile isCaseIgnorable).head?.map isCased).getD false

/-- Lower case of `cs` in a text where `before` stands in front of it, nearest character first. -/
def lowerAfter (before : List Char) : List Char → List Char
  | [] => []
  | c :: rest =>
    -- A capital sigma is final if a cased character precedes it and none follows.
    (if c = 'Σ' then [if startsCased before && !startsCased rest then 'ς' else 'σ']
      else lowerChar c) ++ lowerAfter (c :: before) rest

def upper (cs : List Char) : List Char :=
  cs.flatMap upperChar

def lower (cs : List Char) : List Char :=
  lowerAfter [] cs

def capitalized : List Char → List Char
  | [] => []
  | c :: rest => titleChar c ++ lowerAfter [c] rest

/-- Lower case of a text. -/
def lowered (text : String) : String :=
  .ofList (lower text.toList)

end Text
end ClientBindings
