import ClientBindings.Fault
import ClientBindings.Table
import ClientBindings.Text.Blank
import ClientBindings.Text.Word

/-!
# TypeText — types as a schema spells them

A type is written as the name of a scalar kind or as a constructor applied to an argument in angle
brackets:

    string | secret_string | int | float | bool | datetime
    enum<name> | ref<class> | record<class> | set<T> | option<T> | map<K, V>

Blanks are allowed around every part.

* `splitTopLevel` — the parts of a text between the commas that no bracket encloses;
* `application?` — constructor and argument of a text;
* `readType` — the type that a text spells, over a table of declared enumerations.
-/

namespace ClientBindings
namespace TypeText

/-! ## Splitting -/

/-- What a character adds to the bracket depth. -/
def bracket (c : Char) : Int :=
  if c = '<' then 1 else if c = '>' then -1 else 0

/-- Pieces between the commas of depth zero, where the text starts at depth `depth`. -/
def topPieces (depth : Int) : List Char → List (List Char)
  | [] => [[]]
  | c :: rest =>
    if c = ',' ∧ depth = 0 then [] :: topPieces depth rest
    else (topPieces (depth + bracket c) rest).modifyHead (List.cons c)

/-- Parts of a text between the commas that are not inside brackets, without blanks around them. -/
def splitTopLevel (cs : List Char) : List (List Char) :=
  (topPieces 0 cs).map Text.strip

theorem length_le_of_mem_modifyHead {c : Char} {pieces : List (List Char)} {n : Nat}
    (h : ∀ p ∈ pieces, p.length ≤ n) {p : List Char} (hp : p ∈ pieces.modifyHead (List.cons c)) :
    p.length ≤ n + 1 := by
  cases pieces with
  | nil => simp at hp
  | cons first rest =>
    rcases List.mem_cons.mp hp with rfl | hp
    · simpa using h first (by simp)
    · exact Nat.le_succ_of_le (h p (by simp [hp]))

theorem length_le_of_mem_topPieces (cs : List Char) :
    ∀ (depth : Int), ∀ p ∈ topPieces depth cs, p.length ≤ cs.length := by
  induction cs with
  | nil =>
    intro depth p hp
    have : p = [] := by simpa [topPieces] using hp
    simp [this]
  | cons c rest ih =>
    intro depth p hp
    unfold topPieces at hp
    split at hp
    · rcases List.mem_cons.mp hp with rfl | hp
      · simp
      · exact Nat.le_succ_of_le (ih depth p hp)
    · exact length_le_of_mem_modifyHead (ih _) hp

theorem length_le_of_mem_splitTopLevel {cs p : List Char} (hp : p ∈ splitTopLevel cs) :
    p.length ≤ cs.length := by
  obtain ⟨piece, hpiece, rfl⟩ := List.mem_map.mp hp
  exact Nat.le_trans (Text.length_strip_le piece) (length_le_of_mem_topPieces cs 0 piece hpiece)

/-! ## Constructors -/

/-- Constructors that take an argument in brackets. -/
inductive Constructor where
  | enum
  | ref
  | record
  | set
  | option
  | map
  deriving DecidableEq

namespace Constructor

def name : Constructor → String
  | enum => "enum"
  | ref => "ref"
  | record => "record"
  | set => "set"
  | option => "option"
  | map => "map"

def all : List Constructor :=
  [enum, ref, record, set, option, map]

def ofName? (name : String) : Option Constructor :=
  all.find? fun c => c.name = name

end Constructor

/-- The text between an opening bracket at the start and a closing one at the end.  There has to be
some, on one line. -/
def enclosed? : List Char → Option (List Char)
  | '<' :: rest =>
    match rest.reverse with
    | '>' :: body => if body = [] ∨ '\n' ∈ body then none else some body.reverse
    | _ => none
  | _ => none

/-- Constructor and argument of a text such as `set<int>`, the argument without blanks around it.
The constructor is a word, and blanks may follow it. -/
def application? (cs : List Char) : Option (List Char × List Char) :=
  let word := cs.takeWhile Text.isWord
  let rest := (cs.dropWhile Text.isWord).dropWhile Text.isBlank
  if word = [] then none
  else (enclosed? rest).map fun body => (word, Text.strip body)

theorem length_lt_of_enclosed? {cs body : List Char} (h : enclosed? cs = some body) :
    body.length < cs.length := by
  unfold enclosed? at h
  split at h
  · next rest =>
    split at h
    · next inner hrev =>
      split at h
      · simp at h
      · have hbody : inner.reverse = body := by simpa using h
        have hlen : rest.reverse.length = inner.length + 1 := by simp [hrev]
        simp only [List.length_reverse] at hlen
        simp only [← hbody, List.length_reverse, List.length_cons]
        omega
    · simp at h
  · simp at h

theorem length_lt_of_application? {cs word argument : List Char}
    (h : application? cs = some (word, argument)) : argument.length < cs.length := by
  unfold application? at h
  simp only at h
  split at h
  · simp at h
  · obtain ⟨body, hbody, hpair⟩ := Option.map_eq_some_iff.mp h
    have hargument : Text.strip body = argument := by
      simpa using (congrArg Prod.snd hpair)
    have inside := length_lt_of_enclosed? hbody
    have stripped := Text.length_strip_le body
    have blanks := (List.dropWhile_sublist (l := cs.dropWhile Text.isWord) Text.isBlank).length_le
    have letters := (List.dropWhile_sublist (l := cs) Text.isWord).length_le
    rw [← hargument]
    omega

/-! ## Reading -/

set_option linter.unusedVariables false in
/-- The type that a text spells.  The argument of a constructor is shorter than the text, so reading
ends. -/
def readType (enums : Table (List EnumValue)) (cs : List Char) : Except SchemaFault Ty :=
  -- The name of a scalar kind is no application, so it comes first.
  match Scalar.ofName? (.ofList (Text.strip cs)) with
  | some s => .ok (.scalar s)
  | none =>
    match happ : application? (Text.strip cs) with
    | none => .error (.unreadableType (.ofList (Text.strip cs)))
    | some (word, argument) =>
      match Constructor.ofName? (.ofList word) with
      | none => .error (.unknownConstructor (.ofList word) (.ofList (Text.strip cs)))
      -- An enumeration is written out with its declared values.
      | some .enum =>
        match enums.get? (.ofList argument) with
        | none => .error (.undeclaredEnum (.ofList argument))
        | some values => .ok (.enum (.ofList argument) values)
      -- Classes are named freely: they need not be declared.
      | some .ref => .ok (.ref (.ofList argument))
      | some .record => .ok (.record (.ofList argument))
      | some .set => (readType enums argument).map .set
      | some .option => (readType enums argument).map .option
      | some .map =>
        match hparts : splitTopLevel argument with
        | [key, value] => do
          let key ← readType enums key
          let value ← readType enums value
          return .map key value
        | _ => .error (.mapArity (.ofList (Text.strip cs)))
termination_by cs.length
decreasing_by
  all_goals
    have smaller := length_lt_of_application? happ
    have stripped := Text.length_strip_le cs
  · omega
  · omega
  · have part : key.length ≤ argument.length :=
      length_le_of_mem_splitTopLevel (by simp [hparts])
    omega
  · have part : value.length ≤ argument.length :=
      length_le_of_mem_splitTopLevel (by simp [hparts])
    omega

end TypeText

/-- The type that a text spells, over the declared enumerations. -/
def Ty.ofText (enums : Table (List EnumValue)) (text : String) : Except SchemaFault Ty :=
  TypeText.readType enums text.toList

end ClientBindings
