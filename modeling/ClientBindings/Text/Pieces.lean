/-!
# Pieces — cutting text into lines and putting it together

* `lines` — the lines of a text, without their breaks;
* `unified` — a text with line feeds for breaks;
* `substitute` — one character replaced by a text;
* `joined` — pieces with a separator between them.
-/

namespace ClientBindings
namespace Text

/-- Characters that end a line. -/
def isLineBreak (c : Char) : Bool :=
  c ∈ ['\n', '\r', '\x0b', '\x0c', '\x1c', '\x1d', '\x1e', '\u0085', '\u2028', '\u2029']

/-- Pieces between line breaks; a carriage return and the line feed after it are one break. -/
def linePieces : List Char → List (List Char)
  | [] => [[]]
  | '\r' :: '\n' :: rest => [] :: linePieces rest
  | c :: rest =>
    if isLineBreak c then [] :: linePieces rest else (linePieces rest).modifyHead (List.cons c)

/-- Lines of a text.  A break ends a line, so nothing follows a break at the end of the text. -/
def lines (text : String) : List String :=
  let pieces := linePieces text.toList
  -- An empty last piece means that the text is empty or ends in a break.
  let ended := if pieces.getLast? = some [] then pieces.dropLast else pieces
  ended.map String.ofList

/-- Carriage returns, and the line feeds after them, as single line feeds. -/
def unifiedBreaks : List Char → List Char
  | [] => []
  | '\r' :: '\n' :: rest => '\n' :: unifiedBreaks rest
  | '\r' :: rest => '\n' :: unifiedBreaks rest
  | c :: rest => c :: unifiedBreaks rest

/-- A text whose breaks are line feeds. -/
def unified (text : String) : String :=
  .ofList (unifiedBreaks text.toList)

/-- Every occurrence of a character replaced by a text. -/
def substitute (c : Char) (image : String) (text : String) : String :=
  .ofList (text.toList.flatMap fun d => if d = c then image.toList else [d])

/-- Pieces with a separator between them. -/
def joined (sep : String) (pieces : List String) : String :=
  sep.intercalate pieces

end Text
end ClientBindings
