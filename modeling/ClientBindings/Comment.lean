import ClientBindings.Emission
import ClientBindings.Table
import ClientBindings.Schema.Basic
import ClientBindings.Text.Pieces

/-!
# Comment — descriptions and release notes inside generated comments

* `Comment.licenceLines` — the lines in front of a source;
* `Comment.escapeXml`, `Comment.escape` — a text that neither opens markup nor closes the comment;
* `Comment.described` — a description made fit for a comment;
* `Comment.branding`, `Comment.publishedInfo`, `Comment.deprecatedRelease` — what a comment says
  about releases;
* `Release.table` — releases whose code names can be looked up.
-/

namespace ClientBindings

/-- The releases of a schema, whose code names have to be names. -/
def Release.table (releases : List Release) : Except Fault (List Release) :=
  if releases.all fun r => r.codeName.isScalar then .ok releases else .error .notAName

namespace Comment

/-- The lines of a licence header and two empty ones; nothing without a header. -/
def licenceLines (header : String) : List String :=
  if header = "" then [] else Text.lines header ++ ["", ""]

/-! ## Escaping -/

/-- A text whose markup characters are entities. -/
def escapeXml (text : String) : String :=
  -- The ampersand goes first, so that the entities themselves stay whole.
  Text.substitute '>' "&gt;" (Text.substitute '<' "&lt;" (Text.substitute '&' "&amp;" text))

/-- Each end of a comment, broken by a space. -/
def breakEnds : List Char → List Char
  | [] => []
  | '*' :: '/' :: rest => '*' :: ' ' :: '/' :: breakEnds rest
  | c :: rest => c :: breakEnds rest

/-- A text in which no comment ends. -/
def breakEndsOf (text : String) : String :=
  .ofList (breakEnds text.toList)

/-- A text that neither opens markup nor closes the comment around it. -/
def escape (text : String) : String :=
  breakEndsOf (escapeXml text)

/-- A description, which has to be a text, made fit for a comment. -/
def described (description : Json) : Except Fault String := do
  return escape (← description.asText)

/-- A description, or what stands in its place where it is not set. -/
def describedOr (description : Json) (otherwise : Emission String) : Emission String :=
  if description.truthy then described description else otherwise

/-! ## Releases -/

/-- What a release is called in comments: the branding of the last release of that code name, or the
code name itself. -/
def branding (releases : List Release) (codeName : Json) : Emission Json := do
  if !codeName.isScalar then .fail .notAName
  else
    -- The last release of a code name counts.
    match releases.reverse.find? fun r => r.codeName.sameName codeName with
    | some r => return r.branding
    | none =>
      .meet (.note (.unbranded codeName.display))
      return codeName

/-- What the release is called that an item was deprecated in; `null` if it was not deprecated. -/
def deprecatedRelease (releases : List Release) (life : Lifecycle) : Emission Json :=
  if life.deprecated.truthy then branding releases life.deprecated
  else pure (if life.state = Lifecycle.deprecatedState then .text "unknown" else .null)

/-- The mark in front of a deprecated declaration; empty for others. -/
def deprecationMark (releases : List Release) (life : Lifecycle) : Emission String := do
  match ← deprecatedRelease releases life with
  | .null => return ""
  | release => return "@Deprecated(since = \"" ++ release.display ++ "\")"

/-- A sentence about a release, if it is given. -/
def sentence (releases : List Release) (opening : String) (release : Json) :
    Emission (List String) := do
  if release.truthy then return [opening ++ (← branding releases release).display ++ "."]
  else return []

/-- When an item appeared and when it was deprecated. -/
def publishedInfo (releases : List Release) (life : Lifecycle) : Emission String := do
  let first ← sentence releases "First published in " life.published
  let last ← sentence releases "Deprecated since " life.deprecated
  return Text.joined " " (first ++ last)

end Comment
end ClientBindings
