import ClientBindings.Emission
import ClientBindings.Naming

/-!
# Log — what a run reports

A log line has a level, the part of the program it comes from, and a text.  Lines of the level
`debug` are shown on request only.
-/

namespace ClientBindings

inductive Level where
  | debug
  | info
  | error
  deriving DecidableEq

namespace Level

def name : Level → String
  | debug => "DEBUG"
  | info => "INFO"
  | error => "ERROR"

end Level

structure LogLine where
  level : Level
  /-- The part of the program that reports. -/
  part : String
  text : String

namespace LogLine

def shown (l : LogLine) : String :=
  l.level.name ++ " " ++ l.part ++ ": " ++ l.text

/-- A count of things. -/
def counted (n : Nat) (things : String) : String :=
  toString n ++ " " ++ things

end LogLine

namespace Encounter

/-- What the log says about a thing met: record layouts and notes are reported. -/
def logLine? : Encounter → Option LogLine
  | registration (.record cls layout) =>
    some ⟨.debug, "sdkgen.context",
      "Registered record " ++ cls.display ++ " with " ++ LogLine.counted layout.length "fields"⟩
  | registration _ => none
  | note (.unbranded codeName) =>
    some ⟨.debug, "sdkgen.common_generator",
      "No branding for release '" ++ codeName ++ "', using the code name"⟩
  | note (.record cls members) =>
    some ⟨.debug, "sdkgen.record_generator",
      "Generated " ++ Naming.classCase cls ++ ".Record with " ++ LogLine.counted members "fields"⟩
  | note (.method cls name params) =>
    some ⟨.debug, "sdkgen.method_generator",
      "Generated " ++ cls ++ "." ++ name ++ "(" ++ LogLine.counted params "params" ++ ")"⟩

end Encounter
end ClientBindings
