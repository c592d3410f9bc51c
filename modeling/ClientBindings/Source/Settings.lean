import ClientBindings.Resolution

/-!
# Settings — what generated sources depend on besides the schema's classes
-/

namespace ClientBindings

structure Settings where
  /-- The package of the generated classes. -/
  package : String
  /-- Text in front of every source. -/
  licenceHeader : String
  overrides : Overrides
  /-- Releases that comments call by their branding. -/
  releases : List Release

end ClientBindings
