import ClientBindings.Json.Writer
import ClientBindings.Main
import ClientBindings.Proofs.Entries
import ClientBindings.Proofs.Members
import ClientBindings.Proofs.Naming
import ClientBindings.Proofs.Bodies
import ClientBindings.Proofs.Interchange
import ClientBindings.Proofs.Grammar
import ClientBindings.Proofs.Writing
import ClientBindings.Proofs.Kinds
import ClientBindings.Proofs.Rendering
import ClientBindings.Proofs.Outcome
import ClientBindings.Proofs.SourceFaults
import ClientBindings.Proofs.RunFaults
import ClientBindings.Proofs.Independence
import ClientBindings.Proofs.Discipline
import ClientBindings.Proofs.ClassOrder
import ClientBindings.Proofs.Presentable
import ClientBindings.Proofs.Course
import ClientBindings.Proofs.Exits
import ClientBindings.Proofs.Flattening
import ClientBindings.Proofs.UsedNames
import ClientBindings.Proofs.Overwriting
import ClientBindings.Proofs.Comments
import ClientBindings.Proofs.Acceptance
import ClientBindings.Proofs.Defaults
import ClientBindings.Proofs.Wrapping
import ClientBindings.Proofs.References
import ClientBindings.Proofs.EventRecord
import ClientBindings.Proofs.Stops
import ClientBindings.Proofs.Escaping
import ClientBindings.Proofs.Components
import ClientBindings.Proofs.Referents
import ClientBindings.Proofs.Exceptions
import ClientBindings.Proofs.Commas
import ClientBindings.Proofs.ReservedWords
import ClientBindings.Proofs.Reading
