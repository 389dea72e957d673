import ShapeLint.Main
import ShapeLint.Walk.PointerTable
import ShapeLint.Descriptor.Fields
import ShapeLint.Proofs.Walk.Exploration
import ShapeLint.Proofs.Dialect.Safety
import ShapeLint.Proofs.Dialect.Transparency
import ShapeLint.Proofs.Registry.Growth
import ShapeLint.Proofs.Registry.History
import ShapeLint.Proofs.Document.Routes
import ShapeLint.Proofs.Walk.Causes
import ShapeLint.Proofs.Walk.Questions
import ShapeLint.Proofs.Walk.Termination
import ShapeLint.Proofs.Leaf.Places
import ShapeLint.Proofs.Descriptor.KeyFindings
import ShapeLint.Proofs.Walk.Evidence
import ShapeLint.Proofs.Walk.Relocation
import ShapeLint.Proofs.Descriptor.Blind
import ShapeLint.Proofs.Dialect.Blindness
import ShapeLint.Proofs.Walk.Locality
import ShapeLint.Proofs.Registry.Batches
import ShapeLint.Proofs.Walk.Freezing
import ShapeLint.Proofs.Dialect.Payloads
import ShapeLint.Proofs.Walk.Markers
import ShapeLint.Proofs.Document.Keys
import ShapeLint.Proofs.Leaf.Repetition
import ShapeLint.Proofs.Registry.Order
import ShapeLint.Proofs.Descriptor.Repetition
import ShapeLint.Proofs.Walk.Repetition
import ShapeLint.Proofs.Dialect.Repetition
import ShapeLint.Proofs.Document.Reordering
import ShapeLint.Proofs.Leaf.Reordering
import ShapeLint.Proofs.Descriptor.Reordering
import ShapeLint.Proofs.Walk.Reordering
import ShapeLint.Proofs.Dialect.Reordering
import ShapeLint.Proofs.Document.Sameness
import ShapeLint.Proofs.Leaf.Sameness
import ShapeLint.Proofs.Registry.Extensions
import ShapeLint.Proofs.Walk.Visits
import ShapeLint.Proofs.Registry.Conservation
import ShapeLint.Proofs.Descriptor.Consistency
import ShapeLint.Proofs.Walk.Consistency
import ShapeLint.Proofs.Dialect.Consistency
import ShapeLint.Proofs.Dialect.ArrayItems
import ShapeLint.Proofs.Dialect.GuardedKeys
import ShapeLint.Proofs.Descriptor.Degradation
import ShapeLint.Proofs.Dialect.MappingEntries
import ShapeLint.Proofs.Leaf.Bounds
import ShapeLint.Proofs.Leaf.Refinement
import ShapeLint.Proofs.Leaf.Choices
import ShapeLint.Proofs.Walk.Mismatches
import ShapeLint.Proofs.Descriptor.KeyPresence
import ShapeLint.Proofs.Descriptor.Descriptions
import ShapeLint.Proofs.Registry.Dangling
import ShapeLint.Proofs.Registry.Descriptions
