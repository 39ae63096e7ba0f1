import DocNav.Main
import DocNav.Workspace.Operation
import DocNav.Proofs.Text.Parts
import DocNav.Proofs.Text.Lines
import DocNav.Proofs.Text.Encoding
import DocNav.Proofs.Text.Units
import DocNav.Proofs.Buffer.LineIndex
import DocNav.Proofs.Buffer.Position
import DocNav.Proofs.Buffer.Edit
import DocNav.Proofs.Outline.Item
import DocNav.Proofs.Outline.Builder
import DocNav.Proofs.Outline.Path
import DocNav.Proofs.Outline.Pointer
import DocNav.Proofs.Outline.Navigation
import DocNav.Proofs.Outline.Duality
import DocNav.Proofs.Outline.Locality
import DocNav.Proofs.Workspace.Local
import DocNav.Proofs.Workspace.Coherence
import DocNav.Proofs.Workspace.Editor
import DocNav.Proofs.Workspace.Reference
import DocNav.Proofs.Workspace.Anchoring
import DocNav.Proofs.Workspace.Validity
import DocNav.Proofs.Workspace.Isolation
import DocNav.Proofs.Session.Alike
import DocNav.Proofs.Session.Conversation
import DocNav.Proofs.Outline.Blocks
import DocNav.Proofs.Workspace.Reading
import DocNav.Proofs.Buffer.Lookup
import DocNav.Proofs.Text.Size
import DocNav.Proofs.Buffer.Displacement
import DocNav.Proofs.Buffer.Order
import DocNav.Proofs.Buffer.Replacement
import DocNav.Proofs.Workspace.Atomicity
import DocNav.Proofs.Outline.Placement
import DocNav.Proofs.Outline.Nesting
import DocNav.Proofs.Outline.Access
import DocNav.Proofs.Outline.Enclosure
import DocNav.Proofs.Outline.Numbering
import DocNav.Proofs.Text.Spelling
import DocNav.Proofs.Outline.Recovery
import DocNav.Proofs.Buffer.History
import DocNav.Proofs.FileTree
import DocNav.Proofs.Settings.Discovery
import DocNav.Proofs.Text.Greedy
import DocNav.Proofs.Overflow
