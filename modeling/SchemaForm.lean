import SchemaForm.CommandLine.Run
import SchemaForm.FileTree
import SchemaForm.Main
import SchemaForm.Proofs.Building.Depth
import SchemaForm.Proofs.Form.Complete
import SchemaForm.Proofs.Form.Missing
import SchemaForm.Proofs.Form.Reloading
import SchemaForm.Proofs.Widget.Start
import SchemaForm.Proofs.Field.Part
import SchemaForm.Proofs.Form.ShapeFree
import SchemaForm.Proofs.Building.WellFormed
import SchemaForm.Proofs.Building.Nullable
import SchemaForm.Proofs.Calendar.Told
import SchemaForm.Proofs.Calendar.Padded
import SchemaForm.Proofs.Calendar.Named
import SchemaForm.Proofs.Calendar.Pattern
import SchemaForm.Proofs.Calendar.ReadBack
import SchemaForm.Proofs.Calendar.Unread
import SchemaForm.Proofs.Calendar.Untold
import SchemaForm.Proofs.Calendar.Tells
import SchemaForm.Proofs.Calendar.Kept
import SchemaForm.Proofs.Calendar.Overrun
import SchemaForm.Proofs.Codec.Checked
import SchemaForm.Proofs.Building.Spelling
import SchemaForm.Proofs.Form.Opening
import SchemaForm.Proofs.Form.Reporting
import SchemaForm.Proofs.Form.Normalized
import SchemaForm.Proofs.Registry.History
import SchemaForm.Proofs.Building.Keys
import SchemaForm.Proofs.Form.Typed
import SchemaForm.Proofs.Widget.Revalidation
import SchemaForm.Proofs.Codec.Returned
import SchemaForm.Proofs.Field.Limits
import SchemaForm.Proofs.Widget.ClosedList
import SchemaForm.Proofs.Widget.Input
import SchemaForm.Proofs.Path
import SchemaForm.Proofs.Regex.Matching
import SchemaForm.Proofs.Regex.Reading.Basic
import SchemaForm.Proofs.Regex.Reading.Escape
import SchemaForm.Proofs.Rule.RangeMessage
import SchemaForm.Proofs.Schema.Branches
import SchemaForm.Proofs.Regex.Reading.Bracket
import SchemaForm.Proofs.Regex.Reading.Pattern
import SchemaForm.Proofs.Regex.Automaton
import SchemaForm.Proofs.Regex.Restriction
import SchemaForm.Proofs.Form.Cleared
import SchemaForm.Proofs.Form.Completed
import SchemaForm.Proofs.Form.Reordered
import SchemaForm.Proofs.Building.Reordered
import SchemaForm.Proofs.Form.Misfit
import SchemaForm.Proofs.Form.Lookup
import SchemaForm.Proofs.Draft
