import CartCriteria.Main
import CartCriteria.Proofs.Binary64.Binades
import CartCriteria.Proofs.Binary64.Decimal
import CartCriteria.Proofs.Binary64.Layout
import CartCriteria.Proofs.Binary64.Nearest
import CartCriteria.Proofs.Binary64.Rounding
import CartCriteria.Proofs.Binary64.Whole
import CartCriteria.Proofs.Command.Channels
import CartCriteria.Proofs.Command.Check
import CartCriteria.Proofs.Command.DefaultRule
import CartCriteria.Proofs.Command.Modes
import CartCriteria.Proofs.Command.OtherRules
import CartCriteria.Proofs.Command.Reading
import CartCriteria.Proofs.Command.Reporting
import CartCriteria.Proofs.Command.Session
import CartCriteria.Proofs.Command.SetConfig
import CartCriteria.Proofs.Command.Stages
import CartCriteria.Proofs.Command.Verify
import CartCriteria.Proofs.Condition.Display
import CartCriteria.Proofs.Condition.Forms
import CartCriteria.Proofs.Condition.Malformed
import CartCriteria.Proofs.Condition.Reading
import CartCriteria.Proofs.Condition.Sequences
import CartCriteria.Proofs.Condition.Shape
import CartCriteria.Proofs.Config.Parts
import CartCriteria.Proofs.Config.Problems
import CartCriteria.Proofs.Config.Reload
import CartCriteria.Proofs.Config.RoundTrip
import CartCriteria.Proofs.Config.SetRun
import CartCriteria.Proofs.Config.Setting
import CartCriteria.Proofs.Config.Sorted
import CartCriteria.Proofs.Config.Suggestions
import CartCriteria.Proofs.Config.Threshold
import CartCriteria.Proofs.Config.WrittenThreshold
import CartCriteria.Proofs.Criteria.Absence
import CartCriteria.Proofs.Criteria.Direct
import CartCriteria.Proofs.Criteria.Edits
import CartCriteria.Proofs.Criteria.Rearrangement
import CartCriteria.Proofs.Dictionary
import CartCriteria.Proofs.Files.Overwrite
import CartCriteria.Proofs.Files.ReadBack
import CartCriteria.Proofs.Files.Untouched
import CartCriteria.Proofs.Json.CompactReading
import CartCriteria.Proofs.Json.CompactText
import CartCriteria.Proofs.Json.NumberText
import CartCriteria.Proofs.Json.PrettyRelaxed
import CartCriteria.Proofs.Json.PrettyScan
import CartCriteria.Proofs.Json.PrettyStrict
import CartCriteria.Proofs.Json.Sorted
import CartCriteria.Proofs.Json.StrictNumber
import CartCriteria.Proofs.Json.StrictRelaxed
import CartCriteria.Proofs.Json.StrictTokens
import CartCriteria.Proofs.Json.StringText
import CartCriteria.Proofs.Json.Written
import CartCriteria.Proofs.Loose.Equality
import CartCriteria.Proofs.Loose.Integers
import CartCriteria.Proofs.Loose.Leaves
import CartCriteria.Proofs.Loose.NumberForm
import CartCriteria.Proofs.Loose.NumericText
import CartCriteria.Proofs.Loose.Order
import CartCriteria.Proofs.Loose.Radix
import CartCriteria.Proofs.Numeral.Grammar
import CartCriteria.Proofs.Numeral.Spelling
import CartCriteria.Proofs.Resolution.Composition
import CartCriteria.Proofs.Resolution.Projection
import CartCriteria.Proofs.Text.Natural
import CartCriteria.Proofs.Text.Units16
import CartCriteria.Proofs.Text.Utf8
