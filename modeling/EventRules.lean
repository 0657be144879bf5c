import EventRules.Binary.Double
import EventRules.Binary.Format
import EventRules.Compile.Item
import EventRules.Compile.Leaf
import EventRules.Compile.Rule
import EventRules.Condition.Aggregation
import EventRules.Condition.Expr
import EventRules.Condition.Glob
import EventRules.Condition.Resolve
import EventRules.Condition.Token
import EventRules.Condition.Tree
import EventRules.Config
import EventRules.Decimal.Layout
import EventRules.Decimal.Reading
import EventRules.Decimal.Shortest
import EventRules.Detection.Body
import EventRules.Detection.Set
import EventRules.Evaluate
import EventRules.Event.CloudTrail
import EventRules.Event.Json
import EventRules.Field.Access
import EventRules.Field.Datum
import EventRules.Field.Names
import EventRules.Field.Value
import EventRules.Import
import EventRules.Inspect
import EventRules.Json.Number
import EventRules.Json.Record
import EventRules.Json.Text
import EventRules.Json.Token
import EventRules.Json.Tree
import EventRules.Json.Value
import EventRules.Log
import EventRules.Network.Address
import EventRules.Network.AddressText
import EventRules.Network.Block
import EventRules.Number
import EventRules.Numeral
import EventRules.Pattern
import EventRules.Pattern.Atom
import EventRules.Pattern.Bracket
import EventRules.Pattern.Choice
import EventRules.Pattern.Edge
import EventRules.Pattern.Expr
import EventRules.Pattern.Flag
import EventRules.Pattern.Group
import EventRules.Pattern.Positions
import EventRules.Pattern.Property
import EventRules.Pattern.Reader
import EventRules.Pattern.Repetition
import EventRules.Pattern.Size
import EventRules.Pattern.Spacing
import EventRules.PatternEngine
import EventRules.Predicate
import EventRules.Proofs.Binary.Equal
import EventRules.Proofs.Compile.CastError
import EventRules.Proofs.Compile.Fields
import EventRules.Proofs.Compile.Item
import EventRules.Proofs.Compile.Renamed
import EventRules.Proofs.Compile.Resolved
import EventRules.Proofs.Compile.Rewritten
import EventRules.Proofs.Condition.Aggregation
import EventRules.Proofs.Condition.Clause
import EventRules.Proofs.Condition.Expr
import EventRules.Proofs.Condition.Fields
import EventRules.Proofs.Condition.Formed
import EventRules.Proofs.Condition.Glob
import EventRules.Proofs.Condition.Grammar
import EventRules.Proofs.Condition.Holds
import EventRules.Proofs.Condition.Renamed
import EventRules.Proofs.Condition.Reordered
import EventRules.Proofs.Condition.Resolve
import EventRules.Proofs.Condition.Selection
import EventRules.Proofs.Condition.Separated
import EventRules.Proofs.Condition.Token
import EventRules.Proofs.Condition.Tree
import EventRules.Proofs.Condition.Unused
import EventRules.Proofs.Condition.Written
import EventRules.Proofs.Decision
import EventRules.Proofs.Detection.Accepted
import EventRules.Proofs.Detection.Body
import EventRules.Proofs.Detection.Fault
import EventRules.Proofs.Detection.Key
import EventRules.Proofs.Evaluate.Calls
import EventRules.Proofs.Evaluate.Split
import EventRules.Proofs.Event.CloudTrail
import EventRules.Proofs.Event.Flattened
import EventRules.Proofs.Event.Integer
import EventRules.Proofs.Event.Json
import EventRules.Proofs.Event.Null
import EventRules.Proofs.Event.Path
import EventRules.Proofs.FirstFault
import EventRules.Proofs.Import
import EventRules.Proofs.Import.Report
import EventRules.Proofs.Json.Text
import EventRules.Proofs.Json.Value
import EventRules.Proofs.Network.AddressText
import EventRules.Proofs.Network.Block
import EventRules.Proofs.Network.Interval
import EventRules.Proofs.Network.Number
import EventRules.Proofs.Network.Octets
import EventRules.Proofs.Number
import EventRules.Proofs.Pattern.Choice
import EventRules.Proofs.Predicate
import EventRules.Proofs.Rule.Condition
import EventRules.Proofs.Rule.Failure
import EventRules.Proofs.Rule.Parse
import EventRules.Proofs.Rule.Renamed
import EventRules.Proofs.Rule.Reordered
import EventRules.Proofs.Rule.Unused
import EventRules.Proofs.Session
import EventRules.Proofs.Text.Digits
import EventRules.Proofs.Text.Slice
import EventRules.Proofs.Text.Trim
import EventRules.Proofs.Verdict
import EventRules.Rule.Compiled
import EventRules.Rule.Document
import EventRules.Rule.Error
import EventRules.Rule.GrammarError
import EventRules.Rule.Level
import EventRules.Run
import EventRules.Session
import EventRules.Store
import EventRules.Text.Alphanumeric
import EventRules.Text.Digits
import EventRules.Text.Quoted
import EventRules.Text.Trim
import EventRules.Unicode.Age
import EventRules.Unicode.ByteRange
import EventRules.Unicode.CaseFolding
import EventRules.Unicode.Category
import EventRules.Unicode.CodeSet
import EventRules.Unicode.GraphemeBreak
import EventRules.Unicode.Property
import EventRules.Unicode.Script
import EventRules.Unicode.SentenceBreak
import EventRules.Unicode.WordBreak
import EventRules.Yaml.Core
import EventRules.Yaml.Cursor
import EventRules.Yaml.Document
import EventRules.Yaml.Inspect
import EventRules.Yaml.Node
import EventRules.Yaml.ScalarText
import EventRules.Yaml.Token
import EventRules.Yaml.TokenStream
import EventRules.Yaml.Value
