import RecordFilter.Text.Blank
import RecordFilter.Text.Escaped
import RecordFilter.Text.Script
import RecordFilter.Binary.Basic
import RecordFilter.Binary.Rounding
import RecordFilter.Binary.Shortest
import RecordFilter.Kind
import RecordFilter.Operator
import RecordFilter.Record
import RecordFilter.NameTable
import RecordFilter.CharSet
import RecordFilter.Pattern.Engine
import RecordFilter.Pattern.Layout
import RecordFilter.Pattern.SetTerm
import RecordFilter.Pattern.Expr
import RecordFilter.Pattern.Search
import RecordFilter.Pattern.Basic
import RecordFilter.Comparison
import RecordFilter.Condition.Basic
import RecordFilter.Condition.Equality
import RecordFilter.Condition.Eval
import RecordFilter.Condition.Selection
import RecordFilter.Printing.Basic
import RecordFilter.Token.Basic
import RecordFilter.Token.Reading
import RecordFilter.Schema.Basic
import RecordFilter.Schema.Codec
import RecordFilter.Schema.Document
import RecordFilter.Expression.Basic
import RecordFilter.Expression.Literal
import RecordFilter.Expression.Reading
import RecordFilter.Derive.ConstantName
import RecordFilter.Derive.Entry
import RecordFilter.Derive.Expansion
import RecordFilter.Sample.Task
import RecordFilter.Sample.Wide
import RecordFilter.Proofs.Binary.Exactness
import RecordFilter.Proofs.Expression.Grammar
import RecordFilter.Proofs.Condition.Canonical
import RecordFilter.Proofs.Condition.Combinators
import RecordFilter.Proofs.Condition.Membership
import RecordFilter.Proofs.Condition.Negation
import RecordFilter.Proofs.Expression.Meaning
import RecordFilter.Proofs.Expression.TypeSafety
import RecordFilter.Proofs.Condition.Simplified
import RecordFilter.Proofs.Outcome
import RecordFilter.Proofs.Printing.Fragments
import RecordFilter.Proofs.Printing.Formula
import RecordFilter.Proofs.Printing.Meaning
import RecordFilter.Proofs.Printing.Scanning
import RecordFilter.Proofs.Printing.Literals
import RecordFilter.Proofs.Token.Decomposition
import RecordFilter.Proofs.Binary.ReadBack
import RecordFilter.Proofs.Expression.Trees
import RecordFilter.Proofs.Printing.Words
import RecordFilter.Proofs.Printing.RoundTrip
import RecordFilter.Proofs.Printing.Decoding
import RecordFilter.Proofs.Printing.Identity
import RecordFilter.Proofs.Condition.ShortCircuit
import RecordFilter.Proofs.Condition.DeMorgan
import RecordFilter.Proofs.Condition.Pairing
import RecordFilter.Proofs.Condition.Dependence
import RecordFilter.Proofs.Condition.Substitution
import RecordFilter.Proofs.Condition.Equality
import RecordFilter.Proofs.Printing.Failures
import RecordFilter.Proofs.Printing.Overflow
import RecordFilter.Proofs.Expression.Prefixes
import RecordFilter.Proofs.Expression.Layout
import RecordFilter.Proofs.Condition.Grouping
import RecordFilter.Proofs.Printing.Constraints
import RecordFilter.Proofs.Token.Front
import RecordFilter.Proofs.Expression.Complement
import RecordFilter.Proofs.Condition.Selection
import RecordFilter.Proofs.Derive.Agreement
import RecordFilter.Proofs.Derive.Constants
import RecordFilter.Proofs.Derive.NormalForm
import RecordFilter.Proofs.Condition.Pipeline
import RecordFilter.Proofs.NameTable
import RecordFilter.Proofs.Condition.Registration
import RecordFilter.Proofs.Expression.Integer
import RecordFilter.Proofs.Value.Order
import RecordFilter.Proofs.Derive.Rejection
import RecordFilter.Proofs.Schema.Codec
import RecordFilter.Proofs.Schema.Document
import RecordFilter.Proofs.Schema.History
