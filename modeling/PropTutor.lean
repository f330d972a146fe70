import PropTutor.Action
import PropTutor.Analysis
import PropTutor.Exercise.Basic
import PropTutor.Exercise.Decode
import PropTutor.Exercise.Error
import PropTutor.Exercise.Field
import PropTutor.Exercise.Kind
import PropTutor.Exercise.Schema
import PropTutor.Formula.Basic
import PropTutor.Formula.Names
import PropTutor.Formula.Parser
import PropTutor.Formula.Printer
import PropTutor.Formula.Sign
import PropTutor.Grading.Answer
import PropTutor.Grading.Cells
import PropTutor.Grading.Choices
import PropTutor.Grading.Derivation
import PropTutor.Grading.Formulas
import PropTutor.Grading.Grade
import PropTutor.Grading.Result
import PropTutor.Json.Basic
import PropTutor.Json.Display
import PropTutor.Json.Reader
import PropTutor.Json.Writer
import PropTutor.Keyed
import PropTutor.Logging
import PropTutor.NormalForm.Clause
import PropTutor.NormalForm.Passes
import PropTutor.NormalForm.Shape
import PropTutor.Number.Binary64
import PropTutor.Number.Integral
import PropTutor.Number.Shortest
import PropTutor.Operator
import PropTutor.Semantics.Assignment
import PropTutor.Semantics.Comparison
import PropTutor.Semantics.Entailment
import PropTutor.Semantics.TruthTable
import PropTutor.Settings.Basic
import PropTutor.Settings.Store
import PropTutor.Text.Base64
import PropTutor.Text.Blank
import PropTutor.Text.Decimal
import PropTutor.Text.Digit
import PropTutor.Text.Hex
import PropTutor.Text.Integer
import PropTutor.Text.Numeral
import PropTutor.Text.Printable
import PropTutor.Text.Quoted
import PropTutor.Text.Upper
import PropTutor.Token.Basic
import PropTutor.Token.Scan
import PropTutor.Token.Spelling
import PropTutor.Yaml.Error
import PropTutor.Yaml.Node
import PropTutor.Yaml.Number
import PropTutor.Yaml.Place
import PropTutor.Yaml.Resolve
import PropTutor.Yaml.Scalar
import PropTutor.Yaml.Tag
import PropTutor.Yaml.Timestamp
import PropTutor.Yaml.Token
import PropTutor.Yaml.Value
import PropTutor.Proofs.NormalForm.Meaning
import PropTutor.Proofs.NormalForm.Sequence
import PropTutor.Proofs.Semantics.Rows
import PropTutor.Proofs.Semantics.Variables
import PropTutor.Proofs.Semantics.Answers
import PropTutor.Proofs.Formula.Complete
import PropTutor.Proofs.Formula.Sound
import PropTutor.Proofs.Formula.Reading
import PropTutor.Proofs.Formula.Nesting
import PropTutor.Proofs.Formula.RoundTrip
import PropTutor.Proofs.Action
import PropTutor.Proofs.NormalForm.Forms
import PropTutor.Proofs.Semantics.Tabulation
import PropTutor.Proofs.Semantics.Comparison
import PropTutor.Proofs.Exercise.Decode
import PropTutor.Proofs.Formula.Spelling
import PropTutor.Proofs.Grading.Accepted
import PropTutor.Proofs.Grading.Derivation
import PropTutor.Proofs.Grading.Choices
import PropTutor.Proofs.Grading.Score
import PropTutor.Proofs.Grading.Equivalence
import PropTutor.Proofs.Grading.Matching
import PropTutor.Proofs.Text.Integer
import PropTutor.Proofs.Grading.Cells
import PropTutor.Proofs.Grading.StoredKey
import PropTutor.Proofs.Grading.Verdict
import PropTutor.Proofs.Grading.TableExercise
import PropTutor.Proofs.Grading.Records
import PropTutor.Proofs.Settings.History
import PropTutor.Proofs.NormalForm.Clauses
import PropTutor.Proofs.NormalForm.CrossProduct
import PropTutor.Proofs.NormalForm.Duality
import PropTutor.Proofs.Formula.FirstError
import PropTutor.Proofs.Token.Partition
import PropTutor.Proofs.Formula.Outcome
import PropTutor.Proofs.Formula.NormalSpelling
import PropTutor.Proofs.NormalForm.Arrows
import PropTutor.Proofs.Semantics.ExtraColumns
import PropTutor.Proofs.Settings.File
import PropTutor.Proofs.Grading.Diagnosis
import PropTutor.Proofs.Grading.MultipleChoice
import PropTutor.Proofs.Grading.CellEncodings
import PropTutor.Proofs.Grading.Signature
import PropTutor.Proofs.Exercise.Keys
import PropTutor.Proofs.Exercise.SchemaKeys
import PropTutor.Proofs.Exercise.Bounds
import PropTutor.Proofs.NormalForm.Sweep
import PropTutor.Proofs.Grading.StoredTarget
import PropTutor.Proofs.Grading.Wrapped
import PropTutor.Proofs.Text.Balance
import PropTutor.Proofs.Formula.Place
import PropTutor.Proofs.Formula.Parentheses
import PropTutor.Proofs.Formula.Depth
