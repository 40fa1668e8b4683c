import MigrationScript.Call
import MigrationScript.Log.Attempts
import MigrationScript.Log.Loggers
import MigrationScript.Proofs.Assembly
import MigrationScript.Proofs.Blocks
import MigrationScript.Proofs.Brackets
import MigrationScript.Proofs.Calls
import MigrationScript.Proofs.Capitals
import MigrationScript.Proofs.CaseBlindness
import MigrationScript.Proofs.ClosingMarks
import MigrationScript.Proofs.CodeEnd
import MigrationScript.Proofs.Comments
import MigrationScript.Proofs.ContextFilter
import MigrationScript.Proofs.Continuation
import MigrationScript.Proofs.Copies
import MigrationScript.Proofs.DialectNames
import MigrationScript.Proofs.Directives
import MigrationScript.Proofs.Expressions
import MigrationScript.Proofs.FieldValues
import MigrationScript.Proofs.Fronts
import MigrationScript.Proofs.HeadPatterns
import MigrationScript.Proofs.Heads
import MigrationScript.Proofs.IdleLines
import MigrationScript.Proofs.Interiors
import MigrationScript.Proofs.JsonReading
import MigrationScript.Proofs.JsonText
import MigrationScript.Proofs.Layout
import MigrationScript.Proofs.LineEnds
import MigrationScript.Proofs.LineTails
import MigrationScript.Proofs.Lineage
import MigrationScript.Proofs.Lines
import MigrationScript.Proofs.LogHistory
import MigrationScript.Proofs.LogTrace
import MigrationScript.Proofs.LoggerSetup
import MigrationScript.Proofs.LowerCase
import MigrationScript.Proofs.Numbering
import MigrationScript.Proofs.OpenComments
import MigrationScript.Proofs.Openers
import MigrationScript.Proofs.Parallel
import MigrationScript.Proofs.Parsing
import MigrationScript.Proofs.Partition
import MigrationScript.Proofs.Placement
import MigrationScript.Proofs.Places
import MigrationScript.Proofs.Reading
import MigrationScript.Proofs.Recognition
import MigrationScript.Proofs.Resplitting
import MigrationScript.Proofs.Roles
import MigrationScript.Proofs.Seams
import MigrationScript.Proofs.Separators
import MigrationScript.Proofs.SteadyNames
import MigrationScript.Proofs.Stripping
import MigrationScript.Proofs.StructuredLines
import MigrationScript.Proofs.Substitution
import MigrationScript.Proofs.TextOrder
import MigrationScript.Proofs.Unbroken
import MigrationScript.Proofs.UpperCase
import MigrationScript.Proofs.WholeText
import MigrationScript.Proofs.Words
import MigrationScript.Proofs.WrittenLines
import MigrationScript.Proofs.WrittenLiterals
import MigrationScript.Script
import MigrationScript.Text.Case
import MigrationScript.Text.Quoted
