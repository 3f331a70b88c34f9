import SetupScript.CommandLine.Outcome
import SetupScript.Main
import SetupScript.Proofs.Lexeme
import SetupScript.Proofs.Tokenization
import SetupScript.Proofs.Grammar
import SetupScript.Proofs.Meaning
import SetupScript.Proofs.Lookahead
import SetupScript.Proofs.Handling
import SetupScript.Proofs.Running
import SetupScript.Proofs.Compilation
import SetupScript.Proofs.Continuation
import SetupScript.Proofs.Substitution
import SetupScript.Proofs.Verdict
import SetupScript.Proofs.Repetition
import SetupScript.Proofs.Halting
import SetupScript.Proofs.Diagnosis
import SetupScript.Proofs.Relocation
import SetupScript.Proofs.Overriding
import SetupScript.Proofs.Concatenation
import SetupScript.Proofs.Succession
import SetupScript.Proofs.Arguments
import SetupScript.Proofs.Modes
import SetupScript.Proofs.Output
import SetupScript.Proofs.SingleLine
import SetupScript.Proofs.Staging
import SetupScript.Proofs.Contents
import SetupScript.Proofs.Validation
import SetupScript.Proofs.Loading
import SetupScript.Proofs.ViablePrefix
import SetupScript.Proofs.Words
import SetupScript.Proofs.Abreast
import SetupScript.Proofs.Stencil
import SetupScript.Proofs.Destination
import SetupScript.Proofs.Conservation
import SetupScript.Proofs.Numbering
import SetupScript.Proofs.Assignment
import SetupScript.Proofs.Locality
import SetupScript.Proofs.LineEnds
import SetupScript.Proofs.CarriageReturns
import SetupScript.Proofs.PlainTemplates
import SetupScript.Proofs.Permanence
import SetupScript.Proofs.Pulling
import SetupScript.Proofs.Recall
import SetupScript.Proofs.Definitions
import SetupScript.Proofs.Blocks
import SetupScript.Proofs.Precedence
import SetupScript.Proofs.Passage
import SetupScript.Proofs.Standstill
import SetupScript.Proofs.Options
