import FilterPrep.Main
import FilterPrep.Proofs.Outcome
import FilterPrep.Proofs.Forest
import FilterPrep.Proofs.Phrase
import FilterPrep.Proofs.Tokens
import FilterPrep.Proofs.Grammar
import FilterPrep.Proofs.Diagnosis
import FilterPrep.Proofs.Slices
import FilterPrep.Proofs.Blanks
import FilterPrep.Proofs.Redundancy
import FilterPrep.Proofs.Printing
import FilterPrep.Proofs.Rewriting
import FilterPrep.Proofs.IncludeTree
import FilterPrep.Proofs.HostName
import FilterPrep.Proofs.Authority
import FilterPrep.Proofs.Address
import FilterPrep.Proofs.Origin
import FilterPrep.Proofs.Confinement
import FilterPrep.Proofs.Selection
import FilterPrep.Proofs.Balance
import FilterPrep.Proofs.Exchange
import FilterPrep.Proofs.Matching
import FilterPrep.Proofs.FlagsRead
import FilterPrep.Proofs.Offence
import FilterPrep.Proofs.Substitution
import FilterPrep.Proofs.Commutation
import FilterPrep.Proofs.PatchNotes
import FilterPrep.Proofs.Course
import FilterPrep.Proofs.Guard
import FilterPrep.Proofs.Failure
import FilterPrep.Proofs.Final
import FilterPrep.Proofs.Placement
import FilterPrep.Proofs.Sequence
import FilterPrep.Proofs.Pieces
import FilterPrep.Proofs.Splitting
import FilterPrep.Proofs.Encoding
import FilterPrep.Proofs.Definitions
import FilterPrep.Proofs.Update
import FilterPrep.Proofs.Series
import FilterPrep.Proofs.CanonicalPath
import FilterPrep.Proofs.Beside
import FilterPrep.Proofs.HostText
import FilterPrep.Proofs.Signature
import FilterPrep.Proofs.Declaration
import FilterPrep.Proofs.LineEndings
import FilterPrep.Proofs.SameOrigin
