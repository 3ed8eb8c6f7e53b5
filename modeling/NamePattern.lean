import NamePattern.Grammar
import NamePattern.Random
import NamePattern.Generator.Basic
import NamePattern.Generator.Build
import NamePattern.Generator.Measure
import NamePattern.Generator.Sample
import NamePattern.Generator.Buffer
import NamePattern.Generator.Language
import NamePattern.SymbolTable.Basic
import NamePattern.SymbolTable.Builtin
import NamePattern.Text.Quoted
import NamePattern.Pattern.Log
import NamePattern.Pattern.Compile
import NamePattern.Pattern.Body
import NamePattern.Pattern.Written
import NamePattern.Binary.Decoder
import NamePattern.Binary.Layout
import NamePattern.Json
import NamePattern.Session.Expr
import NamePattern.Session.Basic
import NamePattern.Proofs.Grammar.Nesting
import NamePattern.Proofs.Grammar.Unambiguous
import NamePattern.Proofs.Grammar.OpenGroups
import NamePattern.Proofs.Pattern.Outcome
import NamePattern.Proofs.Pattern.Brackets
import NamePattern.Proofs.Pattern.Reading
import NamePattern.Proofs.Pattern.Completion
import NamePattern.Proofs.Pattern.Transcript
import NamePattern.Proofs.SymbolTable.History
import NamePattern.Proofs.Pattern.Dependence
import NamePattern.Proofs.Generator.Draws
import NamePattern.Proofs.Generator.Paths
import NamePattern.Proofs.Generator.Sampling
import NamePattern.Proofs.Generator.Combinations
import NamePattern.Proofs.Random
import NamePattern.Proofs.Generator.Distribution
import NamePattern.Proofs.Pattern.Plain
import NamePattern.Proofs.Generator.Minimal
import NamePattern.Proofs.Generator.Merging
import NamePattern.Proofs.Generator.Building
import NamePattern.Proofs.Generator.Buffered
import NamePattern.Proofs.Generator.Locality
import NamePattern.Proofs.Generator.Forced
import NamePattern.Proofs.Generator.Rebuilding
import NamePattern.Proofs.Generator.Lengths
import NamePattern.Proofs.Generator.Uniform
import NamePattern.Proofs.Pattern.Spelling
import NamePattern.Proofs.Binary.Consistent
import NamePattern.Proofs.Binary.Canonical
import NamePattern.Proofs.Binary.Extent
import NamePattern.Proofs.SymbolTable.Loading
import NamePattern.Proofs.SymbolTable.Reserved
import NamePattern.Proofs.Json.Forms
import NamePattern.Proofs.Session.Steps
import NamePattern.Proofs.Session.Slots
import NamePattern.Proofs.Pattern.Group
import NamePattern.Proofs.Pattern.Composition
import NamePattern.Proofs.Pattern.Inlining
import NamePattern.Proofs.Pattern.Size
import NamePattern.Proofs.Pattern.Related
import NamePattern.Proofs.Pattern.Enlarging
import NamePattern.Proofs.Pattern.Matching
import NamePattern.Proofs.Pattern.Frames
