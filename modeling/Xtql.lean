import Xtql.Unicode.WhiteSpace
import Xtql.Unicode.Numeric
import Xtql.Unicode.GraphemeExtend
import Xtql.Unicode.Printable
import Xtql.Text.Quoted
import Xtql.Edn.Lexer
import Xtql.Number.Binary64
import Xtql.Number.Layout
import Xtql.Text.Position
import Xtql.Edn.Reader
import Xtql.Json.Print
import Xtql.Json.Read
import Xtql.Options
import Xtql.Query.Parse
import Xtql.Query.Document
import Xtql.Compile
import Xtql.Boundary
import Xtql.Boundary.Heap
import Xtql.Text.Similarity
import Xtql.Cli.LogFilter
import Xtql.Cli.Args
import Xtql.Cli.Run
import Xtql.Main
import Xtql.Proofs.Edn.ReadPrint
import Xtql.Proofs.Edn.ReadSteps
import Xtql.Proofs.Edn.Discards
import Xtql.Proofs.Edn.ReadShapes
import Xtql.Proofs.Query.Unparse
import Xtql.Proofs.Query.Spans
import Xtql.Proofs.Query.ParseUnparse
import Xtql.Proofs.Compile.Trivia
import Xtql.Proofs.Json.NulFree
import Xtql.Proofs.Compile.Boundary
import Xtql.Proofs.Compile.LiveBuffers
import Xtql.Proofs.Edn.ReadErrors
import Xtql.Proofs.Edn.Nesting
import Xtql.Proofs.Query.Faults
import Xtql.Proofs.Compile.Limit
import Xtql.Proofs.Json.Object
import Xtql.Proofs.Query.Render
import Xtql.Proofs.Edn.Nodes
import Xtql.Proofs.Query.Faithful
import Xtql.Proofs.Edn.Relocate
import Xtql.Proofs.Edn.SliceScan
import Xtql.Proofs.Edn.Escapes
import Xtql.Proofs.Number.Rounding
import Xtql.Proofs.Edn.Numbers
import Xtql.Proofs.Edn.Closers
import Xtql.Proofs.Edn.Extension
import Xtql.Proofs.Edn.Continuations
import Xtql.Proofs.Edn.FormSpans
import Xtql.Proofs.Text.Positions
import Xtql.Proofs.Edn.Tiling
import Xtql.Proofs.Edn.DiscardGrammar
import Xtql.Proofs.Edn.Termination
