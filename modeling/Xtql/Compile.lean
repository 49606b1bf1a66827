import Xtql.Query.Parse
import Xtql.Query.Document
import Xtql.Options
import Xtql.Json.Print
import Xtql.Log

/-!
Compiling queries to documents: the size limit, then UTF-8, then the parse under the nesting
limit, each step with the event it logs. The elapsed time is logged as zero.
-/

namespace Xtql

open Xtql.Text

inductive CompileError where
  | parse (e : ParseError)
  | invalidUtf8 (validUpTo : Nat)
  | tooLarge (len max : Nat)
deriving Repr

def CompileError.message : CompileError → String
  | .parse e => "parse error: " ++ e.render
  | .invalidUtf8 n => "invalid UTF-8 in query at byte " ++ toString n
  | .tooLarge len max =>
    "query is " ++ toString len ++ " bytes, exceeding the " ++ toString max ++ " byte limit"

/-- Compiles query text under the limits' nesting depth, with the event it logs. The size
limit is not checked here. -/
def compileTraced (query : String) (opts : CompileOptions) :
    List LogEvent × Except ParseError Json :=
  match Query.parse query opts.maxDepth with
  | .error e => ([⟨compilerTarget, .debug, "xtql parse failed: " ++ e.message,
      [("kind", e.kind.describe),
        ("position", toString e.position.line ++ ":" ++ toString e.position.column)]⟩],
      .error e)
  | .ok q => ([⟨compilerTarget, .debug, "compiled xtql query",
      [("bytes", toString query.utf8ByteSize), ("operator", quotedText q.operator),
        ("elapsed_us", "0")]⟩], .ok q.toJson)

def compileWith (query : String) (opts : CompileOptions) : Except ParseError Json :=
  (compileTraced query opts).2

def compile (query : String) : Except ParseError Json := compileWith query {}

/-- Compiles raw bytes: the size limit, then UTF-8, then the query; with the events logged. -/
def compileBytesTraced (bytes : List UInt8) (opts : CompileOptions) :
    List LogEvent × Except CompileError Json :=
  if bytes.length > opts.maxInputBytes then
    ([⟨compilerTarget, .warn, "rejecting oversized xtql query",
      [("len", toString bytes.length), ("max", toString opts.maxInputBytes)]⟩],
      .error (.tooLarge bytes.length opts.maxInputBytes))
  else
    match decodeUtf8 bytes with
    | .error n => ([⟨compilerTarget, .warn, "rejecting non-UTF-8 xtql query",
        [("valid_up_to", toString n)]⟩],
        .error (.invalidUtf8 n))
    | .ok text =>
      let (events, r) := compileTraced text opts
      (events, match r with
        | .ok j => .ok j
        | .error e => .error (.parse e))

def compileBytes (bytes : List UInt8) (opts : CompileOptions) : Except CompileError Json :=
  (compileBytesTraced bytes opts).2

def compileToString (query : String) : Except CompileError String :=
  match compile query with
  | .ok j => .ok j.compact
  | .error e => .error (.parse e)

/-- A parse error as a JSON object with its fields in the order kind, message, position. -/
def ParseError.detail (e : ParseError) : Json :=
  .obj [("kind", .str e.kind.name), ("message", .str e.message),
    ("position", .obj [("offset", .num (.int e.position.offset)),
      ("line", .num (.int e.position.line)), ("column", .num (.int e.position.column))])]

def version : String := "0.1.0"

end Xtql
