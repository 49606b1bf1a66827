import Xtql.Cli.Args
import Xtql.Cli.LogFilter
import Xtql.Compile

/-!
A run of the command line: arguments, log filter, input, then the compiled document or a
diagnostic, with exit code 1 for a parse error and 2 for every other failure.
-/

namespace Xtql.Cli

inductive IoError where
  | notFound
  | isDirectory
  | notDirectory
  | nameTooLong
  | inputOutput
  | other (description : String)
deriving DecidableEq, Repr

def IoError.message : IoError → String
  | .notFound => "No such file or directory (os error 2)"
  | .isDirectory => "Is a directory (os error 21)"
  | .notDirectory => "Not a directory (os error 20)"
  | .nameTooLong => "File name too long (os error 36)"
  | .inputOutput => "Input/output error (os error 5)"
  | .other d => d

inductive ErrorLine where
  | log (e : LogEvent)
  | text (s : String)
deriving DecidableEq, Repr

/-- How a run ends: its exit code and what it wrote. -/
structure Outcome where
  exitCode : Nat
  stdout : String
  stderr : List ErrorLine
deriving DecidableEq, Repr

/-- A run whose arguments are read, waiting for its input. -/
structure Session where
  config : Config
  filter : LogFilter
  stderr : List ErrorLine

def logged (f : LogFilter) (events : List LogEvent) : List ErrorLine :=
  (events.filter f.keeps).map ErrorLine.log

/-- Starts a run from its arguments and the environment's filter: either it ends at once (help,
version, a usage error) or it waits for its input. -/
def start (args : List String) (environment : Option String) : Except Outcome Session :=
  match parseArgs args with
  | .help => .error ⟨0, helpText, []⟩
  | .version => .error ⟨0, versionText, []⟩
  | .refused m => .error ⟨2, "", [.text m]⟩
  | .run c =>
    let (filter, notices) := LogFilter.choose environment c.logLevel
    .ok ⟨c, filter, notices.map (fun n => .text (n ++ "\n")) ++
      logged filter
        [⟨loggingTarget, .debug, "xtql logging initialized", [("version", Text.quotedText "0.1.0")]⟩]⟩

def Session.source (s : Session) : String := s.config.path.getD "<stdin>"

def Session.report (s : Session) (e : ParseError) : String :=
  match s.config.errorFormat with
  | .text =>
    s.source ++ ":" ++ toString e.position.line ++ ":" ++ toString e.position.column ++ ": " ++
      e.kind.describe ++ ": " ++ e.message
  | .json =>
    (Json.object [("source", .str s.source),
      ("error", Json.object [("kind", .str e.kind.name), ("message", .str e.message),
        ("position", Json.object [("offset", .num (.int e.position.offset)),
          ("line", .num (.int e.position.line)),
          ("column", .num (.int e.position.column))])])]).compact

/-- Finishes a run with its input, or the failure to read it. -/
def Session.finish (s : Session) (input : Except IoError (List UInt8)) : Outcome :=
  match input with
  | .error e => ⟨2, "", s.stderr ++ [.text ("xtql-json: " ++ e.message ++ "\n")]⟩
  | .ok bytes =>
    let read := logged s.filter
      [⟨commandTarget, .debug, "read query",
        [("source", s.source), ("bytes", toString bytes.length)]⟩]
    let (events, result) := compileBytesTraced bytes {}
    let before := s.stderr ++ read ++ logged s.filter events
    match result with
    | .ok doc =>
      ⟨0, (if s.config.compact then doc.compact else doc.pretty) ++ "\n",
        before ++ logged s.filter [⟨commandTarget, .info, "compiled", [("source", s.source)]⟩]⟩
    | .error (.parse e) => ⟨1, "", before ++ [.text (s.report e ++ "\n")]⟩
    | .error e => ⟨2, "", before ++ [.text ("xtql-json: " ++ e.message ++ "\n")]⟩

end Xtql.Cli
