import Xtql.Text.Quoted

/-!
Log events and the lines they are written as: level, target, message and fields, with the
controls that could steer a terminal escaped.
-/

namespace Xtql

inductive Level where
  | error
  | warn
  | info
  | debug
  | trace
deriving DecidableEq, Repr

def Level.rank : Level → Nat
  | .error => 1
  | .warn => 2
  | .info => 3
  | .debug => 4
  | .trace => 5

/-- The level as a log line shows it, right-aligned in five columns. -/
def Level.label : Level → String
  | .error => "ERROR"
  | .warn => " WARN"
  | .info => " INFO"
  | .debug => "DEBUG"
  | .trace => "TRACE"

/-- An event to be logged: where it comes from, its level, its message, and its fields as
names with their written values, in the order they are written. -/
structure LogEvent where
  target : String
  level : Level
  message : String
  fields : List (String × String)
deriving DecidableEq, Repr

def LogEvent.fieldNames (e : LogEvent) : List String :=
  "message" :: e.fields.map (·.1)

/-- The control characters a log line escapes: escape, bell, back space, form feed, delete,
and the C1 controls U+0080 to U+009F. -/
def escapedControl (c : Char) : Option String :=
  if c == '\x1b' then some "\\x1b"
  else if c == '\x07' then some "\\x07"
  else if c == '\x08' then some "\\x08"
  else if c == '\x0c' then some "\\x0c"
  else if c == '\x7f' then some "\\x7f"
  else if 0x80 ≤ c.toNat && c.toNat ≤ 0x9f then some ("\\u\x7b" ++ Text.hexLower c.toNat ++ "\x7d")
  else none

def escapeControls (s : String) : String :=
  String.join (s.toList.map fun c => (escapedControl c).getD (String.singleton c))

def italic (s : String) : String := "\x1b[3m" ++ s ++ "\x1b[0m"

def dimmed (s : String) : String := "\x1b[2m" ++ s ++ "\x1b[0m"

def LogEvent.body (e : LogEvent) : String :=
  escapeControls e.message ++ String.join (e.fields.map fun (name, value) =>
    " " ++ italic name ++ dimmed "=" ++ escapeControls value)

/-- The event as a log line written at the given time, without its final line break. -/
def LogEvent.line (e : LogEvent) (stamp : String) : String :=
  dimmed stamp ++ " " ++ e.level.label ++ " " ++ e.target ++ dimmed ":" ++ " " ++ e.body

def compilerTarget : String := "xtql_parser::compiler"

def loggingTarget : String := "xtql_parser::logging"

def commandTarget : String := "xtql_json"

end Xtql
