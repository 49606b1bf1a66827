import Xtql.Text.Similarity

/-!
The command line `xtql-json [OPTIONS] [PATH]`, read left to right. A value waits until the next
option or the end before it is checked; the first failure in that order is reported.
-/

namespace Xtql.Cli

open Xtql.Text

inductive ErrorFormat where
  | text
  | json
deriving DecidableEq, Repr

structure Config where
  path : Option String := none
  compact : Bool := false
  errorFormat : ErrorFormat := .text
  logLevel : String := "warn"
deriving DecidableEq, Repr

inductive ArgId where
  | path
  | compact
  | errorFormat
  | logLevel
  | help
  | version
deriving DecidableEq, Repr

def ArgId.display : ArgId → String
  | .path => "[PATH]"
  | .compact => "--compact"
  | .errorFormat => "--error-format <ERROR_FORMAT>"
  | .logLevel => "--log-level <LOG_LEVEL>"
  | .help => "--help"
  | .version => "--version"

def ArgId.usage : ArgId → String
  | .path => "<PATH>"
  | a => a.display

def ArgId.possibleValues : ArgId → List String
  | .errorFormat => ["text", "json"]
  | _ => []

def longOptions : List (String × ArgId) :=
  [("compact", .compact), ("error-format", .errorFormat), ("log-level", .logLevel),
   ("help", .help), ("version", .version)]

def helpText : String :=
  "Compile an XTQL query to its JSON form\n\n" ++
  "Usage: xtql-json [OPTIONS] [PATH]\n\n" ++
  "Arguments:\n" ++
  "  [PATH]  Query file (reads stdin when omitted)\n\n" ++
  "Options:\n" ++
  "      --compact                      Print single-line JSON instead of indented\n" ++
  "      --error-format <ERROR_FORMAT>  How parse errors are reported on stderr " ++
    "[default: text] [possible values: text, json]\n" ++
  "      --log-level <LOG_LEVEL>        Log level (trace, debug, info, warn, error) " ++
    "[default: warn]\n" ++
  "  -h, --help                         Print help\n" ++
  "  -V, --version                      Print version\n"

def versionText : String := "xtql-json 0.1.0\n"

/-- Whether an argument belongs to the group of the command's own arguments (all but help and
version). -/
def ArgId.inGroup : ArgId → Bool
  | .path | .compact | .errorFormat | .logLevel => true
  | .help | .version => false

def groupUsage : String :=
  "<PATH|--compact|--error-format <ERROR_FORMAT>|--log-level <LOG_LEVEL>>"

/-- The usage line: the options given so far, then the group when it counts as given (its
members are then not shown on their own), then the path (`<PATH>` once given, else
`[PATH]`); or the general form when nothing is given. -/
def usageLine (used : List ArgId) (grouped : Bool) : String :=
  if used.isEmpty && !grouped then "Usage: xtql-json [OPTIONS] [PATH]"
  else
    let opts := (used.filter fun a => a != .path && !(grouped && a.inGroup)).eraseDups
    let rest :=
      if grouped then [groupUsage]
      else if used.contains .path then [ArgId.path.usage]
      else [ArgId.path.display]
    "Usage: xtql-json" ++ String.join ((opts.map ArgId.usage ++ rest).map (" " ++ ·))

/-- A usage error as written: the message, tips, an optional usage line and the pointer to
`--help`. -/
def errorText (message : String) (tips : List String) (usage : Option String) : String :=
  "error: " ++ message ++
  (if tips.isEmpty then "" else "\n" ++ String.join (tips.map fun t => "\n  tip: " ++ t)) ++
  (match usage with
    | some u => "\n\n" ++ u
    | none => "") ++
  "\n\nFor more information, try '--help'.\n"

def unknownArgument (arg : String) (similar : Option String) (trailingTip : Bool)
    (used : List ArgId) : String :=
  errorText ("unexpected argument '" ++ arg ++ "' found")
    ((similar.map fun s => "a similar argument exists: '" ++ s ++ "'").toList ++
      (if trailingTip then ["to pass '" ++ arg ++ "' as a value, use '-- " ++ arg ++ "'"] else []))
    (some (usageLine used false))

/-- A value an argument does not accept; the empty value is a missing one. -/
def invalidValue (a : ArgId) (v : String) : String :=
  let possible := a.possibleValues
  errorText
    ((if v.isEmpty then "a value is required for '" ++ a.display ++ "' but none was supplied"
      else "invalid value '" ++ v ++ "' for '" ++ a.display ++ "'") ++
     (if possible.isEmpty then ""
      else "\n  [possible values: " ++ ", ".intercalate possible ++ "]"))
    ((mostSimilar v possible).map (fun s => "a similar value exists: '" ++ s ++ "'")).toList
    none

def givenTwice (a : ArgId) : String :=
  errorText ("the argument '" ++ a.display ++ "' cannot be used multiple times") []
    (some (usageLine [] false))

/-- A value attached to a flag that takes none; the group counts as given when one of its
members was. -/
def unneededValue (a : ArgId) (v : String) (used : List ArgId) : String :=
  errorText ("unexpected value '" ++ v ++ "' for '" ++ a.display ++
    "' found; no more were expected") []
    (some (usageLine (used ++ [a]) (used.any ArgId.inGroup)))

inductive Invocation where
  | help
  | version
  | refused (message : String)
  | run (c : Config)
deriving DecidableEq, Repr

/-- Reading a command line: the options so far, the arguments given in order, a value waiting
to be checked, whether an option waits for its value, whether the path is taken and whether
`--` was seen. -/
structure ArgState where
  config : Config := {}
  present : List ArgId := []
  pending : Option (ArgId × List String) := none
  awaiting : Bool := false
  pathTaken : Bool := false
  trailing : Bool := false

/-- Checks the value that waits, if any: the argument counts as given from then on (unless it
has no value, or was given before, which takes it out), and the first failure is returned. -/
def ArgState.settle (st : ArgState) : ArgState × Option String :=
  match st.pending with
  | none => (st, none)
  | some (a, vals) =>
    let st := { st with pending := none }
    match vals with
    | [] => (st, some (invalidValue a ""))
    | v :: _ =>
      if st.present.contains a then
        ({ st with present := st.present.filter (· != a) }, some (givenTwice a))
      else
        let st := { st with present := st.present ++ [a] }
        let c := st.config
        match a with
        | .errorFormat =>
          if v = "text" then ({ st with config := { c with errorFormat := .text } }, none)
          else if v = "json" then ({ st with config := { c with errorFormat := .json } }, none)
          else (st, some (invalidValue a v))
        | .logLevel => ({ st with config := { c with logLevel := v } }, none)
        | .path =>
          if v.isEmpty then (st, some (invalidValue a ""))
          else ({ st with config := { c with path := some v } }, none)
        | _ => (st, none)

def ArgState.settleThen (st : ArgState) (k : ArgState → Except Invocation ArgState) :
    Except Invocation ArgState :=
  match st.settle with
  | (_, some e) => .error (.refused e)
  | (st, none) => k st

/-- Reads a long option `--name` or `--name=value`. -/
def ArgState.long (st : ArgState) (body : String) : Except Invocation ArgState :=
  let (key, value) := match body.splitOn "=" with
    | k :: v :: rest => (k, some ("=".intercalate (v :: rest)))
    | _ => (body, none)
  match List.lookup key longOptions with
  | none =>
    let st := st.settle.1
    let similar := mostSimilar key (longOptions.map Prod.fst)
    let used := match similar.bind (fun s => List.lookup s longOptions) with
      | some a => if st.present.contains a then st.present else st.present ++ [a]
      | none => st.present
    .error (.refused (unknownArgument ("--" ++ key) (similar.map ("--" ++ ·)) similar.isNone used))
  | some a =>
    match a, value with
    | .errorFormat, some v | .logLevel, some v =>
      st.settleThen fun st => ({ st with pending := some (a, [v]), awaiting := false }).settleThen
        fun st => .ok st
    | .errorFormat, none | .logLevel, none =>
      st.settleThen fun st => .ok { st with pending := some (a, []), awaiting := true }
    | _, some v => .error (.refused (unneededValue a v st.present))
    | .help, none => st.settleThen fun _ => .error .help
    | .version, none => st.settleThen fun _ => .error .version
    | _, none =>
      st.settleThen fun st =>
        if st.present.contains a then .error (.refused (givenTwice a))
        else
          .ok { st with
                present := st.present ++ [a]
                awaiting := false
                config := { st.config with compact := true } }

/-- Reads short options `-hV...`: the first letter answers. -/
def ArgState.short (st : ArgState) (letters : List Char) : Except Invocation ArgState :=
  match letters with
  | 'h' :: _ => st.settleThen fun _ => .error .help
  | 'V' :: _ => st.settleThen fun _ => .error .version
  | c :: _ =>
    .error (.refused (unknownArgument ("-" ++ String.singleton c) none true []))
  | [] => .ok st

def ArgState.step (st : ArgState) (a : String) : Except Invocation ArgState :=
  if !st.trailing && a = "--" then .ok { st with trailing := true }
  else if !st.trailing && a.startsWith "--" then st.long (a.drop 2).toString
  else if !st.trailing && a.startsWith "-" && a.length > 1 then st.short (a.toList.drop 1)
  else if !st.trailing && st.awaiting then
    match st.pending with
    | some (o, vals) => .ok { st with pending := some (o, vals ++ [a]), awaiting := false }
    | none => .ok { st with awaiting := false }
  else if !st.pathTaken then
    st.settleThen fun st =>
      .ok { st with
            pending := some (.path, [a])
            pathTaken := true
            awaiting := false }
  else .error (.refused (unknownArgument a none false []))

def parseArgs (args : List String) : Invocation :=
  match args.foldlM ArgState.step {} with
  | .error i => i
  | .ok st =>
    match st.settle with
    | (_, some e) => .refused e
    | (st, none) => .run st.config

end Xtql.Cli
