import Xtql.Cli.Run

/-!
The `xtql-json` executable: reads its arguments, the `RUST_LOG` filter and its input, and
writes what the run gives.
-/

namespace Xtql.Cli

def ioProblem (e : IO.Error) : IoError :=
  match e with
  | .noFileOrDirectory .. => .notFound
  | .inappropriateType _ 21 _ => .isDirectory
  | .inappropriateType _ 20 _ => .notDirectory
  | .otherError 21 _ => .isDirectory
  | .otherError 20 _ => .notDirectory
  | .invalidArgument _ 36 _ => .nameTooLong
  | .otherError 36 _ => .nameTooLong
  | .hardwareFault 5 _ => .inputOutput
  | .otherError 5 _ => .inputOutput
  | e => .other (toString e)

partial def readAll (s : IO.FS.Stream) (acc : ByteArray) : IO ByteArray := do
  let chunk ← s.read 65536
  if chunk.isEmpty then return acc else readAll s (acc ++ chunk)

/-- Reads the query from the path, or from standard input. -/
def readInput (path : Option String) : IO (Except IoError (List UInt8)) := do
  try
    match path with
    | some p => return .ok (← IO.FS.readBinFile p).toList
    | none => return .ok (← readAll (← IO.getStdin) ByteArray.empty).toList
  catch e => return .error (ioProblem e)

def writeErrorLine (err : IO.FS.Stream) : ErrorLine → IO Unit
  | .text s => err.putStr s
  | .log e => err.putStr (e.line "" ++ "\n")

/-- Writes what a run gives and returns its exit code. -/
def emit (o : Outcome) : IO UInt32 := do
  let out ← IO.getStdout
  let err ← IO.getStderr
  out.putStr o.stdout
  out.flush
  o.stderr.forM (writeErrorLine err)
  err.flush
  return o.exitCode.toUInt32

end Xtql.Cli

def main (args : List String) : IO UInt32 := do
  match Xtql.Cli.start args (← IO.getEnv "RUST_LOG") with
  | .error o => Xtql.Cli.emit o
  | .ok s => Xtql.Cli.emit (s.finish (← Xtql.Cli.readInput s.config.path))
