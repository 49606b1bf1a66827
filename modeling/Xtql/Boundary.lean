import Xtql.Compile

/-!
The C entry points. A query arrives as a C string, a null pointer or the bytes up to the first
NUL; every string a result carries is a buffer of its own, and a message holding a NUL is
replaced by a fixed text.
-/

namespace Xtql

/-- The outcome class of a compile at the C boundary. -/
inductive Status where
  | ok
  | parseError
  | invalidInput
  | internalError
deriving DecidableEq, Repr

def Status.code : Status → Nat
  | .ok => 0
  | .parseError => 1
  | .invalidInput => 2
  | .internalError => 3

inductive InputError where
  | null
  | invalidUtf8 (validUpTo : Nat)
deriving DecidableEq, Repr

def InputError.message : InputError → String
  | .null => "null query pointer"
  | .invalidUtf8 n => "invalid UTF-8 in query at byte " ++ toString n

/-- The bytes of a C string: none for a null pointer, else the bytes before the first NUL. -/
def cStringBytes (p : Option (List UInt8)) : Option (List UInt8) :=
  p.map (List.takeWhile (· != 0))

def cStringText (p : Option (List UInt8)) : Except InputError String :=
  match cStringBytes p with
  | none => .error .null
  | some bs =>
    match Xtql.Text.decodeUtf8 bs with
    | .ok s => .ok s
    | .error n => .error (.invalidUtf8 n)

structure CompileResult where
  status : Status
  json : Option String
  errorMsg : Option String
  errorOffset : Nat
  errorLine : Nat
  errorColumn : Nat
deriving DecidableEq, Repr

/-- A string moved into a C buffer: none when the string holds a NUL, which a C string cannot. -/
def ownedCString (s : String) : Option String := if s.contains '\x00' then none else some s

def messageFallback : String := "xtql compile error"

/-- A message moved into a C buffer, the fallback text in its place when it holds a NUL; none
only when the fallback holds one too. -/
def ownedCStringOrFallback (m fallback : String) : Option String :=
  (ownedCString m).or (ownedCString fallback)

def CompileResult.success (json : String) : CompileResult := ⟨.ok, some json, none, 0, 0, 0⟩

def CompileResult.failure (status : Status) (m : String) : CompileResult :=
  ⟨status, none, ownedCStringOrFallback m messageFallback, 0, 0, 0⟩

def CompileResult.withPosition (r : CompileResult) (pos : Text.Position) : CompileResult :=
  { r with errorOffset := pos.offset, errorLine := pos.line, errorColumn := pos.column }

inductive BoundaryError where
  | input (e : InputError)
  | compile (e : CompileError)

def BoundaryError.status : BoundaryError → Status
  | .input _ => .invalidInput
  | .compile (.parse _) => .parseError
  | .compile (.invalidUtf8 _) | .compile (.tooLarge _ _) => .invalidInput

def BoundaryError.message : BoundaryError → String
  | .input e => e.message
  | .compile e => e.message

/-- The result a boundary error is reported as: a parse error with its bare message and its
place, any other with its text at no place. -/
def BoundaryError.toResult (e : BoundaryError) : CompileResult :=
  match e with
  | .compile (.parse pe) => (CompileResult.failure e.status pe.message).withPosition pe.position
  | _ => CompileResult.failure e.status e.message

/-- Reads a C string and compiles it under the default limits to compact JSON text. -/
def compileInput (p : Option (List UInt8)) : Except BoundaryError String :=
  match cStringBytes p with
  | none => .error (.input .null)
  | some bs =>
    match compileBytes bs {} with
    | .ok j => .ok j.compact
    | .error e => .error (.compile e)

/-- Compiles a C string under the default limits. JSON that cannot be a C string is reported as
an internal error. -/
def compileCString (p : Option (List UInt8)) : CompileResult :=
  match compileInput p with
  | .ok json =>
    match ownedCString json with
    | some buf => .success buf
    | none => .failure .internalError "compiled JSON contains a NUL byte"
  | .error e => e.toResult

def compileCStringToJson (p : Option (List UInt8)) : Option String :=
  match compileInput p with
  | .ok json => ownedCString json
  | .error _ => none

def CompileResult.buffers (r : CompileResult) : Nat :=
  (if r.json.isSome then 1 else 0) + (if r.errorMsg.isSome then 1 else 0)

end Xtql
