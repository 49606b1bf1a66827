/-!
Tokens of EDN text: a kind, the payload text and the byte range it covers.
-/

namespace Xtql.Edn

inductive TokenKind where
  | lparen
  | rparen
  | lbracket
  | rbracket
  | lbrace
  | rbrace
  | setOpen
  | nsMapOpen
  | tag
  | discard
  | symbol
  | keyword
  | param
  | string
  | integer
  | float
  | trueLit
  | falseLit
  | nilLit
  | unterminatedString
  | eof
  | unknown
deriving DecidableEq, Repr, Inhabited

namespace TokenKind

def describe : TokenKind → String
  | lparen => "'('"
  | rparen => "')'"
  | lbracket => "'['"
  | rbracket => "']'"
  | lbrace => "'\x7b'"
  | rbrace => "'\x7d'"
  | setOpen => "'#\x7b'"
  | nsMapOpen => "namespaced map"
  | tag => "tag"
  | discard => "'#_'"
  | symbol => "symbol"
  | keyword => "keyword"
  | param => "parameter"
  | string => "string"
  | integer => "integer"
  | float => "float"
  | trueLit => "boolean"
  | falseLit => "boolean"
  | nilLit => "nil"
  | unterminatedString => "unterminated string"
  | eof => "end of input"
  | unknown => "unknown token"

def isOpen : TokenKind → Bool
  | lparen | lbracket | lbrace | setOpen | nsMapOpen => true
  | _ => false

def isClose : TokenKind → Bool
  | rparen | rbracket | rbrace => true
  | _ => false

def isAtom : TokenKind → Bool
  | symbol | keyword | param | string | integer | float | trueLit | falseLit | nilLit => true
  | _ => false

def closer : TokenKind → Option TokenKind
  | lparen => some rparen
  | lbracket => some rbracket
  | lbrace | setOpen | nsMapOpen => some rbrace
  | _ => none

theorem isClose_of_closer {k c : TokenKind} (h : k.closer = some c) : c.isClose = true := by
  cases k <;> simp [closer] at h <;> subst h <;> rfl

end TokenKind

/-- A token: its kind, its text and the byte range `[offset, stop)` it covers. -/
structure Token where
  kind : TokenKind
  text : String
  offset : Nat
  stop : Nat
deriving DecidableEq, Repr, Inhabited

namespace Token

def length (t : Token) : Nat := t.stop - t.offset

/-- The token as written, with its sigil or quotes restored. -/
def display (t : Token) : String :=
  match t.kind with
  | .keyword => ":" ++ t.text
  | .param => "$" ++ t.text
  | .tag => "#" ++ t.text
  | .nsMapOpen => "#:" ++ t.text ++ "\x7b"
  | .string | .unterminatedString => "\"" ++ t.text ++ "\""
  | _ => t.text

end Token

end Xtql.Edn
