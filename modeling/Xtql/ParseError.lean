import Xtql.Edn.Form
import Xtql.Edn.Token
import Xtql.Text.Position

/-!
Why text fails to read as a query: a `Problem` with its kind and message, at a position.
-/

namespace Xtql

open Xtql.Edn Xtql.Text

inductive ErrorKind where
  /-- a malformed token: bad number, bad escape, unterminated string, stray character -/
  | lexical
  /-- a closer that matches no opener, or has nothing to close -/
  | unbalancedDelimiter
  /-- the text ends inside a form -/
  | unexpectedEof
  /-- no form at all -/
  | emptyQuery
  /-- more than one form -/
  | trailingInput
  /-- collections nested deeper than the limit -/
  | nestingTooDeep
  /-- a well-formed form that is no query, tail or clause -/
  | invalidQuery
  /-- a well-formed form that is no expression or binding -/
  | invalidExpression
deriving DecidableEq, Repr

namespace ErrorKind

/-- The name of a kind in machine-readable reports. -/
def name : ErrorKind → String
  | lexical => "lexical"
  | unbalancedDelimiter => "unbalanced_delimiter"
  | unexpectedEof => "unexpected_eof"
  | emptyQuery => "empty_query"
  | trailingInput => "trailing_input"
  | nestingTooDeep => "nesting_too_deep"
  | invalidQuery => "invalid_query"
  | invalidExpression => "invalid_expression"

/-- The words for a kind in diagnostics. -/
def describe : ErrorKind → String
  | lexical => "lexical error"
  | unbalancedDelimiter => "unbalanced delimiter"
  | unexpectedEof => "unexpected end of input"
  | emptyQuery => "empty query"
  | trailingInput => "trailing input"
  | nestingTooDeep => "nesting too deep"
  | invalidQuery => "invalid query"
  | invalidExpression => "invalid expression"

end ErrorKind

inductive EscapeProblem where
  /-- `\u` not followed by four hex digits; holds what followed, up to four characters -/
  | badUnicode (taken : List Char)
  /-- a surrogate half without its partner -/
  | unpairedSurrogate (code : Nat)
  /-- a backslash before a character that no escape starts with -/
  | badEscape (c : Char)
  /-- a backslash at the very end -/
  | dangling
deriving DecidableEq, Repr

def hex4Upper (n : Nat) : String :=
  let ds := Nat.toDigits 16 n |>.map Char.toUpper
  String.ofList (List.replicate (4 - ds.length) '0' ++ ds)

def EscapeProblem.message : EscapeProblem → String
  | .badUnicode taken => "invalid unicode escape '\\u" ++ String.ofList taken ++ "'"
  | .unpairedSurrogate code => "unpaired surrogate '\\u" ++ hex4Upper code ++ "'"
  | .badEscape c => "invalid escape '\\" ++ String.singleton c ++ "'"
  | .dangling => "dangling escape at end of string"

/-- What kind of form a query position wants: its words in messages. -/
inductive Role where
  | query
  | temporalFilter
  | tail
  | clause
deriving DecidableEq, Repr

def Role.describe : Role → String
  | .query => "query"
  | .temporalFilter => "temporal filter"
  | .tail => "pipeline tail"
  | .clause => "unify clause"

inductive Problem where
  -- reading forms
  | emptyQuery
  | trailing (next : TokenKind)
  | discardAtEnd
  | discardBeforeCloser (closer : TokenKind)
  | tagWithoutValue (tag : String)
  | tooDeep (limit : Nat)
  | unclosed (opener : TokenKind) (openedAt : Position)
  | mismatched (expected opener found : TokenKind) (openedAt : Position)
  | nothingToClose (closer : TokenKind)
  | escape (e : EscapeProblem)
  | integerOutOfRange (text : String)
  | floatOutOfRange (text : String)
  | unterminatedString
  | strayDiscard
  | invalidNumber (text : String)
  | unexpectedText (text : String)
  | unexpectedEnd
  | oddMap
  -- shapes of queries
  | notOperatorForm (role : Role) (found : FormSort)
  | emptyOperatorForm (role : Role)
  | operatorNotSymbol (role : Role) (found : FormSort)
  | arity (op : String) (expected found : Nat)
  | arityAtLeast (op : String) (least found : Nat)
  | tailAsQuery (op : String)
  | unknownQuery (op : String)
  | tableNotKeyword (found : FormSort)
  | unknownFromOption (key : String)
  | badFromSpec (found : FormSort)
  | badTemporal (found : FormSort)
  | unknownTemporal (op : String)
  | clauseAsTail (op : String)
  | unknownTail (op : String)
  | columnNotKeyword (found : FormSort)
  | negativeCount (op : String) (found : FormSort)
  | badDirection
  | badNulls
  | unknownOrderOption (key : String)
  | orderWithoutVal
  | badUnnest
  | tailInUnify (op : String)
  | unknownClause (op : String)
  | unknownJoinOption (op key : String)
  | badJoinSpec (op : String) (found : FormSort)
  -- shapes of expressions and bindings
  | notBindVector (found : FormSort)
  | badBinding (found : FormSort)
  | badMapKey (found : FormSort)
  | duplicateKey (key : String)
  | emptyCall
  | callHeadNotSymbol (found : FormSort)
  | subqueryArity (op : String)
  | subqueryOptionsNotMap (op : String)
  | unknownSubqueryOption (op key : String)
deriving Repr

namespace Problem

def kind : Problem → ErrorKind
  | emptyQuery => .emptyQuery
  | trailing _ => .trailingInput
  | discardAtEnd | tagWithoutValue _ | unclosed .. | unexpectedEnd => .unexpectedEof
  | discardBeforeCloser _ | oddMap => .invalidExpression
  | tooDeep _ => .nestingTooDeep
  | mismatched .. | nothingToClose _ => .unbalancedDelimiter
  | escape _ | integerOutOfRange _ | floatOutOfRange _ | unterminatedString | strayDiscard
  | invalidNumber _ | unexpectedText _ => .lexical
  | notBindVector _ | badBinding _ | badMapKey _ | duplicateKey _ | emptyCall
  | callHeadNotSymbol _ | subqueryArity _ | subqueryOptionsNotMap _
  | unknownSubqueryOption .. => .invalidExpression
  | _ => .invalidQuery

def plural (n : Nat) : String := if n = 1 then "" else "s"

def message : Problem → String
  | emptyQuery => "empty query"
  | trailing next =>
    "unexpected " ++ next.describe ++ " after the query; expected a single top-level form"
  | discardAtEnd => "#_ requires a form to discard"
  | discardBeforeCloser closer => "#_ requires a form to discard, found " ++ closer.describe
  | tagWithoutValue tag => "tag #" ++ tag ++ " requires a value"
  | tooDeep limit => s!"forms nested deeper than {limit} levels"
  | unclosed opener openedAt => "unclosed " ++ opener.describe ++ " opened at " ++ openedAt.render
  | mismatched expected opener found openedAt =>
    "expected " ++ expected.describe ++ " to close " ++ opener.describe ++ " opened at " ++
      openedAt.render ++ ", found " ++ found.describe
  | nothingToClose closer => "unexpected " ++ closer.describe ++ " with nothing to close"
  | escape e => e.message
  | integerOutOfRange text => "integer literal '" ++ text ++ "' is out of range"
  | floatOutOfRange text => "float literal '" ++ text ++ "' is out of range"
  | unterminatedString => "unterminated string"
  | strayDiscard => "unexpected '#_'"
  | invalidNumber text => "invalid number '" ++ text ++ "'"
  | unexpectedText text => "unexpected '" ++ text ++ "'"
  | unexpectedEnd => "unexpected end of input"
  | oddMap => "map literal requires an even number of forms"
  | notOperatorForm role found =>
    "expected a " ++ role.describe ++ " form, found " ++ found.describe
  | emptyOperatorForm role => "empty list where a " ++ role.describe ++ " was expected"
  | operatorNotSymbol role found =>
    role.describe ++ " operator must be a symbol, found " ++ found.describe
  | arity op expected found =>
    "'" ++ op ++ "' expects " ++ toString expected ++ " argument" ++ plural expected ++
      ", found " ++ toString found
  | arityAtLeast op least found =>
    "'" ++ op ++ "' expects at least " ++ toString least ++ " argument" ++ plural least ++
      ", found " ++ toString found
  | tailAsQuery op => "'" ++ op ++ "' is a pipeline tail, not a query; use it inside (-> query ...)"
  | unknownQuery op => "unknown query operator '" ++ op ++ "'; expected from, ->, unify or rel"
  | tableNotKeyword found => "table must be a keyword like :users, found " ++ found.describe
  | unknownFromOption key =>
    "unknown from option ':" ++ key ++ "'; expected :bind, :for-valid-time or :for-system-time"
  | badFromSpec found =>
    "expected a bind vector or options map after the table, found " ++ found.describe
  | badTemporal found =>
    "expected a temporal filter like (at t), (in from to) or :all-time, found " ++ found.describe
  | unknownTemporal op =>
    "unknown temporal filter '" ++ op ++ "'; expected at, from, to or in"
  | clauseAsTail op => "'" ++ op ++ "' is only valid inside unify"
  | unknownTail op => "unknown pipeline tail '" ++ op ++ "'"
  | columnNotKeyword found => "without expects column keywords, found " ++ found.describe
  | negativeCount op found => "'" ++ op ++ "' expects a non-negative integer, found " ++ found.describe
  | badDirection => "order-by :dir must be :asc or :desc"
  | badNulls => "order-by :nulls must be :first or :last"
  | unknownOrderOption key =>
    "unknown order-by option ':" ++ key ++ "'; expected :val, :dir or :nulls"
  | orderWithoutVal => "order-by map requires :val"
  | badUnnest => "unnest expects a map with a single \x7bcolumn expr\x7d entry"
  | tailInUnify op => "'" ++ op ++ "' is a pipeline tail and can't be used inside unify"
  | unknownClause op => "unknown unify clause '" ++ op ++ "'"
  | unknownJoinOption op key => "unknown " ++ op ++ " option ':" ++ key ++ "'; expected :bind or :args"
  | badJoinSpec op found => "'" ++ op ++ "' expects a bind vector or options map, found " ++ found.describe
  | notBindVector found => "expected a vector of bindings, found " ++ found.describe
  | badBinding found => "expected a symbol or map binding, found " ++ found.describe
  | badMapKey found => "map keys must be keywords, symbols or strings, found " ++ found.describe
  | duplicateKey key => "duplicate key '" ++ key ++ "' in map"
  | emptyCall => "empty list is not a valid expression"
  | callHeadNotSymbol found => "call head must be a symbol, found " ++ found.describe
  | subqueryArity op => "'" ++ op ++ "' expects a query and an optional options map"
  | subqueryOptionsNotMap op => "'" ++ op ++ "' options must be a map"
  | unknownSubqueryOption op key => "unknown " ++ op ++ " option ':" ++ key ++ "'; expected :args"

end Problem

/-- A failure to read or parse: a cause at a position. -/
structure ParseError where
  problem : Problem
  position : Position
deriving Repr

namespace ParseError

def kind (e : ParseError) : ErrorKind := e.problem.kind

def message (e : ParseError) : String := e.problem.message

/-- The message followed by `at line:column`. -/
def render (e : ParseError) : String := e.message ++ " at " ++ e.position.render

end ParseError

end Xtql
