import Xtql.Query.Operators
import Xtql.Edn.Reader

/-!
From forms to queries. An operator's arity is checked before its arguments are read, and a
map's keys are resolved before any of its values.
-/

namespace Xtql

open Xtql.Edn Xtql.Text

structure Fault where
  problem : Problem
  offset : Nat
deriving Repr

structure OpForm where
  name : String
  args : List Form
  span : Span

/-- Splits a list headed by a symbol into operator and arguments; `role` names what the form
stands for in messages. -/
def operatorForm (role : Role) (f : Form) :
    Except Fault {o : OpForm // sizeOf o.args < sizeOf f} :=
  match f with
  | .list [] span => .error ⟨.emptyOperatorForm role, span.start⟩
  | .list (.symbol name s :: args) span =>
    .ok ⟨⟨name, args, span⟩, by simp only [Form.list.sizeOf_spec, List.cons.sizeOf_spec]; omega⟩
  | .list (h :: _) _ => .error ⟨.operatorNotSymbol role h.sort, h.span.start⟩
  | f => .error ⟨.notOperatorForm role f.sort, f.span.start⟩

def keywordOf? : Form → Option String
  | .keyword k _ => some k
  | _ => none

/-- The name a map key stands for: a keyword, symbol or string, put into namespace `ns` unless it
names one already. -/
def keyName (ns : Option String) (key : Form) : Option String :=
  let name? : Option String := match key with
    | .keyword k _ | .symbol k _ | .str k _ => some k
    | _ => none
  name?.map fun name =>
    match ns with
    | some n => if name.contains '/' then name else n ++ "/" ++ name
    | none => name

def keyText (ns : Option String) (key : Form) : String := (keyName ns key).getD ""

/-- Resolves the keys of map entries in order, failing at the first key of the wrong kind or
given twice. -/
def resolveKeys (ns : Option String) (pairs : List (Form × Form)) : Except Fault (List String) :=
  go pairs []
where
  go : List (Form × Form) → List String → Except Fault (List String)
    | [], seen => .ok seen.reverse
    | (k, _) :: rest, seen =>
      match keyName ns k with
      | none => .error ⟨.badMapKey k.sort, k.span.start⟩
      | some name =>
        if name ∈ seen then .error ⟨.duplicateKey name, k.span.start⟩
        else go rest (name :: seen)

def arityFault (name : String) (n : Nat) (args : List Form) (span : Span) : Fault :=
  ⟨.arity name n args.length, span.start⟩

def noArgsFault (name : String) (span : Span) : Fault :=
  ⟨.arityAtLeast name 1 0, span.start⟩

def countOfForm (name : String) : Form → Except Fault Nat
  | .int n s => if 0 ≤ n then .ok n.toNat else .error ⟨.negativeCount name .integer, s.start⟩
  | f => .error ⟨.negativeCount name f.sort, f.span.start⟩

def columnsOfForms (fs : List Form) : Except Fault (List String) :=
  fs.mapM fun
    | .keyword k _ => .ok k
    | f => .error ⟨.columnNotKeyword f.sort, f.span.start⟩

mutual

def Query.ofForm (f : Form) : Except Fault Query := do
  let ⟨o, _⟩ ← operatorForm .query f
  Query.ofOperator o.name o.args o.span
termination_by 2 * sizeOf f

def Query.ofOperator (name : String) (args : List Form) (span : Span) : Except Fault Query :=
  match QueryOp.ofName? name with
  | none =>
    .error ⟨if (TailOp.ofName? name).isSome then .tailAsQuery name else .unknownQuery name,
      span.start⟩
  | some .scan => Query.scan <$> Scan.ofArgs name args span
  | some .rel => Query.rel <$> Rel.ofArgs name args span
  | some .pipeline =>
    match args with
    | [] => .error (noArgsFault name span)
    | first :: rest => do
      let head ← Query.ofForm first
      let tails ← Tail.ofForms rest
      pure (.pipeline head tails)
  | some .unify =>
    match args with
    | [] => .error (noArgsFault name span)
    | c :: cs => Query.unify <$> Clause.ofForms (c :: cs)
termination_by 2 * sizeOf args + 1

/-- A table scan from `from`'s arguments: a table keyword, then a bind vector or an options
map. -/
def Scan.ofArgs (name : String) (args : List Form) (span : Span) : Except Fault Scan :=
  match args with
  | [.keyword table _, spec] =>
    match spec with
    | .vector items _ => do
      let bind ← Binding.ofItems items
      pure (.mk table bind none none)
    | .map pairs _ => do
      let _ ← resolveKeys none pairs
      Scan.ofOptions table pairs [] none none
    | s => .error ⟨.badFromSpec s.sort, s.span.start⟩
  | [t, _] => .error ⟨.tableNotKeyword t.sort, t.span.start⟩
  | _ => .error (arityFault name 2 args span)
termination_by 2 * sizeOf args

def Scan.ofOptions (table : String) (pairs : List (Form × Form)) (bind : List Binding)
    (validTime systemTime : Option TemporalFilter) : Except Fault Scan :=
  match pairs with
  | [] => .ok (.mk table bind validTime systemTime)
  | (k, v) :: rest =>
    let key := keyText none k
    if key = "bind" then do
      let b ← Binding.ofVector v
      Scan.ofOptions table rest b validTime systemTime
    else if key = "for-valid-time" then do
      let tf ← TemporalFilter.ofForm v
      Scan.ofOptions table rest bind (some tf) systemTime
    else if key = "for-system-time" then do
      let tf ← TemporalFilter.ofForm v
      Scan.ofOptions table rest bind validTime (some tf)
    else .error ⟨.unknownFromOption key, k.span.start⟩
termination_by 2 * sizeOf pairs

def Rel.ofArgs (name : String) (args : List Form) (span : Span) : Except Fault Rel :=
  match args with
  | [rows, bind] => do
    let r ← Expr.ofForm rows
    let b ← Binding.ofVector bind
    pure (.mk r b)
  | _ => .error (arityFault name 2 args span)
termination_by 2 * sizeOf args

/-- A temporal filter: `:all-time` or a list `(at t)`, `(from t)`, `(to t)`, `(in t t)`. -/
def TemporalFilter.ofForm (f : Form) : Except Fault TemporalFilter :=
  if keywordOf? f = some "all-time" then .ok .allTime
  else if f.sort = .list then do
    let ⟨o, _⟩ ← operatorForm .temporalFilter f
    TemporalFilter.ofOperator o.name o.args o.span
  else .error ⟨.badTemporal f.sort, f.span.start⟩
termination_by 2 * sizeOf f

def TemporalFilter.ofOperator (name : String) (args : List Form) (span : Span) :
    Except Fault TemporalFilter :=
  match TemporalOp.ofName? name with
  | none => .error ⟨.unknownTemporal name, span.start⟩
  | some .asOf =>
    match args with
    | [t] => TemporalFilter.asOf <$> Expr.ofForm t
    | _ => .error (arityFault name 1 args span)
  | some .fromTime =>
    match args with
    | [t] => TemporalFilter.fromTime <$> Expr.ofForm t
    | _ => .error (arityFault name 1 args span)
  | some .toTime =>
    match args with
    | [t] => TemporalFilter.toTime <$> Expr.ofForm t
    | _ => .error (arityFault name 1 args span)
  | some .between =>
    match args with
    | [a, b] => do
      let x ← Expr.ofForm a
      let y ← Expr.ofForm b
      pure (.between x y)
    | _ => .error (arityFault name 2 args span)
termination_by 2 * sizeOf args

def Tail.ofForms (fs : List Form) : Except Fault (List Tail) :=
  match fs with
  | [] => .ok []
  | f :: rest => do
    let t ← Tail.ofForm f
    let ts ← Tail.ofForms rest
    pure (t :: ts)
termination_by 2 * sizeOf fs

def Tail.ofForm (f : Form) : Except Fault Tail := do
  let ⟨o, _⟩ ← operatorForm .tail f
  Tail.ofOperator o.name o.args o.span
termination_by 2 * sizeOf f

def Tail.ofOperator (name : String) (args : List Form) (span : Span) : Except Fault Tail :=
  match TailOp.ofName? name with
  | none =>
    .error ⟨if (ClauseOp.ofName? name).isSome then .clauseAsTail name else .unknownTail name,
      span.start⟩
  | some .filter =>
    if args.isEmpty then .error (noArgsFault name span) else Tail.filter <$> Expr.ofForms args
  | some .extend =>
    if args.isEmpty then .error (noArgsFault name span) else Tail.extend <$> Binding.ofItems args
  | some .project =>
    if args.isEmpty then .error (noArgsFault name span) else Tail.project <$> Binding.ofItems args
  | some .aggregate =>
    if args.isEmpty then .error (noArgsFault name span)
    else Tail.aggregate <$> Binding.ofItems args
  | some .drop =>
    if args.isEmpty then .error (noArgsFault name span) else Tail.drop <$> columnsOfForms args
  | some .orderBy =>
    if args.isEmpty then .error (noArgsFault name span)
    else Tail.orderBy <$> OrderSpec.ofForms args
  | some .limit =>
    match args with
    | [n] => Tail.limit <$> countOfForm name n
    | _ => .error (arityFault name 1 args span)
  | some .offset =>
    match args with
    | [n] => Tail.offset <$> countOfForm name n
    | _ => .error (arityFault name 1 args span)
  | some .unnest =>
    match args with
    | [b] => Tail.unnest <$> Binding.ofUnnest b
    | _ => .error (arityFault name 1 args span)
termination_by 2 * sizeOf args + 1

def OrderSpec.ofForms (fs : List Form) : Except Fault (List OrderSpec) :=
  match fs with
  | [] => .ok []
  | f :: rest => do
    let s ← OrderSpec.ofForm f
    let ss ← OrderSpec.ofForms rest
    pure (s :: ss)
termination_by 2 * sizeOf fs

/-- An ordering key: a map of `:val`, `:dir` and `:nulls`, or an expression alone. -/
def OrderSpec.ofForm (f : Form) : Except Fault OrderSpec :=
  match f with
  | .map pairs span => do
    let _ ← resolveKeys none pairs
    OrderSpec.ofOptions pairs span none none none
  | f => do
    let e ← Expr.ofForm f
    pure (.mk e none none)
termination_by 2 * sizeOf f + 1

/-- The options of an ordering key, in the order written; `:val` is required. -/
def OrderSpec.ofOptions (pairs : List (Form × Form)) (span : Span) (val : Option Expr)
    (dir : Option Direction) (nulls : Option NullOrder) : Except Fault OrderSpec :=
  match pairs with
  | [] =>
    match val with
    | some v => .ok (.mk v dir nulls)
    | none => .error ⟨.orderWithoutVal, span.start⟩
  | (k, v) :: rest =>
    let key := keyText none k
    if key = "val" then do
      let e ← Expr.ofForm v
      OrderSpec.ofOptions rest span (some e) dir nulls
    else if key = "dir" then
      match v with
      | .keyword "asc" _ => OrderSpec.ofOptions rest span val (some .asc) nulls
      | .keyword "desc" _ => OrderSpec.ofOptions rest span val (some .desc) nulls
      | v => .error ⟨.badDirection, v.span.start⟩
    else if key = "nulls" then
      match v with
      | .keyword "first" _ => OrderSpec.ofOptions rest span val dir (some .first)
      | .keyword "last" _ => OrderSpec.ofOptions rest span val dir (some .last)
      | v => .error ⟨.badNulls, v.span.start⟩
    else .error ⟨.unknownOrderOption key, k.span.start⟩
termination_by 2 * sizeOf pairs

/-- The binding of `unnest`: a map of exactly one `column expr` entry. -/
def Binding.ofUnnest (f : Form) : Except Fault Binding :=
  match f with
  | .map pairs span => do
    let _ ← resolveKeys none pairs
    match pairs with
    | [(k, v)] => Binding.mk (keyText none k) <$> Expr.ofForm v
    | _ => .error ⟨.badUnnest, span.start⟩
  | .nsMap ns pairs span => do
    let _ ← resolveKeys (some ns) pairs
    match pairs with
    | [(k, v)] => Binding.mk (keyText (some ns) k) <$> Expr.ofForm v
    | _ => .error ⟨.badUnnest, span.start⟩
  | f => .error ⟨.badUnnest, f.span.start⟩
termination_by 2 * sizeOf f

def Clause.ofForms (fs : List Form) : Except Fault (List Clause) :=
  match fs with
  | [] => .ok []
  | f :: rest => do
    let c ← Clause.ofForm f
    let cs ← Clause.ofForms rest
    pure (c :: cs)
termination_by 2 * sizeOf fs

def Clause.ofForm (f : Form) : Except Fault Clause := do
  let ⟨o, _⟩ ← operatorForm .clause f
  Clause.ofOperator o.name o.args o.span
termination_by 2 * sizeOf f

def Clause.ofOperator (name : String) (args : List Form) (span : Span) : Except Fault Clause :=
  match ClauseOp.ofName? name with
  | none =>
    .error ⟨if (TailOp.ofName? name).isSome then .tailInUnify name else .unknownClause name,
      span.start⟩
  | some .scan => Clause.scan <$> Scan.ofArgs name args span
  | some .rel => Clause.rel <$> Rel.ofArgs name args span
  | some .filter =>
    if args.isEmpty then .error (noArgsFault name span) else Clause.filter <$> Expr.ofForms args
  | some .extend =>
    if args.isEmpty then .error (noArgsFault name span)
    else Clause.extend <$> Binding.ofItems args
  | some .join => Clause.join <$> Join.ofArgs name args span
  | some .leftJoin => Clause.leftJoin <$> Join.ofArgs name args span
  | some .unnest =>
    match args with
    | [b] => Clause.unnest <$> Binding.ofUnnest b
    | _ => .error (arityFault name 1 args span)
termination_by 2 * sizeOf args + 1

/-- A join from its arguments: the query, then a bind vector or an options map. The query is
read first. -/
def Join.ofArgs (name : String) (args : List Form) (span : Span) : Except Fault Join :=
  match args with
  | [q, spec] => do
    let query ← Query.ofForm q
    match spec with
    | .vector items _ => do
      let bind ← Binding.ofItems items
      pure (.mk query bind none)
    | .map pairs _ => do
      let _ ← resolveKeys none pairs
      Join.ofOptions name query pairs [] none
    | s => .error ⟨.badJoinSpec name s.sort, s.span.start⟩
  | _ => .error (arityFault name 2 args span)
termination_by 2 * sizeOf args

def Join.ofOptions (name : String) (query : Query) (pairs : List (Form × Form))
    (bind : List Binding) (args : Option (List Binding)) : Except Fault Join :=
  match pairs with
  | [] => .ok (.mk query bind args)
  | (k, v) :: rest =>
    let key := keyText none k
    if key = "bind" then do
      let b ← Binding.ofVector v
      Join.ofOptions name query rest b args
    else if key = "args" then do
      let a ← Binding.ofVector v
      Join.ofOptions name query rest bind (some a)
    else .error ⟨.unknownJoinOption name key, k.span.start⟩
termination_by 2 * sizeOf pairs

def Binding.ofVector (f : Form) : Except Fault (List Binding) :=
  match f with
  | .vector items _ => Binding.ofItems items
  | f => .error ⟨.notBindVector f.sort, f.span.start⟩
termination_by 2 * sizeOf f

/-- Bindings from items: a symbol binds the column of its name, a map binds each of its
entries. -/
def Binding.ofItems (items : List Form) : Except Fault (List Binding) :=
  match items with
  | [] => .ok []
  | .symbol name _ :: rest => do
    let more ← Binding.ofItems rest
    pure (Binding.var name :: more)
  | .map pairs _ :: rest => do
    let _ ← resolveKeys none pairs
    let here ← Binding.ofEntries none pairs
    let more ← Binding.ofItems rest
    pure (here ++ more)
  | .nsMap ns pairs _ :: rest => do
    let _ ← resolveKeys (some ns) pairs
    let here ← Binding.ofEntries (some ns) pairs
    let more ← Binding.ofItems rest
    pure (here ++ more)
  | f :: _ => .error ⟨.badBinding f.sort, f.span.start⟩
termination_by 2 * sizeOf items

def Binding.ofEntries (ns : Option String) (pairs : List (Form × Form)) :
    Except Fault (List Binding) :=
  match pairs with
  | [] => .ok []
  | (k, v) :: rest => do
    let e ← Expr.ofForm v
    let more ← Binding.ofEntries ns rest
    pure (.mk (keyText ns k) e :: more)
termination_by 2 * sizeOf pairs

def Expr.ofForm (f : Form) : Except Fault Expr :=
  match f with
  | .symbol s _ => .ok (.var s)
  | .param p _ => .ok (.param p)
  | .keyword k _ => .ok (.keyword k)
  | .str s _ => .ok (.str s)
  | .int n _ => .ok (.int n)
  | .float x _ => .ok (.float x)
  | .bool b _ => .ok (.bool b)
  | .nil _ => .ok .nil
  | .vector items _ => Expr.vector <$> Expr.ofForms items
  | .set items _ => Expr.set <$> Expr.ofForms items
  | .map pairs _ => do
    let _ ← resolveKeys none pairs
    Expr.map <$> Expr.ofEntries none pairs
  | .nsMap ns pairs _ => do
    let _ ← resolveKeys (some ns) pairs
    Expr.map <$> Expr.ofEntries (some ns) pairs
  | .tagged tag v _ => Expr.tagged tag <$> Expr.ofForm v
  | .list items span => Expr.ofCall items span
termination_by 2 * sizeOf f

def Expr.ofForms (fs : List Form) : Except Fault (List Expr) :=
  match fs with
  | [] => .ok []
  | f :: rest => do
    let e ← Expr.ofForm f
    let es ← Expr.ofForms rest
    pure (e :: es)
termination_by 2 * sizeOf fs

def Expr.ofEntries (ns : Option String) (pairs : List (Form × Form)) :
    Except Fault (List (String × Expr)) :=
  match pairs with
  | [] => .ok []
  | (k, v) :: rest => do
    let e ← Expr.ofForm v
    let more ← Expr.ofEntries ns rest
    pure ((keyText ns k, e) :: more)
termination_by 2 * sizeOf pairs

/-- A call from the items of a list: a function symbol and its arguments, or a subquery
operator with a query and an optional options map. -/
def Expr.ofCall (items : List Form) (span : Span) : Except Fault Expr :=
  match items with
  | [] => .error ⟨.emptyCall, span.start⟩
  | .symbol function _ :: rest =>
    match SubqueryOp.ofName? function with
    | none => Expr.call function <$> Expr.ofForms rest
    | some op =>
      match rest with
      | [q] => do
        let query ← Query.ofForm q
        pure (.subquery op query none)
      | [q, opts] => do
        let query ← Query.ofForm q
        match opts with
        | .map pairs _ => do
          let _ ← resolveKeys none pairs
          let args ← Expr.subqueryArgs function pairs none
          pure (.subquery op query args)
        | o => .error ⟨.subqueryOptionsNotMap function, o.span.start⟩
      | _ => .error ⟨.subqueryArity function, span.start⟩
  | h :: _ => .error ⟨.callHeadNotSymbol h.sort, h.span.start⟩
termination_by 2 * sizeOf items

def Expr.subqueryArgs (function : String) (pairs : List (Form × Form))
    (args : Option (List Binding)) : Except Fault (Option (List Binding)) :=
  match pairs with
  | [] => .ok args
  | (k, v) :: rest =>
    let key := keyText none k
    if key = "args" then do
      let a ← Binding.ofVector v
      Expr.subqueryArgs function rest (some a)
    else .error ⟨.unknownSubqueryOption function key, k.span.start⟩
termination_by 2 * sizeOf pairs

end

def Query.parse (input : String) (maxDepth : Nat) : Except ParseError Query :=
  match Edn.read input maxDepth with
  | .error e => .error e
  | .ok form =>
    match Query.ofForm form with
    | .ok q => .ok q
    | .error f => .error ⟨f.problem, Position.ofOffset input f.offset⟩

end Xtql
