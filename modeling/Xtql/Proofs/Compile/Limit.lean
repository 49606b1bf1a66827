import Xtql.Compile
import Xtql.Proofs.Edn.Nesting
import Xtql.Proofs.Query.Faults

/-!
The nesting limit of reading and of compiling is exact: larger limits change nothing but
failures for depth, which stop at the first opener standing at the limit.
-/

namespace Xtql

open Xtql.Edn Xtql.Text

/-- The nesting limit `d` of `run` over the text `s` is exact, compared with the larger limit
`d'`. Levels are those of `Opening.walk` over the tokens of `s`. -/
structure LimitExact {α : Type} (s : String) (run : Nat → Except ParseError α) (d d' : Nat) :
    Prop where
  /-- What does not fail for depth under `d` gives the same under `d'`. -/
  raise : (∀ e, run d = .error e → e.kind ≠ .nestingTooDeep) → run d' = run d
  /-- What succeeds under `d` has every opener and tag of the text below `d`. -/
  below : ∀ x, run d = .ok x → ∀ i t, (tokenize s)[i]? = some t →
    (t.kind.isOpen = true ∨ t.kind = .tag) → levelAt (tokenize s) i < d
  /-- What fails for depth under `d` fails at an opener or tag at level `d`, every opener and
  tag before it standing below. -/
  stop : ∀ e, run d = .error e → e.kind = .nestingTooDeep →
    ∃ i t, (tokenize s)[i]? = some t ∧ (t.kind.isOpen = true ∨ t.kind = .tag) ∧
      e = ⟨.tooDeep d, Position.ofOffset s t.offset⟩ ∧ levelAt (tokenize s) i = d ∧
      ∀ j u, j < i → (tokenize s)[j]? = some u → (u.kind.isOpen = true ∨ u.kind = .tag) →
        levelAt (tokenize s) j < d

theorem Edn.read_limitExact {s : String} {d d' : Nat} (hle : d ≤ d') :
    LimitExact s (Edn.read s) d d' :=
  ⟨read_raise hle, fun _ h => read_below h, fun _ h hk => read_stopsAtLimit h hk⟩

theorem LimitExact.bind {α β : Type} {s : String} {run : Nat → Except ParseError α} {d d' : Nat}
    (h : LimitExact s run d d') (k : α → Except ParseError β)
    (hk : ∀ a e, run d = .ok a → k a = .error e → e.kind ≠ .nestingTooDeep) :
    LimitExact s (fun n => run n >>= k) d d' where
  raise hd := by
    have hrun : run d' = run d := h.raise fun e he => hd e (by simp only [he]; rfl)
    simp only [hrun]
  below x hx := by
    cases hr : run d with
    | error e => simp only [hr] at hx; cases hx
    | ok a => exact h.below a hr
  stop e he hkd := by
    cases hr : run d with
    | error e' =>
      rw [hr] at he
      obtain rfl : e' = e := Except.error.inj he
      exact h.stop _ hr hkd
    | ok a =>
      simp only [hr] at he
      exact absurd hkd (hk a e hr he)

theorem ErrorKind.ne_nestingTooDeep_of_parsing {k : ErrorKind} (h : k.parsing = true) :
    k ≠ .nestingTooDeep := by
  rintro rfl
  cases h

theorem Query.parse_eq_bind (s : String) (n : Nat) :
    Query.parse s n = Edn.read s n >>= fun f =>
      match Query.ofForm f with
      | .ok q => .ok q
      | .error flt => .error ⟨flt.problem, Position.ofOffset s flt.offset⟩ := by
  unfold Query.parse
  cases Edn.read s n <;> rfl

theorem compileWith_eq_bind (s : String) (o : CompileOptions) :
    compileWith s o = Query.parse s o.maxDepth >>= fun q => .ok q.toJson := by
  unfold compileWith compileTraced
  cases Query.parse s o.maxDepth <;> rfl

theorem Query.parse_limitExact {s : String} {d d' : Nat} (hle : d ≤ d') :
    LimitExact s (Query.parse s) d d' := by
  have hp : Query.parse s = _ := funext (Query.parse_eq_bind s)
  rw [hp]
  refine (Edn.read_limitExact hle).bind _ fun f e hr he => ?_
  -- the parser stage fails only with a fault of its own kinds
  have hpe : Query.parse s d = .error e := by rw [Query.parse_eq_bind, hr]; exact he
  rcases Query.parse_error hpe with hr' | hk
  · rw [hr] at hr'
    cases hr'
  · exact ErrorKind.ne_nestingTooDeep_of_parsing hk

/-- The nesting limit is exact and monotone, for reading and for compiling. For limits
`d ≤ d'`: a run under `d` that does not fail for depth gives the same result under `d'`; a run
that succeeds has every opener and tag of the text, discarded forms included, at a level below
`d`; and a run that fails for depth reports the limit at the offset of an opener or tag at level
exactly `d`, every opener and tag before it standing below `d`. Compiling takes its limit from
the options, and its parser stage does not depend on it. -/
theorem nesting_limit_exact (s : String) (d d' : Nat) (hle : d ≤ d') (o : CompileOptions) :
    LimitExact s (Edn.read s) d d' ∧
      LimitExact s (fun n => compileWith s { o with maxDepth := n }) d d' := by
  refine ⟨Edn.read_limitExact hle, ?_⟩
  have hc : (fun n => compileWith s { o with maxDepth := n }) =
      fun n => Query.parse s n >>= fun q => .ok q.toJson :=
    funext fun n => compileWith_eq_bind s _
  rw [hc]
  -- rendering cannot fail
  exact (Query.parse_limitExact hle).bind _ fun _ _ _ he => by cases he

/-- Two vectors nested in a third, under limits 2 and 3. -/
theorem nesting_limit_exact_nested_vectors :
    2 ≤ 3 ∧ LimitExact "[[[1]]]" (Edn.read "[[[1]]]") 2 3 ∧
      LimitExact "[[[1]]]" (fun n => compileWith "[[[1]]]" { maxDepth := n }) 2 3 :=
  ⟨by decide, nesting_limit_exact "[[[1]]]" 2 3 (by decide) {}⟩

end Xtql
