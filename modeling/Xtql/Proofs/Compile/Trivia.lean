import Xtql.Compile
import Xtql.Proofs.Edn.Discards
import Xtql.Proofs.Edn.ReadShapes
import Xtql.Proofs.Query.Spans

/-!
Compilation does not see blanks, comments or discarded forms that read where they stand.
-/

namespace Xtql

open Xtql.Edn

theorem Query.parse_eq_ok_iff {s : String} {d : Nat} {q : Query} :
    Query.parse s d = .ok q ↔ ∃ f, read s d = .ok f ∧ Query.ofForm f = .ok q := by
  unfold Query.parse
  cases hr : read s d with
  | error e => simp
  | ok f =>
    cases hq : Query.ofForm f with
    | error e => simp [hq]
    | ok q' => simp [hq]

theorem compileWith_eq_ok_iff {s : String} {o : CompileOptions} {doc : Json} :
    compileWith s o = .ok doc ↔ ∃ q, Query.parse s o.maxDepth = .ok q ∧ q.toJson = doc := by
  unfold compileWith compileTraced
  cases hp : Query.parse s o.maxDepth with
  | error e => simp
  | ok q => simp

theorem read_of_erasedShapes_eq {s s' : String} {d : Nat} {f : Form} (h : read s d = .ok f)
    (herase : erasedShapes (tokenize s') = erasedShapes (tokenize s))
    (hread : discardsRead ⟨s', s'.utf8ByteSize, d⟩ [] (tokenize s') = true) :
    ∃ f', read s' d = .ok f' ∧ f'.bare = f.bare := by
  have htop := readsTop_dropDiscarded (read_ok_iff.1 h)
  -- both texts are read under the same nesting limit
  have hcx : (⟨s', s'.utf8ByteSize, d⟩ : ReadContext).maxDepth =
      (⟨s, s.utf8ByteSize, d⟩ : ReadContext).maxDepth := rfl
  obtain ⟨f', htop', hbare⟩ := readsTop_of_shapes hcx htop herase
  exact ⟨f', read_ok_iff.2 (readsTop_of_dropDiscarded hread htop'), hbare⟩

/-- Compilation ignores trivia and discarded forms: a text whose tokens, once the discarded
forms are deleted, have the kinds and texts of those of a text that compiles compiles to the
same document, where every form it discards reads at its nesting level. -/
theorem compileWith_eq_of_erasedShapes_eq {s s' : String} {o : CompileOptions} {doc : Json}
    (h : compileWith s o = .ok doc)
    (herase : erasedShapes (tokenize s') = erasedShapes (tokenize s))
    (hread : discardsRead ⟨s', s'.utf8ByteSize, o.maxDepth⟩ [] (tokenize s') = true) :
    compileWith s' o = .ok doc := by
  obtain ⟨q, hparse, rfl⟩ := compileWith_eq_ok_iff.1 h
  obtain ⟨f, hf, hq⟩ := Query.parse_eq_ok_iff.1 hparse
  obtain ⟨f', hf', hbare⟩ := read_of_erasedShapes_eq hf herase hread
  exact compileWith_eq_ok_iff.2
    ⟨q, Query.parse_eq_ok_iff.2 ⟨f', hf', Query.ofForm_eq_of_bare_eq hbare hq⟩, rfl⟩

/-- A scan compiles alike with a discarded symbol before its table, a comma and a comment after
it, and a discarded vector in its bind vector. -/
theorem compileWith_scan_discards :
    ∃ doc, compileWith "(from :t [a])" {} = .ok doc ∧
      compileWith "(from #_ x :t, ; rows\n [a #_ [b]])" {} = .ok doc := by
  have hok : (compileWith "(from :t [a])" {}).isOk = true := by decide +kernel
  cases h : compileWith "(from :t [a])" {} with
  | error e => rw [h] at hok; cases hok
  | ok doc =>
    exact ⟨doc, rfl,
      compileWith_eq_of_erasedShapes_eq h (by decide +kernel) (by decide +kernel)⟩

end Xtql
