import Xtql.Boundary
import Xtql.Proofs.Json.NulFree

/-!
The C entry points report exactly what the compiler answers on the bytes of the C string, and
never the internal error.
-/

namespace Xtql

theorem ownedCString_of_nulFree {s : String} (h : NulFree s) : ownedCString s = some s := by
  simp only [ownedCString, String.contains_char_eq, decide_eq_true_eq]
  exact if_neg h

theorem messageFallback_nulFree : NulFree messageFallback := by decide

theorem ownedCStringOrFallback_eq (m : String) :
    ownedCStringOrFallback m messageFallback =
      some (if m.contains '\x00' then messageFallback else m) := by
  unfold ownedCStringOrFallback
  rw [ownedCString_of_nulFree messageFallback_nulFree]
  by_cases hm : m.contains '\x00' = true
  · simp only [ownedCString, hm, if_true, Option.none_or]
  · simp only [ownedCString, hm, Bool.false_eq_true, if_false, Option.some_or]

theorem failure_of_nulFree (status : Status) {m : String} (h : NulFree m) :
    CompileResult.failure status m = ⟨status, none, some m, 0, 0, 0⟩ := by
  have hm : m.contains '\x00' = false := by
    simp only [String.contains_char_eq, decide_eq_false_iff_not]
    exact h
  simp only [CompileResult.failure, ownedCStringOrFallback_eq, hm, Bool.false_eq_true, if_false]

theorem InputError.message_nulFree (e : InputError) : NulFree e.message := by
  cases e with
  | null => decide
  | invalidUtf8 n => exact nulFree_append.2 ⟨by decide, nulFree_toString_nat n⟩

/-- What the C entry point is documented to return from the compiler's answer on the bytes of a
C string, `none` standing for a null pointer. -/
def documentedResult : Option (Except CompileError Json) → CompileResult
  | none => ⟨.invalidInput, none, some "null query pointer", 0, 0, 0⟩
  | some (.ok j) => ⟨.ok, some j.compact, none, 0, 0, 0⟩
  | some (.error (.parse e)) =>
    ⟨.parseError, none, some (if e.message.contains '\x00' then "xtql compile error" else e.message),
      e.position.offset, e.position.line, e.position.column⟩
  | some (.error (.invalidUtf8 n)) =>
    ⟨.invalidInput, none, some ("invalid UTF-8 in query at byte " ++ toString n), 0, 0, 0⟩
  | some (.error (.tooLarge len max)) =>
    ⟨.invalidInput, none,
      some ("query is " ++ toString len ++ " bytes, exceeding the " ++ toString max ++
        " byte limit"), 0, 0, 0⟩

theorem documentedResult_status_ne (a : Option (Except CompileError Json)) :
    (documentedResult a).status ≠ .internalError := by
  rcases a with _ | (e | j)
  · intro h; cases h
  · rcases e with _ | _ | _ <;> intro h <;> cases h
  · intro h; cases h

theorem compileCString_eq_documentedResult (p : Option (List UInt8)) :
    compileCString p = documentedResult ((cStringBytes p).map (compileBytes · {})) := by
  unfold compileCString compileInput
  cases hb : cStringBytes p with
  | none => exact failure_of_nulFree .invalidInput (InputError.message_nulFree .null)
  | some bs =>
    dsimp only [Option.map_some]
    cases compileBytes bs {} with
    | ok j =>
      dsimp only
      rw [ownedCString_of_nulFree (Json.compact_nulFree j)]
      rfl
    | error e =>
      cases e with
      | parse e =>
        dsimp only [BoundaryError.toResult, BoundaryError.status, CompileResult.failure,
          CompileResult.withPosition]
        rw [ownedCStringOrFallback_eq]
        rfl
      | invalidUtf8 n =>
        exact failure_of_nulFree _ (nulFree_append.2 ⟨by decide, nulFree_toString_nat n⟩)
      | tooLarge len max =>
        have hmsg : NulFree (CompileError.tooLarge len max).message :=
          nulFree_append.2 ⟨nulFree_append.2 ⟨nulFree_append.2 ⟨nulFree_append.2
            ⟨by decide, nulFree_toString_nat len⟩, by decide +kernel⟩,
            nulFree_toString_nat max⟩, by decide⟩
        exact failure_of_nulFree .invalidInput hmsg

theorem compileInput_nulFree {p : Option (List UInt8)} {json : String}
    (h : compileInput p = .ok json) : NulFree json := by
  unfold compileInput at h
  split at h
  · cases h
  · split at h
    · cases h
      exact Json.compact_nulFree _
    · cases h

theorem compileCStringToJson_eq (p : Option (List UInt8)) :
    compileCStringToJson p =
      if (compileCString p).status = .ok then (compileCString p).json else none := by
  unfold compileCStringToJson compileCString
  cases h : compileInput p with
  | ok json =>
    simp only [ownedCString_of_nulFree (compileInput_nulFree h)]
    rfl
  | error e =>
    rcases e with e | (e | n | _)
    all_goals rfl

/-- The C entry points report what the compiler answers on the bytes of the C string: the
compact document, a parse error with its message and place, or an input error with its text;
never an internal error. The minimal entry point returns the same JSON exactly when the hardened
one succeeds. -/
theorem compileCString_documented (p : Option (List UInt8)) :
    compileCString p = documentedResult ((cStringBytes p).map (compileBytes · {})) ∧
      (compileCString p).status ≠ .internalError ∧
      compileCStringToJson p =
        if (compileCString p).status = .ok then (compileCString p).json else none := by
  have heq := compileCString_eq_documentedResult p
  refine ⟨heq, ?_, compileCStringToJson_eq p⟩
  rw [heq]
  exact documentedResult_status_ne _

end Xtql
