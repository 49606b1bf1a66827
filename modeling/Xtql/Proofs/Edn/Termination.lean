import Xtql.Proofs.Edn.Tiling

/-!
The reader ends on every text: `3 * b + 5` nested calls read a text of `b` bytes
(`read_terminates`).
-/

namespace Xtql.Edn

open Xtql.Text

def thenWithin {α β : Type} (x : Option (Except ParseError α))
    (k : α → Option (Except ParseError β)) : Option (Except ParseError β) :=
  match x with
  | some (.ok a) => k a
  | some (.error e) => some (.error e)
  | none => none

@[simp] theorem thenWithin_ok {α β : Type} (a : α) (k : α → Option (Except ParseError β)) :
    thenWithin (some (.ok a)) k = k a := rfl

@[simp] theorem thenWithin_error {α β : Type} (e : ParseError)
    (k : α → Option (Except ParseError β)) : thenWithin (some (.error e)) k = some (.error e) :=
  rfl

mutual

/-- `readForm` with at most `n` calls nested below it; `none` once the bound is spent. -/
def readFormWithin (cx : ReadContext) : Nat → Nat → List Token →
    Option (Except ParseError (Form × List Token))
  | 0, _, _ => none
  | _ + 1, _, [] => some (.error (cx.fail .unexpectedEnd cx.size))
  | n + 1, depth, t :: rest =>
    if t.kind.isOpen then
      if cx.maxDepth ≤ depth then some (.error (cx.fail (.tooDeep cx.maxDepth) t.offset))
      else readItemsWithin cx n t depth [] rest
    else if t.kind = .tag then
      if cx.maxDepth ≤ depth then some (.error (cx.fail (.tooDeep cx.maxDepth) t.offset))
      else
        thenWithin (skipDiscardedWithin cx n (depth + 1) 0 0 rest) fun rest1 =>
          if peekKind rest1 = .eof then some (.error (cx.fail (.tagWithoutValue t.text) cx.size))
          else
            thenWithin (readFormWithin cx n (depth + 1) rest1) fun (value, rest2) =>
              some (.ok (.tagged t.text value ⟨t.offset, value.span.stop⟩, rest2))
    else
      match atom cx t with
      | .ok f => some (.ok (f, rest))
      | .error e => some (.error e)

def readItemsWithin (cx : ReadContext) : Nat → Token → Nat → List Form → List Token →
    Option (Except ParseError (Form × List Token))
  | 0, _, _, _, _ => none
  | n + 1, opener, depth, acc, ts =>
    let closer := opener.kind.closer.getD .rparen
    thenWithin (skipDiscardedWithin cx n (depth + 1) 0 0 ts) fun
      | [] =>
        some (.error (cx.fail (.unclosed opener.kind (Position.ofOffset cx.input opener.offset))
          cx.size))
      | t :: rest =>
        if t.kind = closer then
          match collection cx opener acc.reverse ⟨opener.offset, t.stop⟩ with
          | .ok f => some (.ok (f, rest))
          | .error e => some (.error e)
        else if t.kind = .eof then
          some (.error (cx.fail (.unclosed opener.kind
            (Position.ofOffset cx.input opener.offset)) cx.size))
        else if t.kind.isClose then
          some (.error (cx.fail (.mismatched closer opener.kind t.kind
            (Position.ofOffset cx.input opener.offset)) t.offset))
        else
          thenWithin (readFormWithin cx n (depth + 1) (t :: rest)) fun (f, ts2) =>
            readItemsWithin cx n opener depth (f :: acc) ts2

def skipDiscardedWithin (cx : ReadContext) : Nat → Nat → Nat → Nat → List Token →
    Option (Except ParseError (List Token))
  | 0, _, _, _, _ => none
  | n + 1, depth, pending, marker, t :: rest =>
    if t.kind = .discard then skipDiscardedWithin cx n depth (pending + 1) t.offset rest
    else if pending = 0 then some (.ok (t :: rest))
    else if t.kind = .eof then some (.error (cx.fail .discardAtEnd cx.size))
    else if t.kind.isClose then some (.error (cx.fail (.discardBeforeCloser t.kind) marker))
    else
      thenWithin (readFormWithin cx n depth (t :: rest)) fun (_, r1) =>
        skipDiscardedWithin cx n depth (pending - 1) marker r1
  | _ + 1, _, pending, _, [] =>
    if pending = 0 then some (.ok [])
    else some (.error (cx.fail .discardAtEnd cx.size))

end

def readWithin (n : Nat) (input : String) (maxDepth : Nat) : Option (Except ParseError Form) :=
  let cx : ReadContext := ⟨input, input.utf8ByteSize, maxDepth⟩
  thenWithin (skipDiscardedWithin cx n 0 0 0 (tokenize input)) fun ts1 =>
    if peekKind ts1 = .eof then some (.error (cx.fail .emptyQuery 0))
    else
      thenWithin (readFormWithin cx n 0 ts1) fun (form, ts2) =>
        thenWithin (skipDiscardedWithin cx n 0 0 0 ts2) fun
          | t :: _ =>
            if t.kind = .eof then some (.ok form)
            else some (.error (cx.fail (.trailing t.kind) t.offset))
          | [] => some (.ok form)

/-! ### Enough nested calls -/

section

variable {cx : ReadContext} {n : Nat}

/-- With `n` nested calls the bounded reader reads as the reader does every token stream short
enough for it: three calls per token and one to three more. -/
def Agrees (cx : ReadContext) (n : Nat) : Prop :=
  (∀ d ts, 3 * ts.length + 1 ≤ n →
    readFormWithin cx n d ts = some ((readForm cx d ts).map fun x => (x.1, x.2.val))) ∧
  (∀ opener d acc ts, 3 * ts.length + 3 ≤ n →
    readItemsWithin cx n opener d acc ts =
      some ((readItems cx opener d acc ts).map fun x => (x.1, x.2.val))) ∧
  (∀ d p m ts, 3 * ts.length + 2 ≤ n →
    skipDiscardedWithin cx n d p m ts = some ((skipDiscarded cx d p m ts).map Subtype.val))

theorem Agrees.readForm_succ (h : Agrees cx n) {d : Nat} {ts : List Token}
    (hn : 3 * ts.length + 1 ≤ n + 1) :
    readFormWithin cx (n + 1) d ts = some ((readForm cx d ts).map fun x => (x.1, x.2.val)) := by
  obtain ⟨hF, hI, hS⟩ := h
  match ts with
  | [] => rw [readFormWithin, readForm]; rfl
  | t :: rest =>
    simp only [List.length_cons] at hn
    rw [readFormWithin, readForm]
    -- every call below reads the tokens after `t`, so the bound at `n` covers it
    by_cases hopen : t.kind.isOpen = true
    · rw [if_pos hopen, if_pos hopen]
      by_cases hd : cx.maxDepth ≤ d
      · rw [if_pos hd, if_pos hd]
        rfl
      · rw [if_neg hd, if_neg hd, hI t d [] rest (by omega)]
        cases readItems cx t d [] rest with
        | ok x => rfl
        | error e => rfl
    · rw [if_neg hopen, if_neg hopen]
      by_cases htag : t.kind = .tag
      · rw [if_pos htag, if_pos htag]
        by_cases hd : cx.maxDepth ≤ d
        · rw [if_pos hd, if_pos hd]
          rfl
        · rw [if_neg hd, if_neg hd, hS (d + 1) 0 0 rest (by omega)]
          cases skipDiscarded cx (d + 1) 0 0 rest with
          | error e => rfl
          | ok x =>
            obtain ⟨rest1, h1⟩ := x
            simp only [Except.map, thenWithin_ok]
            by_cases heof : peekKind rest1 = .eof
            · rw [if_pos heof, if_pos heof]
            · rw [if_neg heof, if_neg heof, hF (d + 1) rest1 (by omega)]
              cases readForm cx (d + 1) rest1 with
              | error e => rfl
              | ok y => rfl
      · rw [if_neg htag, if_neg htag]
        cases atom cx t with
        | ok f => rfl
        | error e => rfl

theorem Agrees.readItems_succ (h : Agrees cx n) {opener : Token} {d : Nat} {acc : List Form}
    {ts : List Token} (hn : 3 * ts.length + 3 ≤ n + 1) :
    readItemsWithin cx (n + 1) opener d acc ts =
      some ((readItems cx opener d acc ts).map fun x => (x.1, x.2.val)) := by
  obtain ⟨hF, hI, hS⟩ := h
  -- skipping and the next item read the same tokens at a smaller measure; the items after it
  -- read a token fewer
  rw [readItemsWithin, readItems, hS (d + 1) 0 0 ts (by omega)]
  cases skipDiscarded cx (d + 1) 0 0 ts with
  | error e => rfl
  | ok x =>
    obtain ⟨ts1, h1⟩ := x
    simp only [Except.map, thenWithin_ok]
    cases ts1 with
    | nil => rfl
    | cons t rest =>
      simp only [List.length_cons] at h1
      dsimp only
      by_cases hc : t.kind = opener.kind.closer.getD .rparen
      · rw [if_pos hc, if_pos hc]
        cases collection cx opener acc.reverse ⟨opener.offset, t.stop⟩ with
        | ok f => rfl
        | error e => rfl
      · rw [if_neg hc, if_neg hc]
        by_cases heof : t.kind = .eof
        · rw [if_pos heof, if_pos heof]
        · rw [if_neg heof, if_neg heof]
          by_cases hclose : t.kind.isClose = true
          · rw [if_pos hclose, if_pos hclose]
          · rw [if_neg hclose, if_neg hclose,
              hF (d + 1) (t :: rest) (by simp only [List.length_cons]; omega)]
            cases readForm cx (d + 1) (t :: rest) with
            | error e => rfl
            | ok y =>
              obtain ⟨f, ts2, h2⟩ := y
              simp only [List.length_cons] at h2
              simp only [Except.map, thenWithin_ok]
              rw [hI opener d (f :: acc) ts2 (by omega)]
              cases readItems cx opener d (f :: acc) ts2 with
              | error e => rfl
              | ok z => rfl

theorem Agrees.skipDiscarded_succ (h : Agrees cx n) {d p m : Nat} {ts : List Token}
    (hn : 3 * ts.length + 2 ≤ n + 1) :
    skipDiscardedWithin cx (n + 1) d p m ts =
      some ((skipDiscarded cx d p m ts).map Subtype.val) := by
  obtain ⟨hF, -, hS⟩ := h
  match ts with
  | [] =>
    rw [skipDiscardedWithin, skipDiscarded]
    by_cases hp : p = 0
    · rw [if_pos hp, if_pos hp]
      rfl
    · rw [if_neg hp, if_neg hp]
      rfl
  | t :: rest =>
    simp only [List.length_cons] at hn
    rw [skipDiscardedWithin, skipDiscarded]
    -- a marker is a token fewer; a discarded item is read from the same tokens at a smaller
    -- measure, and the skipping after it from a token fewer
    by_cases hdis : t.kind = .discard
    · rw [if_pos hdis, if_pos hdis, hS d (p + 1) t.offset rest (by omega)]
      cases skipDiscarded cx d (p + 1) t.offset rest with
      | ok x => rfl
      | error e => rfl
    · rw [if_neg hdis, if_neg hdis]
      by_cases hp : p = 0
      · rw [if_pos hp, if_pos hp]
        rfl
      · rw [if_neg hp, if_neg hp]
        by_cases heof : t.kind = .eof
        · rw [if_pos heof, if_pos heof]
          rfl
        · rw [if_neg heof, if_neg heof]
          by_cases hclose : t.kind.isClose = true
          · rw [if_pos hclose, if_pos hclose]
            rfl
          · rw [if_neg hclose, if_neg hclose,
              hF d (t :: rest) (by simp only [List.length_cons]; omega)]
            cases readForm cx d (t :: rest) with
            | error e => rfl
            | ok y =>
              obtain ⟨g, r1, h1⟩ := y
              simp only [List.length_cons] at h1
              simp only [Except.map, thenWithin_ok]
              rw [hS d (p - 1) m r1 (by omega)]
              cases skipDiscarded cx d (p - 1) m r1 with
              | ok z => rfl
              | error e => rfl

/-- Three nested calls per token, and one to three more, are enough for every token stream:
the measure the reader's recursion decreases bounds how deep its calls nest. -/
theorem agrees (cx : ReadContext) : ∀ n, Agrees cx n
  | 0 => ⟨fun _ _ h => by omega, fun _ _ _ _ h => by omega, fun _ _ _ _ h => by omega⟩
  | n + 1 =>
    have ih := agrees cx n
    ⟨fun _ _ hn => ih.readForm_succ hn, fun _ _ _ _ hn => ih.readItems_succ hn,
      fun _ _ _ _ hn => ih.skipDiscarded_succ hn⟩

theorem readWithin_spec {s : String} {depth n : Nat} (hn : 3 * s.utf8ByteSize + 5 ≤ n) :
    readWithin n s depth = some (read s depth) := by
  have hlen := tokenize_length_le s
  obtain ⟨hF, -, hS⟩ := agrees ⟨s, s.utf8ByteSize, depth⟩ n
  rw [readWithin, read]
  dsimp only
  rw [hS 0 0 0 (tokenize s) (by omega)]
  cases skipDiscarded ⟨s, s.utf8ByteSize, depth⟩ 0 0 0 (tokenize s) with
  | error e => rfl
  | ok x =>
    obtain ⟨ts1, h1⟩ := x
    simp only [Except.map, thenWithin_ok]
    by_cases heof : peekKind ts1 = .eof
    · rw [if_pos heof, if_pos heof]
    · rw [if_neg heof, if_neg heof, hF 0 ts1 (by omega)]
      cases readForm ⟨s, s.utf8ByteSize, depth⟩ 0 ts1 with
      | error e => rfl
      | ok y =>
        obtain ⟨form, ts2, h2⟩ := y
        simp only [Except.map, thenWithin_ok]
        rw [hS 0 0 0 ts2 (by omega)]
        cases skipDiscarded ⟨s, s.utf8ByteSize, depth⟩ 0 0 0 ts2 with
        | error e => rfl
        | ok z =>
          obtain ⟨ts3, h3⟩ := z
          cases ts3 with
          | nil => rfl
          | cons t _ =>
            by_cases ht : t.kind = .eof
            · simp only [Except.map, thenWithin_ok, if_pos ht]
            · simp only [Except.map, thenWithin_ok, if_neg ht]

/-- The reader ends on every text: a text of `b` bytes has at most `b + 1` tokens, and on any
token stream the three reading functions, calling one another, nest at most three calls per token
and one to three more, since every form read consumes a token and every turn of their loops
consumes one or ends. So `3 * b + 5` nested calls read the text, whatever its depth limit and
however many discard markers stand stacked in it. -/
theorem read_terminates (s : String) (depth : Nat) :
    (tokenize s).length ≤ s.utf8ByteSize + 1 ∧
    (∀ (cx : ReadContext) (d : Nat) (ts : List Token),
      readFormWithin cx (3 * ts.length + 1) d ts =
        some ((readForm cx d ts).map fun x => (x.1, x.2.val)) ∧
      (∀ p m, skipDiscardedWithin cx (3 * ts.length + 2) d p m ts =
        some ((skipDiscarded cx d p m ts).map Subtype.val)) ∧
      ∀ opener acc, readItemsWithin cx (3 * ts.length + 3) opener d acc ts =
        some ((readItems cx opener d acc ts).map fun x => (x.1, x.2.val))) ∧
    ∀ n, 3 * s.utf8ByteSize + 5 ≤ n → readWithin n s depth = some (read s depth) := by
  refine ⟨tokenize_length_le s, fun cx d ts => ⟨?_, fun p m => ?_, fun opener acc => ?_⟩,
    fun n hn => readWithin_spec hn⟩
  · exact (agrees cx _).1 d ts (Nat.le_refl _)
  · exact (agrees cx _).2.2 d p m ts (Nat.le_refl _)
  · exact (agrees cx _).2.1 opener d acc ts (Nat.le_refl _)

end

end Xtql.Edn
