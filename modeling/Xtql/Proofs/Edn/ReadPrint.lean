import Xtql.Proofs.Edn.LexPrint
import Xtql.Proofs.Number.ExactDecimal

/-!
Printed forms read back, up to spans (`read_print`).
-/

namespace Xtql.Edn

open Xtql.Number

/-! ### Literal values -/

theorem unescapeFrom_escapeBody (o : Nat) (cs : List Char) :
    unescapeFrom o (escapeBody cs) = .ok cs := by
  induction cs generalizing o with
  | nil => simp [escapeBody, unescapeFrom]
  | cons c cs ih =>
    by_cases h : c = '"' ∨ c = '\\'
    · rcases h with rfl | rfl <;> simp [escapeBody, unescapeFrom, simpleEscape, ih]
    · rw [escapeBody, if_neg h, unescapeFrom]
      · simp [ih]
      · rintro rfl; exact h (.inr rfl)

theorem unescape_escapeBody (s : String) : unescape (String.ofList (escapeBody s.toList)) = .ok s := by
  simp [unescape, unescapeFrom_escapeBody]

theorem digitsValue_eq (cs : List Char) : digitsValue cs = Nat.ofDigitChars 10 cs 0 := by
  simp only [digitsValue, Nat.ofDigitChars, Nat.mul_comm]

theorem digitsValue_toDigits (n : Nat) : digitsValue (Nat.toDigits 10 n) = n := by
  rw [digitsValue_eq, Nat.ofDigitChars_toDigits (by decide) (by decide)]

theorem integerValue_toString (n : Int) : integerValue (toString n).toList = n := by
  obtain ⟨d, ds, hds, hd⟩ := toDigits_head n.natAbs
  rw [toList_toString_int]
  split
  · rename_i hn
    simp only [List.cons_append, List.nil_append, integerValue, digitsValue_toDigits]
    omega
  · rename_i hn
    have h1 : d ≠ '-' := by rintro rfl; exact absurd hd (by decide)
    have h2 : d ≠ '+' := by rintro rfl; exact absurd hd (by decide)
    rw [List.nil_append, hds, integerValue]
    · rw [← hds, digitsValue_toDigits]; omega
    all_goals simp_all

theorem floatValue_body (neg : Bool) (x : Binary64) :
    floatValue ((if neg then ['-'] else []) ++
      (Nat.toDigits 10 x.exactDecimal.digits ++ 'e' :: (toString x.exactDecimal.exp).toList)) =
      Binary64.ofDecimal neg x.exactDecimal.digits x.exactDecimal.exp := by
  have hdig : ∀ c ∈ Nat.toDigits 10 x.exactDecimal.digits, c.isDigit = true :=
    fun c hc => isDigit_of_mem_toDigits hc
  have hexp : splitAtFirst (fun c => c == 'e' || c == 'E')
      (Nat.toDigits 10 x.exactDecimal.digits ++ 'e' :: (toString x.exactDecimal.exp).toList) =
      (Nat.toDigits 10 x.exactDecimal.digits, some (toString x.exactDecimal.exp).toList) :=
    splitAtFirst_append (fun c hc => by
      have := hdig c hc
      simp only [Bool.or_eq_false_iff, beq_eq_false_iff_ne]
      constructor <;> rintro rfl <;> exact absurd this (by decide)) rfl
  have hdot : splitAtFirst (· == '.') (Nat.toDigits 10 x.exactDecimal.digits) =
      (Nat.toDigits 10 x.exactDecimal.digits, none) :=
    splitAtFirst_of_all fun c hc => by
      have := hdig c hc
      simp only [beq_eq_false_iff_ne]
      rintro rfl; exact absurd this (by decide)
  obtain ⟨d, ds, hds, hd⟩ := toDigits_head x.exactDecimal.digits
  cases neg with
  | true =>
    simp only [floatValue, if_true, List.cons_append, List.nil_append, hexp, hdot]
    rw [Option.getD_none, List.append_nil, digitsValue_toDigits, integerValue_toString,
      List.length_nil, Nat.cast_zero, Int.sub_zero]
  | false =>
    have h1 : d ≠ '-' := by rintro rfl; exact absurd hd (by decide)
    have h2 : d ≠ '+' := by rintro rfl; exact absurd hd (by decide)
    rw [if_neg Bool.false_ne_true, List.nil_append, floatValue, hds]
    · simp only [← hds, hexp, hdot]
      rw [Option.getD_none, List.append_nil, digitsValue_toDigits, integerValue_toString,
        List.length_nil, Nat.cast_zero, Int.sub_zero]
    all_goals simp [hds, h1, h2]

theorem floatValue_floatSpelling (x : Binary64) (hx : x.isFinite = true) :
    floatValue (floatSpelling x) = x := by
  rw [floatSpelling_eq, floatValue_body, Binary64.ofDecimal_exactDecimal hx]

/-! ### Token lists of printed forms -/

theorem length_lt_append_cons (ts : List Token) (t : Token) (rest : List Token) :
    rest.length < (ts ++ t :: rest).length := by
  simp only [List.length_append, List.length_cons]; omega

theorem head_token {f : Form} {ts : List Token} (h : ts.map Token.shape = f.shapes) :
    ∃ t ts', ts = t :: ts' ∧ t.kind.isClose = false ∧ t.kind ≠ .discard ∧ t.kind ≠ .eof := by
  have hk : ∃ k x ss, f.shapes = (k, x) :: ss ∧ k.isClose = false ∧ k ≠ .discard ∧ k ≠ .eof := by
    cases f with
    | bool b => cases b <;> simp [Form.shapes, TokenKind.isClose]
    | _ => simp [Form.shapes, TokenKind.isClose]
  obtain ⟨k, x, ss, hs, hk⟩ := hk
  rw [hs, List.map_eq_cons_iff] at h
  obtain ⟨t, ts', rfl, ht, -⟩ := h
  have : t.kind = k := congrArg Prod.fst ht
  exact ⟨t, ts', rfl, this ▸ hk⟩

theorem skipDiscarded_of_head (cx : ReadContext) (depth marker : Nat) {t : Token}
    (r : List Token) (ht : t.kind ≠ .discard) :
    skipDiscarded cx depth 0 marker (t :: r) = .ok ⟨t :: r, Nat.le_refl _⟩ := by
  rw [skipDiscarded]; simp [ht]

theorem shapes_wrap {ts : List Token} {ko kc : TokenKind} {xo xc : String}
    {mid : List (TokenKind × String)} (h : ts.map Token.shape = (ko, xo) :: mid ++ [(kc, xc)]) :
    ∃ t0 ts' tc, ts = t0 :: (ts' ++ [tc]) ∧ t0.kind = ko ∧ t0.text = xo ∧
      ts'.map Token.shape = mid ∧ tc.kind = kc := by
  rw [List.cons_append, List.map_eq_cons_iff] at h
  obtain ⟨t0, r, rfl, h0, hr⟩ := h
  rw [List.map_eq_append_iff] at hr
  obtain ⟨ts', l2, rfl, hmid, hl2⟩ := hr
  rw [List.map_eq_singleton_iff] at hl2
  obtain ⟨tc, rfl, hc⟩ := hl2
  exact ⟨t0, ts', tc, rfl, congrArg Prod.fst h0, congrArg Prod.snd h0, hmid, congrArg Prod.fst hc⟩

section Reading

variable (cx : ReadContext)

theorem readForm_token {t : Token} (hk : t.kind.isAtom = true) {g : Form} (hg : atom cx t = .ok g)
    (depth : Nat) (rest : List Token) :
    readForm cx depth (t :: rest) = .ok (g, ⟨rest, Nat.lt_succ_self _⟩) := by
  have hopen : t.kind.isOpen = false := by revert hk; cases t.kind <;> decide
  have htag : t.kind ≠ .tag := by intro h; rw [h] at hk; exact absurd hk (by decide)
  rw [readForm]
  simp [hopen, htag, hg]

theorem readForm_atom {f : Form} (hf : f.printable = true) (h0 : f.depth = 0) {ts : List Token}
    (hts : ts.map Token.shape = f.shapes) (depth : Nat) (rest : List Token) :
    ∃ g h, readForm cx depth (ts ++ rest) = .ok (g, ⟨rest, h⟩) ∧ g.bare = f.bare := by
  have hone : ∃ t, ts = [t] ∧ f.shapes = [t.shape] := by
    cases f <;> simp only [Form.depth, Form.shapes] at h0 hts ⊢ <;>
      first | omega | (obtain ⟨t, rfl, ht⟩ := List.map_eq_singleton_iff.1 hts; exact ⟨t, rfl, ht ▸ rfl⟩)
  obtain ⟨t, rfl, ht⟩ := hone
  have kind_text : ∀ {k x}, [(k, x)] = [t.shape] → t.kind = k ∧ t.text = x := by
    intro k x h
    simp only [List.cons.injEq, Token.shape, Prod.mk.injEq, and_true] at h
    exact ⟨h.1.symm, h.2.symm⟩
  have read : ∀ g, t.kind.isAtom = true → atom cx t = .ok g →
      readForm cx depth ([t] ++ rest) = .ok (g, ⟨rest, Nat.lt_succ_self _⟩) :=
    fun g hk hg => readForm_token cx hk hg depth rest
  cases f with
  | symbol n sp =>
    obtain ⟨hk, hx⟩ := kind_text ht
    exact ⟨.symbol n ⟨t.offset, t.stop⟩, _, read _ (by rw [hk]; rfl) (by simp [atom, hk, hx]), rfl⟩
  | keyword n sp =>
    obtain ⟨hk, hx⟩ := kind_text ht
    exact ⟨.keyword n ⟨t.offset, t.stop⟩, _, read _ (by rw [hk]; rfl) (by simp [atom, hk, hx]), rfl⟩
  | param n sp =>
    obtain ⟨hk, hx⟩ := kind_text ht
    exact ⟨.param n ⟨t.offset, t.stop⟩, _, read _ (by rw [hk]; rfl) (by simp [atom, hk, hx]), rfl⟩
  | str s sp =>
    obtain ⟨hk, hx⟩ := kind_text ht
    exact ⟨.str s ⟨t.offset, t.stop⟩, _, read _ (by rw [hk]; rfl)
      (by simp [atom, hk, hx, unescape_escapeBody]), rfl⟩
  | int n sp =>
    obtain ⟨hk, hx⟩ := kind_text ht
    have hfit : fitsInt64 n = true := hf
    exact ⟨.int n ⟨t.offset, t.stop⟩, _, read _ (by rw [hk]; rfl)
      (by simp only [atom, hk, hx, integerValue_toString, hfit, if_true]), rfl⟩
  | float x sp =>
    obtain ⟨hk, hx⟩ := kind_text ht
    have hfin : x.isFinite = true := hf
    exact ⟨.float x ⟨t.offset, t.stop⟩, _, read _ (by rw [hk]; rfl)
      (by simp only [atom, hk, hx, String.toList_ofList, floatValue_floatSpelling x hfin, hfin,
        if_true]), rfl⟩
  | bool b sp =>
    obtain ⟨hk, hx⟩ := kind_text ht
    exact ⟨.bool b ⟨t.offset, t.stop⟩, _, read _ (by rw [hk]; cases b <;> rfl)
      (by cases b <;> simp [atom, hk]), rfl⟩
  | nil sp =>
    obtain ⟨hk, hx⟩ := kind_text ht
    exact ⟨.nil ⟨t.offset, t.stop⟩, _, read _ (by rw [hk]; rfl) (by simp [atom, hk]), rfl⟩
  | list _ _ | vector _ _ | map _ _ | set _ _ | nsMap _ _ _ | tagged _ _ _ =>
    simp [Form.depth] at h0

theorem readForm_wrapped {t0 tc : Token} (hopen : t0.kind.isOpen = true) {depth : Nat}
    (hd : depth < cx.maxDepth) {ts rest : List Token} {c : Except ParseError Form}
    (hitems : readItems cx t0 depth [] (ts ++ tc :: rest) =
      c.map (fun g => (g, ⟨rest, length_lt_append_cons ts tc rest⟩)))
    (g : Form) (hc : c = .ok g) :
    readForm cx depth (t0 :: (ts ++ tc :: rest)) =
      .ok (g, ⟨rest, Nat.lt_succ_of_lt (length_lt_append_cons ts tc rest)⟩) := by
  subst hc
  rw [readForm]
  simp only [hopen, if_true, show ¬ cx.maxDepth ≤ depth by omega, if_false, hitems]
  rfl

mutual

/-- The tokens of a printable form, read at a depth its nesting stays within, give back the
form up to spans and leave what follows them. -/
theorem readForm_shapes (f : Form) (hf : f.printable = true) (ts : List Token)
    (hts : ts.map Token.shape = f.shapes) (depth : Nat) (hd : depth + f.depth ≤ cx.maxDepth)
    (rest : List Token) :
    ∃ g h, readForm cx depth (ts ++ rest) = .ok (g, ⟨rest, h⟩) ∧ g.bare = f.bare := by
  match f with
  | .list items sp =>
    obtain ⟨t0, ts', tc, rfl, hk0, -, hmid, hkc⟩ := shapes_wrap hts
    simp only [Form.depth] at hd
    obtain ⟨gs, hgs, hitems⟩ :=
      readItems_shapes items hf ts' hmid t0 depth (by omega) [] tc (by rw [hk0, hkc]; rfl) rest
    have hread := readForm_wrapped cx (by rw [hk0]; rfl) (by omega) hitems
      (.list gs ⟨t0.offset, tc.stop⟩) (by simp [collection, hk0])
    rw [List.cons_append, List.append_assoc, List.singleton_append]
    exact ⟨_, _, hread, by simp [Form.bare, hgs]⟩
  | .vector items sp =>
    obtain ⟨t0, ts', tc, rfl, hk0, -, hmid, hkc⟩ := shapes_wrap hts
    simp only [Form.depth] at hd
    obtain ⟨gs, hgs, hitems⟩ :=
      readItems_shapes items hf ts' hmid t0 depth (by omega) [] tc (by rw [hk0, hkc]; rfl) rest
    have hread := readForm_wrapped cx (by rw [hk0]; rfl) (by omega) hitems
      (.vector gs ⟨t0.offset, tc.stop⟩) (by simp [collection, hk0])
    rw [List.cons_append, List.append_assoc, List.singleton_append]
    exact ⟨_, _, hread, by simp [Form.bare, hgs]⟩
  | .set items sp =>
    obtain ⟨t0, ts', tc, rfl, hk0, -, hmid, hkc⟩ := shapes_wrap hts
    simp only [Form.depth] at hd
    obtain ⟨gs, hgs, hitems⟩ :=
      readItems_shapes items hf ts' hmid t0 depth (by omega) [] tc (by rw [hk0, hkc]; rfl) rest
    have hread := readForm_wrapped cx (by rw [hk0]; rfl) (by omega) hitems
      (.set gs ⟨t0.offset, tc.stop⟩) (by simp [collection, hk0])
    rw [List.cons_append, List.append_assoc, List.singleton_append]
    exact ⟨_, _, hread, by simp [Form.bare, hgs]⟩
  | .map pairs sp =>
    rw [Form.shapes, pairShapes_eq] at hts
    obtain ⟨t0, ts', tc, rfl, hk0, -, hmid, hkc⟩ := shapes_wrap hts
    simp only [Form.depth, pairDepth_eq] at hd
    obtain ⟨gs, hgs, hitems⟩ :=
      readItems_shapes (flatPairs pairs) (by rw [← pairsPrintable_eq]; exact hf) ts' hmid t0 depth
        (by omega) [] tc (by rw [hk0, hkc]; rfl) rest
    obtain ⟨qs, hq, hqb⟩ := pairUp_of_bareAll hgs
    have hread := readForm_wrapped cx (by rw [hk0]; rfl) (by omega) hitems
      (.map qs ⟨t0.offset, tc.stop⟩) (by simp [collection, hk0, hq])
    rw [List.cons_append, List.append_assoc, List.singleton_append]
    exact ⟨_, _, hread, by simp [Form.bare, hqb]⟩
  | .nsMap ns pairs sp =>
    rw [Form.shapes, pairShapes_eq] at hts
    obtain ⟨t0, ts', tc, rfl, hk0, hx0, hmid, hkc⟩ := shapes_wrap hts
    simp only [Form.depth, pairDepth_eq] at hd
    simp only [Form.printable, Bool.and_eq_true] at hf
    obtain ⟨gs, hgs, hitems⟩ :=
      readItems_shapes (flatPairs pairs) (by rw [← pairsPrintable_eq]; exact hf.2) ts' hmid t0 depth
        (by omega) [] tc (by rw [hk0, hkc]; rfl) rest
    obtain ⟨qs, hq, hqb⟩ := pairUp_of_bareAll hgs
    have hread := readForm_wrapped cx (by rw [hk0]; rfl) (by omega) hitems
      (.nsMap ns qs ⟨t0.offset, tc.stop⟩) (by simp [collection, hk0, hx0, hq])
    rw [List.cons_append, List.append_assoc, List.singleton_append]
    exact ⟨_, _, hread, by simp [Form.bare, hqb]⟩
  | .tagged tag v sp =>
    rw [Form.shapes, List.map_eq_cons_iff] at hts
    obtain ⟨t0, ts', rfl, h0, hv⟩ := hts
    have hk0 : t0.kind = .tag := congrArg Prod.fst h0
    have hx0 : t0.text = tag := congrArg Prod.snd h0
    simp only [Form.printable, Bool.and_eq_true] at hf
    simp only [Form.depth] at hd
    obtain ⟨t1, ts'', rfl, -, hnd, hne⟩ := head_token hv
    obtain ⟨g, hg, hread, hgb⟩ := readForm_shapes v hf.2 (t1 :: ts'') hv (depth + 1) (by omega) rest
    refine ⟨.tagged tag g ⟨t0.offset, g.span.stop⟩, Nat.lt_succ_of_lt hg, ?_, by
      simp [Form.bare, hgb]⟩
    replace hread : readForm cx (depth + 1) (t1 :: (ts'' ++ rest)) = .ok (g, ⟨rest, hg⟩) := hread
    show readForm cx depth (t0 :: (t1 :: (ts'' ++ rest))) = _
    rw [readForm]
    simp [hk0, hx0, TokenKind.isOpen, show ¬ cx.maxDepth ≤ depth by omega,
      skipDiscarded_of_head cx _ _ _ hnd, peekKind, hne, hread]
  | .symbol .. | .keyword .. | .param .. | .str .. | .int .. | .float .. | .bool .. | .nil .. =>
    exact readForm_atom cx hf rfl hts depth rest
termination_by sizeOf f
decreasing_by
  all_goals (simp only [Form.list.sizeOf_spec, Form.vector.sizeOf_spec, Form.set.sizeOf_spec,
    Form.map.sizeOf_spec, Form.nsMap.sizeOf_spec, Form.tagged.sizeOf_spec, sizeOf_flatPairs]; omega)

theorem readItems_shapes (fs : List Form) (hfs : Form.allPrintable fs = true) (ts : List Token)
    (hts : ts.map Token.shape = Form.listShapes fs) (opener : Token) (depth : Nat)
    (hd : depth + 1 + Form.listDepth fs ≤ cx.maxDepth) (acc : List Form) (tc : Token)
    (hclose : opener.kind.closer = some tc.kind) (rest : List Token) :
    ∃ gs, Form.bareAll gs = Form.bareAll fs ∧
      readItems cx opener depth acc (ts ++ tc :: rest) =
        (collection cx opener (acc.reverse ++ gs) ⟨opener.offset, tc.stop⟩).map
          (fun g => (g, ⟨rest, length_lt_append_cons ts tc rest⟩)) := by
  have htc : tc.kind.isClose = true := TokenKind.isClose_of_closer hclose
  have hnd : tc.kind ≠ .discard := by intro h; rw [h] at htc; exact absurd htc (by decide)
  match fs with
  | [] =>
    have hts' : ts = [] := by simpa [Form.listShapes] using hts
    subst hts'
    refine ⟨[], rfl, ?_⟩
    rw [readItems]
    simp only [List.nil_append, skipDiscarded_of_head cx _ _ rest hnd, hclose, Option.getD_some,
      if_true, List.append_nil]
    cases collection cx opener acc.reverse ⟨opener.offset, tc.stop⟩ <;> rfl
  | f :: fs =>
    simp only [Form.allPrintable, Bool.and_eq_true] at hfs
    rw [Form.listShapes, List.map_eq_append_iff] at hts
    obtain ⟨ts1, ts2, rfl, h1, h2⟩ := hts
    obtain ⟨t, ts1', rfl, htk, htd, hte⟩ := head_token h1
    have hdf : depth + 1 + f.depth ≤ cx.maxDepth := by
      simp only [Form.listDepth] at hd; omega
    have hdfs : depth + 1 + Form.listDepth fs ≤ cx.maxDepth := by
      simp only [Form.listDepth] at hd; omega
    obtain ⟨g, hg, hread, hgb⟩ :=
      readForm_shapes f hfs.1 (t :: ts1') h1 (depth + 1) hdf (ts2 ++ tc :: rest)
    obtain ⟨gs, hgs, hitems⟩ :=
      readItems_shapes fs hfs.2 ts2 h2 opener depth hdfs (g :: acc) tc hclose rest
    refine ⟨g :: gs, by simp [Form.bareAll, hgb, hgs], ?_⟩
    have hne : t.kind ≠ tc.kind := fun h => by rw [h] at htk; simp [htc] at htk
    rw [readItems]
    replace hread : readForm cx (depth + 1) (t :: (ts1' ++ (ts2 ++ tc :: rest))) =
        .ok (g, ⟨ts2 ++ tc :: rest, hg⟩) := hread
    rw [List.reverse_cons, List.append_assoc, List.singleton_append] at hitems
    simp only [List.append_assoc, List.cons_append, skipDiscarded_of_head cx _ _ _ htd, hclose,
      Option.getD_some, hne, hte, htk, Bool.false_eq_true, if_false, hread, hitems]
    cases collection cx opener (acc.reverse ++ g :: gs) ⟨opener.offset, tc.stop⟩ <;> rfl
termination_by sizeOf fs
decreasing_by all_goals (simp only [List.cons.sizeOf_spec]; omega)

end

end Reading

/-- Reading the printed text of a form succeeds, with a form that is the printed one up to
spans. -/
theorem read_print_ok (f : Form) (hf : f.printable = true) (d : Nat) (hd : f.depth ≤ d) :
    ∃ g, read f.print d = .ok g ∧ g.bare = f.bare := by
  obtain ⟨ts, p, htok, hts⟩ := tokenize_print f hf
  obtain ⟨t1, ts', rfl, -, hnd, hne⟩ := head_token hts
  let cx : ReadContext := ⟨f.print, f.print.utf8ByteSize, d⟩
  obtain ⟨g, hg, hread, hgb⟩ :=
    readForm_shapes cx f hf (t1 :: ts') hts 0 (by simpa [cx] using hd) [mkToken .eof [] [] p]
  replace hread : readForm cx 0 (t1 :: (ts' ++ [mkToken .eof [] [] p])) = .ok (g, ⟨_, hg⟩) := hread
  have hskip : skipDiscarded cx 0 0 0 (tokenize f.print) =
      .ok ⟨tokenize f.print, Nat.le_refl _⟩ := by
    rw [htok]; exact skipDiscarded_of_head cx 0 0 _ hnd
  have hend : skipDiscarded cx 0 0 0 [mkToken .eof [] [] p] =
      .ok ⟨[mkToken .eof [] [] p], Nat.le_refl _⟩ :=
    skipDiscarded_of_head cx 0 0 [] (by simp)
  -- the matches of `read` are on its own input's tokens, so each is taken apart by its
  -- equation rather than rewritten
  unfold read
  dsimp only
  split
  · rename_i e heq
    rw [hskip] at heq
    cases heq
  · rename_i ts1 hle heq
    rw [hskip, Except.ok.injEq, Subtype.mk.injEq, htok] at heq
    subst heq
    simp only [List.cons_append, peekKind, hne, if_false]
    rw [hread]
    dsimp only
    rw [hend]
    exact ⟨g, rfl, hgb⟩

/-- Printing a form and reading the text back gives the form, up to spans: for every form
whose names the scanner takes as they are, whose integers have 64 bits and whose floats are
finite, read with a nesting limit no smaller than its depth. -/
theorem read_print (f : Form) (hf : f.printable = true) (d : Nat) (hd : f.depth ≤ d) :
    (read f.print d).map Form.bare = .ok f.bare := by
  obtain ⟨g, hread, hg⟩ := read_print_ok f hf d hd
  rw [hread, ← hg]
  rfl

/-- A tagged list of one atom of each kind reads back from its printed text. -/
theorem read_print_tagged_atoms :
    (read (Form.tagged "inst" (.list [.symbol "a" ⟨0, 0⟩, .keyword "k" ⟨0, 0⟩, .int (-5) ⟨0, 0⟩,
      .str "q\"" ⟨0, 0⟩, .float ⟨0x3FF8000000000000⟩ ⟨0, 0⟩, .bool true ⟨0, 0⟩, .nil ⟨0, 0⟩]
        ⟨0, 0⟩) ⟨0, 0⟩).print 2).map Form.bare =
      .ok (Form.tagged "inst" (.list [.symbol "a" ⟨0, 0⟩, .keyword "k" ⟨0, 0⟩, .int (-5) ⟨0, 0⟩,
        .str "q\"" ⟨0, 0⟩, .float ⟨0x3FF8000000000000⟩ ⟨0, 0⟩, .bool true ⟨0, 0⟩, .nil ⟨0, 0⟩]
          ⟨0, 0⟩) ⟨0, 0⟩).bare :=
  read_print _ (by decide) 2 (by decide)

end Xtql.Edn
