import Xtql.Proofs.Edn.Continuations
import Xtql.Proofs.Edn.Nodes
import Xtql.Proofs.Edn.Print

/-!
Where the forms read from a text stand in it: every node's span reads on its own to the node
(`read_spans_faithful`).
-/

namespace Xtql.Edn

open Xtql.Text

/-! ### Tokens in text order -/

/-- Tokens in the order of their text: each but the end covers a byte or more, and each ends
where any later one begins, or before. -/
def InOrder (T : List Token) : Prop :=
  (∀ t ∈ T, t.kind ≠ .eof → t.offset < t.stop) ∧ T.Pairwise fun a b => a.stop ≤ b.offset

theorem InOrder.sublist {T U : List Token} (h : InOrder T) (hU : U.Sublist T) : InOrder U :=
  ⟨fun t ht => h.1 t (hU.subset ht), h.2.sublist hU⟩

theorem InOrder.head_le {xs : List Token} (h : InOrder xs) (hxs : ∀ x ∈ xs, x.kind ≠ .eof)
    {a : Token} (ha : xs.head? = some a) : ∀ x ∈ xs, a.offset ≤ x.offset := by
  obtain ⟨ys, rfl⟩ : ∃ ys, xs = a :: ys := List.head?_eq_some_iff.1 ha
  intro x hx
  rcases List.mem_cons.1 hx with rfl | hx
  · exact Nat.le_refl _
  · have h1 := List.rel_of_pairwise_cons h.2 hx
    have h2 := h.1 a (List.mem_cons_self ..) (hxs a (List.mem_cons_self ..))
    omega

theorem InOrder.le_last {xs : List Token} (h : InOrder xs) (hxs : ∀ x ∈ xs, x.kind ≠ .eof)
    {b : Token} (hb : xs.getLast? = some b) : ∀ x ∈ xs, x.stop ≤ b.stop := by
  obtain ⟨ys, rfl⟩ := List.getLast?_eq_some_iff.1 hb
  have hpw := List.pairwise_append.1 h.2
  intro x hx
  rcases List.mem_append.1 hx with hx | hx
  · have h1 := hpw.2.2 x hx b (List.mem_singleton_self b)
    have h2 := h.1 b (by simp) (hxs b (by simp))
    omega
  · rw [List.mem_singleton.1 hx]

theorem InOrder.head_lt_last {xs : List Token} (h : InOrder xs) (hxs : ∀ x ∈ xs, x.kind ≠ .eof)
    {a b : Token} (ha : xs.head? = some a) (hb : xs.getLast? = some b) : a.offset < b.stop := by
  have ha' : a ∈ xs := List.mem_of_head? ha
  have h1 := h.le_last hxs hb a ha'
  have h2 := h.1 a ha' (hxs a ha')
  omega

theorem InOrder.before {L A B : List Token} (h : InOrder L) (hL : L = A ++ B) :
    ∀ a ∈ A, ∀ b ∈ B, a.stop ≤ b.offset := by
  subst hL
  exact (List.pairwise_append.1 h.2).2.2

namespace Lexer

theorem Run.inOrder {l l' : Lexer} {xs : List Token} (h : Run l xs l') :
    InOrder xs ∧ ∀ t ∈ xs, l.pos ≤ t.offset ∧ t.stop ≤ l'.pos := by
  induction h with
  | refl l => exact ⟨⟨by simp, .nil⟩, by simp⟩
  | @step l l1 l2 t ts hs hr ih =>
    obtain ⟨B, -, -, hoff, hle, hstop, hlt⟩ := step_consumes hs
    obtain ⟨⟨hlt', hpw⟩, hbounds⟩ := ih
    obtain ⟨C, -, hpos⟩ := hr.consumes
    refine ⟨⟨?_, List.Pairwise.cons (fun u hu => hstop ▸ (hbounds u hu).1) hpw⟩, ?_⟩
    · intro u hu
      rcases List.mem_cons.1 hu with rfl | hu
      · exact hlt
      · exact hlt' u hu
    · intro u hu
      rcases List.mem_cons.1 hu with rfl | hu
      · omega
      · have := hbounds u hu
        omega

theorem Run.stop_last {l l' : Lexer} {xs : List Token} (h : Run l xs l') {b : Token}
    (hb : xs.getLast? = some b) : b.stop = l'.pos := by
  induction h with
  | refl l => cases hb
  | @step l l1 l2 t ts hs hr ih =>
    cases ts with
    | nil =>
      cases hr
      obtain rfl : t = b := by simpa using hb
      obtain ⟨B, -, -, -, -, hstop, -⟩ := step_consumes hs
      exact hstop
    | cons u us => exact ih (by simpa using hb)

end Lexer

theorem tokenize_inOrder (s : String) :
    InOrder (tokenize s) ∧ ∀ t ∈ tokenize s, t.stop ≤ s.utf8ByteSize := by
  obtain ⟨l', hrun, -⟩ : ∃ l', Lexer.Run (Lexer.start s) (tokenize s) l' ∧ l'.tokens = [] :=
    Lexer.run_of_tokens (by rw [List.append_nil, tokenize_eq_tokens])
  obtain ⟨hord, hbounds⟩ := hrun.inOrder
  obtain ⟨B, hB, hpos⟩ := hrun.consumes
  have hle : l'.pos ≤ s.utf8ByteSize := by
    rw [utf8ByteSize_eq_utf8Length]
    simp only [Lexer.start] at hB hpos
    rw [hB, utf8Length_append, hpos]
    omega
  exact ⟨hord, fun t ht => Nat.le_trans (hbounds t ht).2 hle⟩

/-! ### The forms inside a form -/

/-- The forms directly inside a form, in the order they were read: the items of a collection,
the keys and values of a map in turn, and the value of a tagged literal. -/
def Form.children : Form → List Form
  | .list items _ | .vector items _ | .set items _ => items
  | .map pairs _ | .nsMap _ pairs _ => flatPairs pairs
  | .tagged _ value _ => [value]
  | _ => []

theorem Form.pairsNodes_eq (ps : List (Form × Form)) :
    Form.pairsNodes ps = Form.listNodes (flatPairs ps) := by
  induction ps with
  | nil => rfl
  | cons p ps ih =>
    obtain ⟨k, v⟩ := p
    simp [flatPairs, ih, List.append_assoc]

theorem Form.mem_nodes {n f : Form} :
    n ∈ f.nodes ↔ n = f ∨ ∃ c ∈ f.children, n ∈ c.nodes := by
  cases f <;> simp [Form.children, Form.pairsNodes_eq, mem_listNodes]

def Encloses (T : List Token) (o c : TokenKind) (sp : Span) : Prop :=
  ∃ x ∈ T, ∃ y ∈ T, x.kind = o ∧ y.kind = c ∧ sp = ⟨x.offset, y.stop⟩

/-- The tokens that give a node its span: the opener and the closer of a collection, the tag of
a tagged literal, whose span ends with its value's, and the token of an atom. -/
def Delimits (T : List Token) : Form → Prop
  | .list _ sp => Encloses T .lparen .rparen sp
  | .vector _ sp => Encloses T .lbracket .rbracket sp
  | .map _ sp => Encloses T .lbrace .rbrace sp
  | .set _ sp => Encloses T .setOpen .rbrace sp
  | .nsMap _ _ sp => Encloses T .nsMapOpen .rbrace sp
  | .tagged _ value sp => ∃ t ∈ T, t.kind = .tag ∧ t.offset = sp.start ∧ value.span.stop = sp.stop
  | f => ∃ t ∈ T, t.kind.isAtom = true ∧ f.span = ⟨t.offset, t.stop⟩

/-- How a node stands in the tokens `T` of its text: its span is not empty, the forms inside it
lie within it, one after another, and tokens of `T` delimit it. -/
def NodeSpans (T : List Token) (n : Form) : Prop :=
  n.span.start < n.span.stop ∧
    (∀ c ∈ n.children, n.span.start ≤ c.span.start ∧ c.span.stop ≤ n.span.stop) ∧
    n.children.Pairwise (fun a b => a.span.stop ≤ b.span.start) ∧ Delimits T n

theorem Encloses.mono {T T' : List Token} {o c : TokenKind} {sp : Span} (h : Encloses T o c sp)
    (hT : ∀ x ∈ T, x ∈ T') : Encloses T' o c sp := by
  obtain ⟨x, hx, y, hy, h⟩ := h
  exact ⟨x, hT x hx, y, hT y hy, h⟩

theorem NodeSpans.mono {T T' : List Token} {n : Form} (h : NodeSpans T n)
    (hT : ∀ x ∈ T, x ∈ T') : NodeSpans T' n := by
  obtain ⟨h1, h2, h3, h4⟩ := h
  refine ⟨h1, h2, h3, ?_⟩
  cases n
  case list | vector | map | set | nsMap => exact Encloses.mono h4 hT
  all_goals
    obtain ⟨t, ht, h⟩ := h4
    exact ⟨t, hT t ht, h⟩

section

variable {cx : ReadContext}

theorem atom_shape {t : Token} {f : Form} (h : atom cx t = .ok f) :
    f.span = ⟨t.offset, t.stop⟩ ∧ f.children = [] ∧ ∀ T, t ∈ T → Delimits T f := by
  have hat := atom_ok_isAtom h
  unfold atom at h
  cases hk : t.kind <;> simp only [hk] at h hat
  all_goals (try split at h) <;> cases h <;>
    exact ⟨rfl, rfl, fun T hT => ⟨t, hT, by rw [hk]; rfl, rfl⟩⟩

theorem collection_shape {o : Token} {items : List Form} {sp : Span} {f : Form}
    (h : collection cx o items sp = .ok f) : f.span = sp ∧ f.children = items := by
  unfold collection at h
  split at h
  case h_4 | h_5 =>
    split at h
    · rename_i hp
      cases h
      exact ⟨rfl, flatPairs_of_pairUp hp⟩
    · cases h
  all_goals
    cases h
    exact ⟨rfl, rfl⟩

theorem collection_delimits {o c : Token} {items : List Form} {f : Form} {T : List Token}
    (h : collection cx o items ⟨o.offset, c.stop⟩ = .ok f) (ho : o.kind.isOpen = true)
    (hc : c.kind = o.kind.closer.getD .rparen) (hoT : o ∈ T) (hcT : c ∈ T) : Delimits T f := by
  cases hk : o.kind <;> simp only [hk, TokenKind.isOpen, reduceCtorEq] at ho
  all_goals simp only [collection, hk] at h
  all_goals
    (try split at h) <;> cases h
    exact ⟨o, hoT, c, hcT, hk, by rw [hc, hk]; rfl, rfl⟩

mutual

/-- A form read from tokens spans from the start of the first token it consumed to the end of
the last. -/
theorem ReadsForm.span {d : Nat} {ts xs r : List Token} {f : Form} (h : ReadsForm cx d ts f r)
    (hts : ts = xs ++ r) :
    ∃ a b, xs.head? = some a ∧ xs.getLast? = some b ∧ f.span = ⟨a.offset, b.stop⟩ := by
  match ts with
  | [] => exact absurd h readsForm_nil
  | t :: rest =>
    obtain ⟨xs1, rfl, hrest⟩ := exists_cons_of_append hts h.length_lt
    rcases readsForm_cons_iff.1 h with ⟨-, -, hI⟩ | ⟨-, -, r1, hS, -, v, hV, rfl⟩ |
      ⟨-, -, hA, rfl⟩
    · obtain ⟨b, hb, -, items, hC⟩ := hI.span hrest
      exact ⟨t, b, rfl, by simp [List.getLast?_cons, hb], (collection_shape hC).1⟩
    · -- the skipped tokens come first, then those of the value
      obtain ⟨ys, zs, rfl, rfl⟩ := exists_split_of_suffix (hrest ▸ hS.suffix) hV.suffix
      have := hS.length_le
      obtain ⟨a, b, -, hb, hspan⟩ := hV.span rfl
      exact ⟨t, b, rfl, by simp [List.getLast?_cons, List.getLast?_append, hb], by rw [hspan]; rfl⟩
    · obtain rfl : xs1 = [] := by
        simpa using hrest
      exact ⟨t, t, rfl, rfl, (atom_shape hA).1⟩
termination_by 3 * ts.length
decreasing_by all_goals (simp only [List.length_cons]; omega)

theorem ReadsItems.span {opener : Token} {d : Nat} {acc : List Form} {ts xs r : List Token}
    {f : Form} (h : ReadsItems cx opener d acc ts f r) (hts : ts = xs ++ r) :
    ∃ b, xs.getLast? = some b ∧ b.kind = opener.kind.closer.getD .rparen ∧
      ∃ items, collection cx opener items ⟨opener.offset, b.stop⟩ = .ok f := by
  obtain ⟨t, rest, hS, ⟨hc, hC, rfl⟩ | ⟨-, -, -, i, ts2, hF, hI⟩⟩ := readsItems_iff.1 h
  · -- the skipped tokens, then the closer
    obtain ⟨ys, zs, rfl, hz⟩ := exists_split_of_suffix (hts ▸ hS.suffix) (List.suffix_cons t r)
    obtain rfl : zs = [t] := List.append_cancel_right (hz.symm : zs ++ r = [t] ++ r)
    exact ⟨t, by simp, hc, _, hC⟩
  · -- the skipped tokens, an item, then the items after it
    obtain ⟨ys, zs, rfl, hzs⟩ :=
      exists_split_of_suffix (hts ▸ hS.suffix) (hI.suffix.trans hF.suffix)
    obtain ⟨zs1, zs2, rfl, rfl⟩ := exists_split_of_suffix (hzs ▸ hF.suffix) hI.suffix
    have := hS.length_le
    have := hF.length_lt
    obtain ⟨b, hb, hbk, hC⟩ := hI.span rfl
    exact ⟨b, by simp [List.getLast?_append, hb], hbk, hC⟩
termination_by 3 * ts.length + 2
decreasing_by all_goals omega

end

theorem ReadsForm.head_ne_discard {d : Nat} {t : Token} {rest r : List Token} {f : Form}
    (h : ReadsForm cx d (t :: rest) f r) : t.kind ≠ .discard := by
  intro hk
  rcases readsForm_cons_iff.1 h with ⟨hopen, -⟩ | ⟨htag, -⟩ | ⟨-, -, hA, -⟩
  · rw [hk] at hopen
    exact absurd hopen (by decide)
  · rw [hk] at htag
    exact absurd htag (by decide)
  · have := atom_ok_isAtom hA
    rw [hk] at this
    exact absurd this (by decide)

theorem ReadsItems.children {opener : Token} {d : Nat} {acc : List Form} {ts xs r : List Token}
    {f : Form} (h : ReadsItems cx opener d acc ts f r) (hts : ts = xs ++ r) (hord : InOrder xs) :
    ∃ news b, f.children = acc.reverse ++ news ∧ xs.getLast? = some b ∧
      (∀ c ∈ news, (∀ x ∈ xs.head?, x.offset ≤ c.span.start) ∧ c.span.stop ≤ b.offset) ∧
      news.Pairwise (fun c c' => c.span.stop ≤ c'.span.start) := by
  have hne : ∀ x ∈ xs, x.kind ≠ .eof := fun x hx => (h.settled hts x hx).1
  obtain ⟨t, rest, hS, ⟨hc, hC, rfl⟩ | ⟨-, -, -, i, ts2, hF, hI⟩⟩ := readsItems_iff.1 h
  · -- the closer: no more items
    obtain ⟨ys, zs, rfl, hz⟩ := exists_split_of_suffix (hts ▸ hS.suffix) (List.suffix_cons t r)
    obtain rfl : zs = [t] := List.append_cancel_right (hz.symm : zs ++ r = [t] ++ r)
    exact ⟨[], t, by rw [(collection_shape hC).2, List.append_nil], by simp, by simp, .nil⟩
  · -- an item, then the items after it
    obtain ⟨ys, zs, rfl, hzs⟩ :=
      exists_split_of_suffix (hts ▸ hS.suffix) (hI.suffix.trans hF.suffix)
    obtain ⟨zs1, zs2, rfl, rfl⟩ := exists_split_of_suffix (hzs ▸ hF.suffix) hI.suffix
    have := hS.length_le
    have := hF.length_lt
    obtain ⟨news, b, hch, hb, hnews, hpw⟩ :=
      hI.children rfl (hord.sublist (List.IsInfix.sublist ⟨ys ++ zs1, [], by simp⟩))
    obtain ⟨a1, b1, ha1, hb1, hspan⟩ := hF.span (hzs.trans (List.append_assoc ..))
    obtain ⟨z, zs2', rfl⟩ : ∃ z zs2', zs2 = z :: zs2' :=
      List.exists_cons_of_ne_nil (by rintro rfl; cases hb)
    have hbefore := hord.before (List.append_assoc ..).symm
    have hb1 : b1 ∈ ys ++ zs1 := List.mem_append_right _ (List.mem_of_getLast? hb1)
    have hb1z : b1.stop ≤ z.offset := hbefore b1 hb1 z (List.mem_cons_self ..)
    have hb1b : b1.stop ≤ b.offset := hbefore b1 hb1 b (List.mem_of_getLast? hb)
    have hfirst : ∀ x ∈ (ys ++ (zs1 ++ z :: zs2')).head?, ∀ y ∈ ys ++ (zs1 ++ z :: zs2'),
        x.offset ≤ y.offset := fun x hx => hord.head_le hne hx
    refine ⟨i :: news, b, ?_, by simp [List.getLast?_append, hb], fun c hc => ?_, ?_⟩
    · rw [hch, List.reverse_cons, List.append_assoc, List.singleton_append]
    · rcases List.mem_cons.1 hc with rfl | hc
      · rw [hspan]
        exact ⟨fun x hx => hfirst x hx a1 (by simp [List.mem_of_head? ha1]), hb1b⟩
      · obtain ⟨h1, h2⟩ := hnews c hc
        exact ⟨fun x hx => Nat.le_trans (hfirst x hx z (by simp)) (h1 z rfl), h2⟩
    · refine List.Pairwise.cons (fun c hc => ?_) hpw
      rw [hspan]
      exact Nat.le_trans hb1z ((hnews c hc).1 z rfl)
termination_by ts.length
decreasing_by omega

theorem ReadsForm.nodeSpans {d : Nat} {xs r : List Token} {f : Form}
    (h : ReadsForm cx d (xs ++ r) f r) (hord : InOrder xs) : NodeSpans xs f := by
  have hne : ∀ x ∈ xs, x.kind ≠ .eof := fun x hx => (h.settled rfl x hx).1
  obtain ⟨a, b, ha, hb, hspan⟩ := h.span rfl
  have hlt := hord.head_lt_last hne ha hb
  obtain ⟨xs1, rfl⟩ : ∃ xs1, xs = a :: xs1 := List.head?_eq_some_iff.1 ha
  have hafter : ∀ x ∈ xs1, a.stop ≤ x.offset := fun x hx => List.rel_of_pairwise_cons hord.2 hx
  have hat := hord.1 a (List.mem_cons_self ..) (hne a (List.mem_cons_self ..))
  unfold NodeSpans
  rw [hspan]
  rcases readsForm_cons_iff.1 h with ⟨hopen, -, hI⟩ | ⟨htag, -, r1, hS, -, v, hV, rfl⟩ |
    ⟨-, -, hA, -⟩
  · -- a collection: its items lie between its opener and its closer
    obtain ⟨c', hc', hbk, items, hC⟩ := hI.span rfl
    obtain ⟨news, c'', hch, hc'', hnews, hpw⟩ :=
      hI.children rfl (hord.sublist (List.sublist_cons_self a xs1))
    obtain rfl : b = c' := by
      have : (a :: xs1).getLast? = some c' := by simp [List.getLast?_cons, hc']
      exact Option.some.inj (hb.symm.trans this)
    obtain rfl : b = c'' := Option.some.inj (hc'.symm.trans hc'')
    obtain ⟨x, xs1', rfl⟩ : ∃ x xs1', xs1 = x :: xs1' :=
      List.exists_cons_of_ne_nil (by rintro rfl; cases hc')
    have hchn : f.children = news := by simpa using hch
    have hbt := hord.1 b (List.mem_of_getLast? hb) (hne b (List.mem_of_getLast? hb))
    refine ⟨hlt, fun c hc => ?_, hchn ▸ hpw,
      collection_delimits hC hopen hbk (List.mem_cons_self ..) (List.mem_of_getLast? hb)⟩
    obtain ⟨h1, h2⟩ := hnews c (hchn ▸ hc)
    have := h1 x rfl
    have := hafter x (List.mem_cons_self ..)
    constructor <;> dsimp only <;> omega
  · -- a tagged literal: its value after its tag
    obtain ⟨ys, zs, rfl, rfl⟩ := exists_split_of_suffix hS.suffix hV.suffix
    obtain ⟨a2, b2, ha2, -, hspan2⟩ := hV.span rfl
    refine ⟨hlt, fun c hc => ?_, by simp [Form.children],
      ⟨a, List.mem_cons_self .., htag, rfl, rfl⟩⟩
    obtain rfl : c = v := by simpa [Form.children] using hc
    have hvs : c.span.stop = b.stop := congrArg Span.stop hspan
    have := hafter a2 (by simp [List.mem_of_head? ha2])
    rw [hspan2] at hvs ⊢
    constructor <;> dsimp only at hvs ⊢ <;> omega
  · -- an atom: its token
    obtain ⟨-, hch, hdel⟩ := atom_shape hA
    exact ⟨hlt, by simp [hch], by simp [hch], hdel _ (List.mem_cons_self ..)⟩

mutual

/-- Every node of a form read from tokens is itself read, at that depth or deeper, from a
stretch of the tokens consumed. -/
theorem ReadsForm.node_reads {d : Nat} {ts xs r : List Token} {f : Form}
    (h : ReadsForm cx d ts f r) (hts : ts = xs ++ r) :
    ∀ n ∈ f.nodes, ∃ k pre blk post, d ≤ k ∧ xs = pre ++ blk ++ post ∧
      ReadsForm cx k (blk ++ (post ++ r)) n (post ++ r) := by
  intro n hn
  rcases Form.mem_nodes.1 hn with rfl | ⟨c, hc, hnc⟩
  · exact ⟨d, [], xs, [], Nat.le_refl d, by simp, by simpa [← hts] using h⟩
  match ts with
  | [] => exact absurd h readsForm_nil
  | t :: rest =>
    obtain ⟨xs1, rfl, hrest⟩ := exists_cons_of_append hts h.length_lt
    rcases readsForm_cons_iff.1 h with ⟨-, -, hI⟩ | ⟨-, -, r1, hS, -, v, hV, rfl⟩ |
      ⟨-, -, hA, rfl⟩
    · obtain ⟨news, hch, hnews⟩ := hI.node_reads hrest
      obtain ⟨k, pre, blk, post, hk, rfl, hn'⟩ := hnews c (by simpa [hch] using hc) n hnc
      exact ⟨k, t :: pre, blk, post, by omega, by simp, hn'⟩
    · -- the value of a tag
      obtain ⟨ys, zs, rfl, rfl⟩ := exists_split_of_suffix (hrest ▸ hS.suffix) hV.suffix
      have := hS.length_le
      obtain rfl : c = v := by simpa [Form.children] using hc
      obtain ⟨k, pre, blk, post, hk, rfl, hn'⟩ := hV.node_reads rfl n hnc
      exact ⟨k, t :: (ys ++ pre), blk, post, by omega, by simp, hn'⟩
    · simp [(atom_shape hA).2.1] at hc
termination_by 3 * ts.length
decreasing_by all_goals (simp only [List.length_cons]; omega)

theorem ReadsItems.node_reads {opener : Token} {d : Nat} {acc : List Form} {ts xs r : List Token}
    {f : Form} (h : ReadsItems cx opener d acc ts f r) (hts : ts = xs ++ r) :
    ∃ news, f.children = acc.reverse ++ news ∧ ∀ c ∈ news, ∀ n ∈ c.nodes,
      ∃ k pre blk post, d + 1 ≤ k ∧ xs = pre ++ blk ++ post ∧
        ReadsForm cx k (blk ++ (post ++ r)) n (post ++ r) := by
  obtain ⟨t, rest, hS, ⟨hc, hC, rfl⟩ | ⟨-, -, -, i, ts2, hF, hI⟩⟩ := readsItems_iff.1 h
  · exact ⟨[], by rw [(collection_shape hC).2, List.append_nil], by simp⟩
  · obtain ⟨ys, zs, rfl, hzs⟩ :=
      exists_split_of_suffix (hts ▸ hS.suffix) (hI.suffix.trans hF.suffix)
    obtain ⟨zs1, zs2, rfl, rfl⟩ := exists_split_of_suffix (hzs ▸ hF.suffix) hI.suffix
    have := hS.length_le
    have := hF.length_lt
    obtain ⟨news, hch, hnews⟩ := hI.node_reads rfl
    refine ⟨i :: news, by rw [hch]; simp, fun c hc n hn => ?_⟩
    rcases List.mem_cons.1 hc with rfl | hc
    · obtain ⟨k, pre, blk, post, hk, rfl, hn'⟩ :=
        hF.node_reads (hzs.trans (List.append_assoc ..)) n hn
      exact ⟨k, ys ++ pre, blk, post ++ zs2, hk, by simp, by simpa using hn'⟩
    · obtain ⟨k, pre, blk, post, hk, rfl, hn'⟩ := hnews c hc n hn
      exact ⟨k, ys ++ zs1 ++ pre, blk, post, hk, by simp, hn'⟩
termination_by 3 * ts.length + 2
decreasing_by all_goals omega

end

end

/-! ### The spans of a read -/

/-- A node read from a stretch of the tokens of a text has its span faithful to the text: it
lies within the text, stands among the tokens as `NodeSpans` says, and the text of the span reads
on its own to the node moved to start at zero. -/
theorem node_span_faithful {s : String} {d k : Nat} {L blk M : List Token} {n : Form}
    (hT : tokenize s = L ++ blk ++ M)
    (hn : ReadsForm ⟨s, s.utf8ByteSize, d⟩ k (blk ++ M) n M) :
    n.span.stop ≤ s.utf8ByteSize ∧ NodeSpans (tokenize s) n ∧
      ∃ P B Q, s.toList = P ++ B ++ Q ∧ utf8Length P = n.span.start ∧
        utf8Length B = n.span.stop - n.span.start ∧
        read (String.ofList B) d = .ok (n.mapPos (· - n.span.start)) := by
  obtain ⟨hord, hle⟩ := tokenize_inOrder s
  have hsub : ∀ x ∈ blk, x ∈ tokenize s := fun x hx => by
    rw [hT]
    simp [hx]
  have hblk : InOrder blk := hord.sublist (List.IsInfix.sublist ⟨L, M, hT.symm⟩)
  have hset := hn.settled rfl
  obtain ⟨a, b, ha, hb, hspan⟩ := hn.span rfl
  obtain ⟨blk', rfl⟩ : ∃ blk', blk = a :: blk' := List.head?_eq_some_iff.1 ha
  -- the scanner's runs up to the node's tokens and over them
  obtain ⟨l1, hrun1, htok1⟩ : ∃ l1, Lexer.Run (Lexer.start s) L l1 ∧
      l1.tokens = (a :: blk') ++ M :=
    Lexer.run_of_tokens (by rw [← tokenize_eq_tokens, hT, List.append_assoc])
  obtain ⟨l2, hrun2, -⟩ : ∃ l2, Lexer.Run l1 (a :: blk') l2 ∧ l2.tokens = M :=
    Lexer.run_of_tokens htok1
  obtain ⟨C, hC, hpos1⟩ := hrun1.consumes
  obtain ⟨T, B, hrest, hoff, hpos2, htoks⟩ := hrun2.tokens_slice fun x hx => (hset x hx).1
  have hstop := hrun2.stop_last hb
  simp only [Lexer.start] at hC hpos1
  rw [hspan]
  dsimp only
  refine ⟨hle b (hsub b (List.mem_of_getLast? hb)), (hn.nodeSpans hblk).mono hsub,
    C ++ T, B, l2.rest, by rw [hC, hrest]; simp, by rw [utf8Length_append]; omega, by omega, ?_⟩
  -- the text of the span scans to the node's tokens moved, and those read to the node moved
  have hmax : (⟨String.ofList B, (String.ofList B).utf8ByteSize, d⟩ : ReadContext).maxDepth =
      (⟨s, s.utf8ByteSize, d⟩ : ReadContext).maxDepth := rfl
  have hF : ReadsForm ⟨String.ofList B, (String.ofList B).utf8ByteSize, d⟩ 0
      ((a :: blk').map (Token.mapPos (· - a.offset)) ++ [mkToken .eof [] [] (utf8Length B)])
      (n.mapPos (· - a.offset)) [mkToken .eof [] [] (utf8Length B)] :=
    hn.mapPos rfl (Nat.zero_le k) hmax _
  refine read_ok_iff.2 ?_
  rw [tokenize_eq_tokens, htoks]
  exact ⟨_, skips_self hn.head_ne_discard, (hset a (List.mem_cons_self ..)).1, _, hF, _,
    skips_self (by simp [peekKind, mkToken]), rfl⟩

/-- The spans of a form read from a text are faithful to it. Every node lies within the text,
its span is not empty, the forms inside it lie within it one after another (a map's key before
its value), a collection spans from its opener to its closer, a tagged literal from its tag to
the end of its value, an atom over its token, and the text of its span reads on its own, at the
same nesting limit, to the node with every span moved back by the span's start. -/
theorem read_spans_faithful {s : String} {d : Nat} {f : Form} (h : read s d = .ok f) :
    ∀ n ∈ f.nodes, n.span.stop ≤ s.utf8ByteSize ∧ NodeSpans (tokenize s) n ∧
      ∃ P B Q, s.toList = P ++ B ++ Q ∧ utf8Length P = n.span.start ∧
        utf8Length B = n.span.stop - n.span.start ∧
        read (String.ofList B) d = .ok (n.mapPos (· - n.span.start)) := by
  obtain ⟨r1, hS, -, r2, hF, -⟩ := read_ok_iff.1 h
  obtain ⟨ys, hys⟩ := hS.suffix
  obtain ⟨zs, hzs⟩ := hF.suffix
  intro n hn
  obtain ⟨k, pre, blk, post, -, rfl, hn'⟩ := hF.node_reads hzs.symm n hn
  refine node_span_faithful (L := ys ++ pre) (M := post ++ r2) ?_ hn'
  rw [← hys, ← hzs]
  simp

/-- The nodes of a vector with a discarded item stand in its text as they were read. -/
theorem read_vector_spans :
    ∃ f, read "[1 #_ 2 3]" 128 = .ok f ∧ f.nodes.length = 3 ∧
      ∀ n ∈ f.nodes, NodeSpans (tokenize "[1 #_ 2 3]") n := by
  have h : read "[1 #_ 2 3]" 128 = .ok (.vector [.int 1 ⟨1, 2⟩, .int 3 ⟨8, 9⟩] ⟨0, 10⟩) := by
    with_unfolding_all rfl
  exact ⟨_, h, rfl, fun n hn => (read_spans_faithful h n hn).2.1⟩

end Xtql.Edn
