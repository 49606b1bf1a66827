import Xtql.Proofs.Edn.ReadSteps

/-!
Every float among the nodes of a form read from text is finite.
-/

namespace Xtql.Edn

mutual

/-- A form and every form inside it. -/
@[simp] def Form.nodes : Form → List Form
  | .list items span => .list items span :: Form.listNodes items
  | .vector items span => .vector items span :: Form.listNodes items
  | .map pairs span => .map pairs span :: Form.pairsNodes pairs
  | .set items span => .set items span :: Form.listNodes items
  | .nsMap ns pairs span => .nsMap ns pairs span :: Form.pairsNodes pairs
  | .tagged tag value span => .tagged tag value span :: value.nodes
  | f => [f]

/-- The nodes of forms in order. -/
@[simp] def Form.listNodes : List Form → List Form
  | [] => []
  | f :: fs => f.nodes ++ Form.listNodes fs

/-- The nodes of the keys and values of a map in order. -/
@[simp] def Form.pairsNodes : List (Form × Form) → List Form
  | [] => []
  | (k, v) :: ps => k.nodes ++ v.nodes ++ Form.pairsNodes ps

end

/-- A float form is finite; any other form passes. -/
def Form.FloatFinite : Form → Prop
  | .float x _ => x.isFinite = true
  | _ => True

theorem mem_listNodes {g : Form} {fs : List Form} :
    g ∈ Form.listNodes fs ↔ ∃ f ∈ fs, g ∈ f.nodes := by
  induction fs with
  | nil => simp
  | cons f fs ih => simp [ih]

theorem pairsNodes_of_pairUp {items : List Form} {pairs : List (Form × Form)}
    (h : pairUp items = some pairs) : Form.pairsNodes pairs = Form.listNodes items := by
  match items, h with
  | [], h =>
    simp only [pairUp, Option.some.injEq] at h
    subst h
    rfl
  | k :: v :: rest, h =>
    simp only [pairUp, Option.map_eq_map, Option.map_eq_some_iff] at h
    obtain ⟨ps, hps, rfl⟩ := h
    simp [pairsNodes_of_pairUp hps, List.append_assoc]

variable {cx : ReadContext}

theorem atom_floatsFinite {t : Token} {f : Form} (h : atom cx t = .ok f) :
    ∀ g ∈ f.nodes, g.FloatFinite := by
  cases hkd : t.kind <;> simp only [atom, hkd] at h <;> (try split at h) <;> cases h <;>
    simp [Form.FloatFinite, *]

theorem collection_floatsFinite {opener : Token} {items : List Form} {span : Span} {f : Form}
    (h : collection cx opener items span = .ok f)
    (hi : ∀ g ∈ Form.listNodes items, g.FloatFinite) :
    ∀ g ∈ f.nodes, g.FloatFinite := by
  unfold collection at h
  split at h
  any_goals (cases h; simpa [Form.FloatFinite] using hi)
  all_goals
    split at h
    · cases h
      rename_i hp
      simpa [Form.FloatFinite, pairsNodes_of_pairUp hp] using hi
    · cases h

mutual

theorem ReadsForm.floatsFinite {d : Nat} {ts : List Token} {f : Form} {r : List Token}
    (h : ReadsForm cx d ts f r) : ∀ g ∈ f.nodes, g.FloatFinite := by
  match ts with
  | [] => exact absurd h readsForm_nil
  | t :: rest =>
    rcases readsForm_cons_iff.1 h with ⟨-, -, hI⟩ | ⟨-, -, r1, hS, -, v, hV, rfl⟩ |
      ⟨-, -, hA, -⟩
    · exact hI.floatsFinite (by simp)
    · have := hS.length_le
      exact List.forall_mem_cons.2 ⟨trivial, hV.floatsFinite⟩
    · exact atom_floatsFinite hA
termination_by 3 * ts.length
decreasing_by all_goals (simp only [List.length_cons]; omega)

theorem ReadsItems.floatsFinite {opener : Token} {d : Nat} {acc : List Form} {ts : List Token}
    {f : Form} {r : List Token} (h : ReadsItems cx opener d acc ts f r)
    (hacc : ∀ g ∈ Form.listNodes acc, g.FloatFinite) : ∀ g ∈ f.nodes, g.FloatFinite := by
  obtain ⟨t, rest, hS, ⟨-, hC, -⟩ | ⟨-, -, -, g, ts2, hF, hI⟩⟩ := readsItems_iff.1 h
  · refine collection_floatsFinite hC fun x hx => ?_
    obtain ⟨y, hy, hxy⟩ := mem_listNodes.1 hx
    exact hacc x (mem_listNodes.2 ⟨y, List.mem_reverse.1 hy, hxy⟩)
  · have := hS.length_le
    have := hF.length_lt
    exact hI.floatsFinite (List.forall_mem_append.2 ⟨hF.floatsFinite, hacc⟩)
termination_by 3 * ts.length + 2
decreasing_by all_goals omega

end

/-- Every float of a form read from text is finite. -/
theorem read_floatsFinite {s : String} {d : Nat} {f : Form} (h : read s d = .ok f) :
    ∀ g ∈ f.nodes, g.FloatFinite := by
  obtain ⟨r1, -, -, r2, hF, -⟩ := read_ok_iff.1 h
  exact hF.floatsFinite

end Xtql.Edn
