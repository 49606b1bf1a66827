import Mathlib.Data.List.MinMax
import Xtql.Boundary.Heap
import Xtql.Proofs.Compile.Boundary

/-!
Live-buffer accounting at the C boundary: along any calls that keep the release contract, the
counter is its start value plus the buffers the host holds (`live_buffers_balance`).
-/

namespace Xtql

@[simp] theorem ptrBuffers_none : ptrBuffers none = 0 := rfl

@[simp] theorem ptrBuffers_some (a : Nat) : ptrBuffers (some a) = 1 := rfl

theorem documentedResult_buffers (a : Option (Except CompileError Json)) :
    (documentedResult a).buffers = 1 := by
  rcases a with _ | (e | j)
  · rfl
  · rcases e with _ | _ | _ <;> rfl
  · rfl

theorem compileCString_buffers (p : Option (List UInt8)) : (compileCString p).buffers = 1 := by
  rw [compileCString_eq_documentedResult]
  exact documentedResult_buffers _

namespace Heap

variable {h : Heap} {base : Nat}

/-- The counter stands at `base` plus the buffers the host holds, and no two of these share an
address. -/
structure Balanced (h : Heap) (base : Nat) : Prop where
  live_eq : h.live = base + h.held.length
  nodup : h.addresses.Nodup

theorem fresh_not_mem (h : Heap) : h.fresh ∉ h.addresses := by
  intro hm
  have hle : h.fresh ≤ h.addresses.foldr max 0 := List.le_max_of_le' 0 hm (Nat.le_refl _)
  simp only [fresh] at hle
  omega

/-! ### Handing a buffer out -/

@[simp] theorem own_none (h : Heap) : h.own none = (none, h) := rfl

theorem live_own (h : Heap) (s : Option String) :
    (h.own s).2.live = h.live + ptrBuffers (h.own s).1 := by
  cases s <;> rfl

theorem ptrBuffers_own (h : Heap) (s : Option String) :
    ptrBuffers (h.own s).1 = if s.isSome then 1 else 0 := by
  cases s <;> rfl

theorem Balanced.own (hb : h.Balanced base) (s : Option String) : (h.own s).2.Balanced base := by
  cases s with
  | none => exact hb
  | some s =>
    refine ⟨?_, ?_⟩
    · simp only [Heap.own, List.length_cons, hb.live_eq]
      omega
    · exact List.nodup_cons.2 ⟨h.fresh_not_mem, hb.nodup⟩

/-! ### Taking a buffer back -/

theorem length_held_pos {a : Nat} (ha : a ∈ h.addresses) : 0 < h.held.length := by
  cases hh : h.held with
  | nil => simp [addresses, hh] at ha
  | cons _ _ => simp

theorem live_release (hb : h.Balanced base) {p : Ptr} (hp : h.Holds p) :
    (h.release p).live + ptrBuffers p = h.live := by
  cases p with
  | none => rfl
  | some a =>
    have hpos := length_held_pos (h := h) hp
    simp only [release, ptrBuffers_some, hb.live_eq]
    omega

theorem Balanced.release (hb : h.Balanced base) {p : Ptr} (hp : h.Holds p) :
    (h.release p).Balanced base := by
  cases p with
  | none => exact hb
  | some a =>
    -- the freed buffer is one of those held, so exactly one entry goes
    obtain ⟨e, he, hea⟩ := List.mem_map.1 (show a ∈ h.addresses from hp)
    have hlen : (h.held.eraseP (·.1 == a)).length = h.held.length - 1 :=
      List.length_eraseP_of_mem he (by simp [hea])
    have hpos := length_held_pos (h := h) hp
    refine ⟨?_, ?_⟩
    · simp only [Heap.release, hlen, hb.live_eq]
      omega
    · exact hb.nodup.sublist (List.eraseP_sublist.map Prod.fst)

/-! ### One call -/

theorem compile_buffers (h : Heap) (q : Option (List UInt8)) : (h.compile q).1.buffers = 1 := by
  have h1 := compileCString_buffers q
  simp only [CompileResult.buffers] at h1
  simp only [compile, CompileResultC.buffers, ptrBuffers_own]
  exact h1

theorem live_compile (h : Heap) (q : Option (List UInt8)) :
    (h.compile q).2.live = h.live + (h.compile q).1.buffers := by
  simp only [compile, CompileResultC.buffers, live_own]
  omega

theorem Balanced.compile (hb : h.Balanced base) (q : Option (List UInt8)) :
    (h.compile q).2.Balanced base :=
  (hb.own _).own _

theorem live_resultFree (hb : h.Balanced base) {r : CompileResultC}
    (hr : h.Accepts (.resultFree r)) : (h.resultFree r).live + r.buffers = h.live := by
  obtain ⟨hjson, hmsg⟩ := hr
  have h1 := live_release hb hjson
  have h2 := live_release (hb.release hjson) hmsg
  simp only [resultFree, CompileResultC.buffers]
  omega

theorem Balanced.call (hb : h.Balanced base) {c : Call} (hc : h.Accepts c) :
    (h.call c).2.Balanced base := by
  cases c with
  | compile q => exact hb.compile q
  | compileToJson q => exact hb.own _
  | resultFree r => exact (hb.release hc.1).release hc.2
  | releaseOutput p => exact hb.release hc
  | liveBuffers => exact hb

/-- One call that keeps the release contract moves the counter by the buffers it hands out less
the pointers it takes back. -/
theorem live_call (hb : h.Balanced base) {c : Call} (hc : h.Accepts c) :
    (h.call c).2.live + c.handedBack = h.live + (h.call c).1.handed := by
  cases c with
  | compile q => exact live_compile h q
  | compileToJson q => exact live_own h _
  | resultFree r => exact live_resultFree hb hc
  | releaseOutput p => exact live_release hb hc
  | liveBuffers => rfl

/-! ### A run -/

theorem Balanced.run (hb : h.Balanced base) {cs : List Call} (hcs : h.Admits cs) :
    (h.run cs).Balanced base := by
  induction cs generalizing h with
  | nil => exact hb
  | cons c cs ih => exact ih (hb.call hcs.1) hcs.2

theorem Admits.take {cs : List Call} (hcs : h.Admits cs) (n : Nat) : h.Admits (cs.take n) := by
  induction cs generalizing h n with
  | nil => simp [Admits]
  | cons c cs ih =>
    cases n with
    | zero => trivial
    | succ n => exact ⟨hcs.1, ih hcs.2 n⟩

theorem Admits.accepts_get {cs : List Call} (hcs : h.Admits cs) {n : Nat} {c : Call}
    (hc : cs[n]? = some c) : (h.run (cs.take n)).Accepts c := by
  induction cs generalizing h n with
  | nil => simp at hc
  | cons c' cs ih =>
    cases n with
    | zero =>
      simp only [List.getElem?_cons_zero, Option.some.injEq] at hc
      subst hc
      exact hcs.1
    | succ n => exact ih hcs.2 (by simpa using hc)

theorem balanced_init (base : Nat) : (init base).Balanced base := ⟨rfl, List.nodup_nil⟩

end Heap

/-- Live-buffer accounting over any run of the C entry points that keeps the release contract.
After every call the counter is its start value plus the buffers the host holds (at distinct
addresses), so it never drops below the start value and is back at it once every buffer has been
handed back; a compile result always holds exactly one buffer; and the next call moves the counter
by the buffers its reply hands out less the non-null pointers it hands back. -/
theorem live_buffers_balance (base : Nat) (cs : List Call) (hcs : (Heap.init base).Admits cs)
    (n : Nat) :
    let h := (Heap.init base).run (cs.take n)
    h.live = base + h.held.length ∧ h.addresses.Nodup ∧ base ≤ h.live ∧
      (h.held = [] → h.live = base) ∧ (∀ q, (h.compile q).1.buffers = 1) ∧
      ∀ c ∈ cs[n]?, (h.call c).2.live + c.handedBack = h.live + (h.call c).1.handed := by
  intro h
  have hb : h.Balanced base := (Heap.balanced_init base).run (hcs.take n)
  refine ⟨hb.live_eq, hb.nodup, ?_, ?_, h.compile_buffers, ?_⟩
  · rw [hb.live_eq]
    omega
  · intro hheld
    rw [hb.live_eq, hheld, List.length_nil, Nat.add_zero]
  · intro c hc
    exact Heap.live_call hb (hcs.accepts_get hc)

/-- A host compiles a null query, asks for its JSON and gets NULL, then frees the first result:
the third call hands back the one buffer the first handed out. -/
theorem live_buffers_null_query :
    (Heap.init 0).Admits [.compile none, .compileToJson none,
        .resultFree ⟨.invalidInput, none, some 1, 0, 0, 0⟩, .liveBuffers] ∧
      let cs : List Call := [.compile none, .compileToJson none,
        .resultFree ⟨.invalidInput, none, some 1, 0, 0, 0⟩, .liveBuffers]
      let h := (Heap.init 0).run (cs.take 2)
      h.live = 0 + h.held.length ∧ h.addresses.Nodup ∧ 0 ≤ h.live ∧
        (h.held = [] → h.live = 0) ∧ (∀ q, (h.compile q).1.buffers = 1) ∧
        ∀ c ∈ cs[2]?, (h.call c).2.live + c.handedBack = h.live + (h.call c).1.handed := by
  have hcs : (Heap.init 0).Admits [.compile none, .compileToJson none,
      .resultFree ⟨.invalidInput, none, some 1, 0, 0, 0⟩, .liveBuffers] := by
    simp [Heap.Admits, Heap.Accepts, Heap.call, Heap.compile, Heap.compileToJson, Heap.init,
      compileCString_eq_documentedResult, documentedResult, cStringBytes, compileCStringToJson,
      compileInput, Heap.own, Heap.fresh, Heap.addresses, Heap.Holds, Heap.release]
  exact ⟨hcs, live_buffers_balance 0 _ hcs 2⟩

end Xtql
