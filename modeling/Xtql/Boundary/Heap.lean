import Xtql.Boundary

/-!
The buffers the C entry points hand to the host, with the counter of live buffers: one up for
each buffer handed out, one down for each non-null pointer handed back, checked or not.
-/

namespace Xtql

abbrev Ptr := Option Nat

def ptrBuffers (p : Ptr) : Nat := if p.isSome then 1 else 0

/-- A compile result as the host receives it: its strings stand as pointers to buffers. -/
structure CompileResultC where
  status : Status
  json : Ptr
  errorMsg : Ptr
  errorOffset : Nat
  errorLine : Nat
  errorColumn : Nat
deriving DecidableEq, Repr

def CompileResultC.buffers (r : CompileResultC) : Nat := ptrBuffers r.json + ptrBuffers r.errorMsg

/-- The live-buffer counter and the buffers the host holds, each an address with its text. -/
structure Heap where
  live : Nat
  held : List (Nat × String)
deriving DecidableEq, Repr

namespace Heap

def init (live : Nat) : Heap := ⟨live, []⟩

def addresses (h : Heap) : List Nat := h.held.map Prod.fst

def fresh (h : Heap) : Nat := h.addresses.foldr max 0 + 1

/-- Moves a string into a new buffer and counts it live; no string, no buffer. -/
def own (h : Heap) : Option String → Ptr × Heap
  | none => (none, h)
  | some s => (some h.fresh, ⟨h.live + 1, (h.fresh, s) :: h.held⟩)

/-- Takes a buffer back: a null pointer is ignored; any other frees the buffer at its address
and counts one buffer fewer. -/
def release (h : Heap) : Ptr → Heap
  | none => h
  | some a => ⟨h.live - 1, h.held.eraseP (·.1 == a)⟩

def compile (h : Heap) (query : Option (List UInt8)) : CompileResultC × Heap :=
  let r := compileCString query
  let (json, h1) := h.own r.json
  let (msg, h2) := h1.own r.errorMsg
  (⟨r.status, json, msg, r.errorOffset, r.errorLine, r.errorColumn⟩, h2)

def compileToJson (h : Heap) (query : Option (List UInt8)) : Ptr × Heap :=
  h.own (compileCStringToJson query)

def resultFree (h : Heap) (r : CompileResultC) : Heap := (h.release r.json).release r.errorMsg

end Heap

/-- A call the host makes at the C boundary. -/
inductive Call where
  | compile (query : Option (List UInt8))
  | compileToJson (query : Option (List UInt8))
  | resultFree (r : CompileResultC)
  | releaseOutput (p : Ptr)
  | liveBuffers
deriving DecidableEq, Repr

inductive Reply where
  | result (r : CompileResultC)
  | output (p : Ptr)
  | count (n : Nat)
  | done
deriving DecidableEq, Repr

def Reply.handed : Reply → Nat
  | .result r => r.buffers
  | .output p => ptrBuffers p
  | _ => 0

def Call.handedBack : Call → Nat
  | .resultFree r => r.buffers
  | .releaseOutput p => ptrBuffers p
  | _ => 0

namespace Heap

def call (h : Heap) : Call → Reply × Heap
  | .compile q => let (r, h') := h.compile q; (.result r, h')
  | .compileToJson q => let (p, h') := h.compileToJson q; (.output p, h')
  | .resultFree r => (.done, h.resultFree r)
  | .releaseOutput p => (.done, h.release p)
  | .liveBuffers => (.count h.live, h)

def run (h : Heap) : List Call → Heap
  | [] => h
  | c :: cs => (h.call c).2.run cs

def Holds (h : Heap) : Ptr → Prop
  | none => True
  | some a => a ∈ h.addresses

instance (h : Heap) : (p : Ptr) → Decidable (h.Holds p)
  | none => isTrue trivial
  | some a => inferInstanceAs (Decidable (a ∈ h.addresses))

/-- The release contract for one call: each pointer handed back is NULL or a buffer the host
holds, and the two pointers of a result are not the same buffer. -/
def Accepts (h : Heap) : Call → Prop
  | .resultFree r => h.Holds r.json ∧ (h.release r.json).Holds r.errorMsg
  | .releaseOutput p => h.Holds p
  | _ => True

instance (h : Heap) : (c : Call) → Decidable (h.Accepts c)
  | .compile _ | .compileToJson _ | .liveBuffers => isTrue trivial
  | .resultFree r => inferInstanceAs (Decidable (h.Holds r.json ∧ (h.release r.json).Holds r.errorMsg))
  | .releaseOutput p => inferInstanceAs (Decidable (h.Holds p))

/-- The release contract along a sequence of calls: every pointer handed back was handed out
by an earlier call and not handed back since. -/
def Admits (h : Heap) : List Call → Prop
  | [] => True
  | c :: cs => h.Accepts c ∧ (h.call c).2.Admits cs

instance instDecidableAdmits : (h : Heap) → (cs : List Call) → Decidable (h.Admits cs)
  | _, [] => isTrue trivial
  | h, c :: cs =>
    have := instDecidableAdmits (h.call c).2 cs
    inferInstanceAs (Decidable (h.Accepts c ∧ (h.call c).2.Admits cs))

end Heap

end Xtql
