import CbcExplorer.Concurrent.Interleaving

set_option autoImplicit false

namespace CbcExplorer

open Relation

section Safe

variable {α β : Type} (Write : Int → String → String → Prop) (Reg : Int → String → Prop)

-- what `p` may write and register and returns with, whatever its effects return
def Safe (Post : α → Option (Int × String) → Prop) :
    Prog α → Option (Int × String) → Prop
  | .pure a, head => Post a head
  | .recent k, head => ∀ r, Safe Post (k r) head
  | .create _ _ _ k, head => ∀ n, Safe Post (k n) head
  | .setData v m d k, head => Write v m d ∧ ∀ n, Safe Post (k n) head
  | .post _ _ k, head => ∀ answer, Safe Post (k answer) head
  | .codecMetadata k, head => ∀ raw, Safe Post (k raw) head
  | .sleep _ k, head => Safe Post k head
  | .latest v m k, _ => Reg v m ∧ Safe Post k (some (v, m))
  | .log _ _ k, head => Safe Post k head

variable {Write Reg}

theorem Safe.mono {Post Post' : α → Option (Int × String) → Prop}
    (le : ∀ a head, Post a head → Post' a head) {p : Prog α} {head : Option (Int × String)}
    (safe : Safe Write Reg Post p head) : Safe Write Reg Post' p head := by
  induction p generalizing head with
  | pure a => exact le a head safe
  | recent k ih => exact fun r => ih r (safe r)
  | create n v b k ih => exact fun x => ih x (safe x)
  | setData v m d k ih => exact ⟨safe.1, fun x => ih x (safe.2 x)⟩
  | post url req k ih => exact fun a => ih a (safe a)
  | codecMetadata k ih => exact fun raw => ih raw (safe raw)
  | sleep t k ih => exact ih safe
  | latest v m k ih => exact ⟨safe.1, ih safe.2⟩
  | log l m k ih => exact ih safe

theorem safe_bind (p : Prog α) (f : α → Prog β) (Post : β → Option (Int × String) → Prop)
    (head : Option (Int × String)) :
    Safe Write Reg Post (p >>= f) head ↔
      Safe Write Reg (fun a head => Safe Write Reg Post (f a) head) p head := by
  induction p generalizing head with
  | pure a => rfl
  | recent k ih => exact forall_congr' fun r => ih r head
  | create n v b k ih => exact forall_congr' fun x => ih x head
  | setData v m d k ih => exact and_congr_right' (forall_congr' fun x => ih x head)
  | post url req k ih => exact forall_congr' fun a => ih a head
  | codecMetadata k ih => exact forall_congr' fun raw => ih raw head
  | sleep t k ih => exact ih head
  | latest v m k ih => exact and_congr_right' (ih _)
  | log l m k ih => exact ih head

theorem safe_check {Post : Except String β → Option (Int × String) → Prop}
    {p : Prog (Except String α)} {context : String} {k : α → Prog (Except String β)}
    {head : Option (Int × String)}
    (safe : Safe Write Reg (fun r head =>
      (∀ e, r = .error e → Post (.error (context ++ e)) head) ∧
        ∀ a, r = .ok a → Safe Write Reg Post (k a) head) p head) :
    Safe Write Reg Post (p.check context k) head :=
  (safe_bind p _ Post head).mpr <| safe.mono fun r _ ⟨failed, ok⟩ => by
    cases r with
    | error e => exact failed e rfl
    | ok a => exact ok a rfl

section Effects

variable {head : Option (Int × String)}

@[simp] theorem safe_pure (a : α) {Post : α → Option (Int × String) → Prop} :
    Safe Write Reg Post (pure a) head ↔ Post a head := Iff.rfl

@[simp] theorem safe_recent
    {Post : Option RuntimeVersionRecord → Option (Int × String) → Prop} :
    Safe Write Reg Post Dao.runtimeVersionRecent head ↔ ∀ r, Post r head := Iff.rfl

@[simp] theorem safe_create {Post : Nat → Option (Int × String) → Prop} (name : String)
    (v b : Int) :
    Safe Write Reg Post (Dao.createRuntimeVersion name v b) head ↔ ∀ n, Post n head := Iff.rfl

@[simp] theorem safe_setData {Post : Nat → Option (Int × String) → Prop} (v : Int)
    (m d : String) :
    Safe Write Reg Post (Dao.setRuntimeData v m d) head ↔ Write v m d ∧ ∀ n, Post n head :=
  Iff.rfl

@[simp] theorem safe_post {Post : HttpAnswer → Option (Int × String) → Prop} (url : String)
    (req : RPCRequest) : Safe Write Reg Post (post url req) head ↔ ∀ a, Post a head := Iff.rfl

@[simp] theorem safe_sleep {Post : Unit → Option (Int × String) → Prop} (t : Nat) :
    Safe Write Reg Post (sleep t) head ↔ Post () head := Iff.rfl

@[simp] theorem safe_latest {Post : Unit → Option (Int × String) → Prop} (v : Int)
    (m : String) :
    Safe Write Reg Post (latest v m) head ↔ Reg v m ∧ Post () (some (v, m)) := Iff.rfl

@[simp] theorem safe_info {Post : Unit → Option (Int × String) → Prop} (m : String) :
    Safe Write Reg Post (Logger.info m) head ↔ Post () head := Iff.rfl

@[simp] theorem safe_warning {Post : Unit → Option (Int × String) → Prop} (m : String) :
    Safe Write Reg Post (Logger.warning m) head ↔ Post () head := Iff.rfl

@[simp] theorem safe_error {Post : Unit → Option (Int × String) → Prop} (m : String) :
    Safe Write Reg Post (Logger.error m) head ↔ Post () head := Iff.rfl

end Effects

theorem Safe.step {Post : α → Option (Int × String) → Prop} {env : Env} {p q : Prog α}
    {w w' : World} (safe : Safe Write Reg Post p w.registry.head?)
    (next : p.step env w = some (q, w')) :
    Safe Write Reg Post q w'.registry.head? ∧
      (w'.store = w.store ∨ (∃ n v b, w'.store = (w.store.createRuntimeVersion n v b).2) ∨
        ∃ v m d, Write v m d ∧ w'.store = (w.store.setRuntimeData v m d).2) ∧
      (w'.registry = w.registry ∨ ∃ v m, Reg v m ∧ w'.registry = (v, m) :: w.registry) := by
  cases p <;> simp only [Prog.step, Option.some.injEq, Prod.mk.injEq, reduceCtorEq] at next <;>
    obtain ⟨rfl, rfl⟩ := next
  case recent => exact ⟨safe _, .inl rfl, .inl rfl⟩
  case create n v b k => exact ⟨safe _, .inr (.inl ⟨n, v, b, rfl⟩), .inl rfl⟩
  case setData v m d k => exact ⟨safe.2 _, .inr (.inr ⟨v, m, d, safe.1, rfl⟩), .inl rfl⟩
  case post => exact ⟨safe _, .inl rfl, .inl rfl⟩
  case codecMetadata => exact ⟨safe _, .inl rfl, .inl rfl⟩
  case sleep => exact ⟨safe, .inl rfl, .inl rfl⟩
  case latest v m k => exact ⟨safe.2, .inl rfl, .inr ⟨v, m, safe.1, rfl⟩⟩
  case log => exact ⟨safe, .inl rfl, .inl rfl⟩

end Safe

namespace Sys

variable {α : Type} {env : Env} {Write : Int → String → String → Prop}
  {Reg : Int → String → Prop} {Post : α → Option (Int × String) → Prop}

variable (Write Reg Post) in
def AllSafe (sys : Sys α) : Prop :=
  ∀ p ∈ sys.procs,
    Safe Write Reg Post p.prog p.registry.head? ∧ ∀ e ∈ p.registry, Reg e.1 e.2

theorem AllSafe.step {sys sys' : Sys α} (safe : sys.AllSafe Write Reg Post)
    (h : Step env sys sys') :
    sys'.AllSafe Write Reg Post ∧
      (sys'.store = sys.store ∨
        (∃ n v b, sys'.store = (sys.store.createRuntimeVersion n v b).2) ∨
        ∃ v m d, Write v m d ∧ sys'.store = (sys.store.setRuntimeData v m d).2) := by
  obtain ⟨before, after, p, next⟩ := h
  obtain ⟨safeProg, registered⟩ := safe p (by simp)
  obtain ⟨resumed, store, registry⟩ := safeProg.step next
  refine ⟨fun p' mem => ?_, store⟩
  simp only [List.mem_append, List.mem_cons] at mem
  rcases mem with mem | rfl | mem
  · exact safe p' (by simp [mem])
  · refine ⟨resumed, fun e member => ?_⟩
    simp only [Proc.resume] at member
    rcases registry with same | ⟨v, m, allowed, added⟩
    · exact registered e (by rwa [same] at member)
    · rw [added] at member
      rcases List.mem_cons.mp member with rfl | member
      · exact allowed
      · exact registered e member
  · exact safe p' (by simp [mem])

theorem AllSafe.reachable {I : Store → Prop}
    (create : ∀ s n v b, I s → I (s.createRuntimeVersion n v b).2)
    (write : ∀ s v m d, Write v m d → I s → I (s.setRuntimeData v m d).2)
    {sys sys' : Sys α} (run : ReflTransGen (Step env) sys sys') (safe : sys.AllSafe Write Reg Post)
    (init : I sys.store) : sys'.AllSafe Write Reg Post ∧ I sys'.store := by
  induction run with
  | refl => exact ⟨safe, init⟩
  | tail _ h ih =>
    obtain ⟨safe', kept⟩ := ih
    obtain ⟨safe'', store⟩ := safe'.step h
    refine ⟨safe'', ?_⟩
    rcases store with same | ⟨n, v, b, created⟩ | ⟨v, m, d, allowed, written⟩
    · rwa [same]
    · rw [created]; exact create _ _ _ _ kept
    · rw [written]; exact write _ _ _ _ allowed kept

theorem AllSafe.returned {sys : Sys α} (safe : sys.AllSafe Write Reg Post) {p : Proc α}
    (mem : p ∈ sys.procs) {a : α} (returned : p.prog = .pure a) : Post a p.registry.head? := by
  have := (safe p mem).1
  rwa [returned] at this

end Sys

end CbcExplorer
