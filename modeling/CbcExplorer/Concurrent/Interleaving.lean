import CbcExplorer.Prog
import Mathlib.Logic.Hydra

set_option autoImplicit false

namespace CbcExplorer

open Relation

structure Proc (α : Type) where
  prog : Prog α
  registry : List (Int × String) := []
  slept : Nat := 0
  logs : List (Level × String) := []

structure Sys (α : Type) where
  store : Store
  calls : Nat := 0
  procs : List (Proc α)

namespace Proc

variable {α : Type}

def world (p : Proc α) (store : Store) (calls : Nat) : World :=
  ⟨store, calls, p.registry, p.slept, p.logs⟩

def resume (q : Prog α) (w : World) : Proc α := ⟨q, w.registry, w.slept, w.logs⟩

end Proc

namespace Sys

variable {α : Type} (env : Env)

inductive Step : Sys α → Sys α → Prop
  | step {store : Store} {calls : Nat} (before after : List (Proc α)) (p : Proc α)
      {q : Prog α} {w : World} (next : p.prog.step env (p.world store calls) = some (q, w)) :
      Step ⟨store, calls, before ++ p :: after⟩
        ⟨w.store, w.calls, before ++ Proc.resume q w :: after⟩

end Sys

namespace Prog

variable {α : Type}

inductive Child : Prog α → Prog α → Prop
  | recent (k : Option RuntimeVersionRecord → Prog α) (r) : Child (k r) (.recent k)
  | create (name specVersion blockNum k) (n : Nat) :
      Child (k n) (.create name specVersion blockNum k)
  | setData (specVersion modules rawData k) (n : Nat) :
      Child (k n) (.setData specVersion modules rawData k)
  | post (url req k) (answer : HttpAnswer) : Child (k answer) (.post url req k)
  | codecMetadata (k) (raw : String) : Child (k raw) (.codecMetadata k)
  | sleep (duration k) : Child k (.sleep duration k)
  | latest (spec raw k) : Child k (.latest spec raw k)
  | log (level msg k) : Child k (.log level msg k)

theorem child_wf : WellFounded (@Child α) := by
  refine ⟨fun p => ?_⟩
  induction p with
  | pure a => exact ⟨_, nofun⟩
  | recent k ih => exact ⟨_, fun _ h => by cases h; exact ih _⟩
  | create n v b k ih => exact ⟨_, fun _ h => by cases h; exact ih _⟩
  | setData v m d k ih => exact ⟨_, fun _ h => by cases h; exact ih _⟩
  | post url req k ih => exact ⟨_, fun _ h => by cases h; exact ih _⟩
  | codecMetadata k ih => exact ⟨_, fun _ h => by cases h; exact ih _⟩
  | sleep t k ih => exact ⟨_, fun _ h => by cases h; exact ih⟩
  | latest v m k ih => exact ⟨_, fun _ h => by cases h; exact ih⟩
  | log l m k ih => exact ⟨_, fun _ h => by cases h; exact ih⟩

theorem child_of_step {env : Env} {p q : Prog α} {w w' : World}
    (next : p.step env w = some (q, w')) : Child q p := by
  cases p <;> simp only [step, Option.some.injEq, Prod.mk.injEq, reduceCtorEq] at next <;>
    obtain ⟨rfl, rfl⟩ := next <;> constructor

end Prog

section Guarded

variable {α β : Type} (env : Env) (Rely : Store → Store → Prop)

def Stable (P : Store → Prop) : Prop := ∀ s s', P s → Rely s s' → P s'

variable {Rely}

theorem Stable.reflTransGen {P : Store → Prop} (stable : Stable Rely P) {s s' : Store}
    (moved : ReflTransGen Rely s s') (h : P s) : P s' := by
  induction moved with
  | refl => exact h
  | tail _ step ih => exact stable _ _ ih step

variable (Rely)

-- rely/guarantee over the shared store: each own write is a move of Rely, each read holds after
-- any moves of Rely, a websocket call is not a move a guarded program makes, and `head` is the
-- process's own codec metadata
def Guarded (Post : α → Store → Option (Int × String) → Prop) :
    Prog α → Store → Option (Int × String) → Prop
  | .pure a, s, head => Post a s head
  | .recent k, s, head =>
    ∀ s', ReflTransGen Rely s s' → Guarded Post (k s'.runtimeVersionRecent) s' head
  | .create n v b k, s, head => ∀ s', ReflTransGen Rely s s' →
      Rely s' (s'.createRuntimeVersion n v b).2 ∧
        Guarded Post (k (s'.createRuntimeVersion n v b).1) (s'.createRuntimeVersion n v b).2 head
  | .setData v m d k, s, head => ∀ s', ReflTransGen Rely s s' →
      Rely s' (s'.setRuntimeData v m d).2 ∧
        Guarded Post (k (s'.setRuntimeData v m d).1) (s'.setRuntimeData v m d).2 head
  | .post url req k, s, head => ∀ n, Guarded Post (k (env.node n url req)) s head
  | .codecMetadata _, _, _ => False
  | .sleep _ k, s, head => Guarded Post k s head
  | .latest v m k, s, _ => Guarded Post k s (some (v, m))
  | .log _ _ k, s, head => Guarded Post k s head

variable {env Rely} {Post : α → Store → Option (Int × String) → Prop}

theorem Guarded.stable (stable : ∀ a head, Stable Rely (Post a · head)) {p : Prog α}
    {head : Option (Int × String)} : Stable Rely (Guarded env Rely Post p · head) := by
  induction p generalizing head with
  | pure a => exact stable a head
  | recent k ih => exact fun s s' g step s'' moved => g s'' (.head step moved)
  | create n v b k ih => exact fun s s' g step s'' moved => g s'' (.head step moved)
  | setData v m d k ih => exact fun s s' g step s'' moved => g s'' (.head step moved)
  | post url req k ih => exact fun s s' g step n => ih _ s s' (g n) step
  | codecMetadata k ih => exact fun _ _ g => g.elim
  | sleep t k ih => exact ih
  | latest v m k ih => exact ih
  | log l m k ih => exact ih

theorem Guarded.mono {Post' : α → Store → Option (Int × String) → Prop}
    (le : ∀ a s head, Post a s head → Post' a s head) {p : Prog α} {s : Store}
    {head : Option (Int × String)} (g : Guarded env Rely Post p s head) :
    Guarded env Rely Post' p s head := by
  induction p generalizing s head with
  | pure a => exact le a s head g
  | recent k ih => exact fun s' moved => ih _ (g s' moved)
  | create n v b k ih => exact fun s' moved => ⟨(g s' moved).1, ih _ (g s' moved).2⟩
  | setData v m d k ih => exact fun s' moved => ⟨(g s' moved).1, ih _ (g s' moved).2⟩
  | post url req k ih => exact fun n => ih _ (g n)
  | codecMetadata k ih => exact g.elim
  | sleep t k ih => exact ih g
  | latest v m k ih => exact ih g
  | log l m k ih => exact ih g

theorem Guarded.step {p q : Prog α} {w w' : World}
    (g : Guarded env Rely Post p w.store w.registry.head?) (next : p.step env w = some (q, w')) :
    ReflTransGen Rely w.store w'.store ∧ Guarded env Rely Post q w'.store w'.registry.head? := by
  cases p <;> simp only [Prog.step, Option.some.injEq, Prod.mk.injEq, reduceCtorEq] at next <;>
    obtain ⟨rfl, rfl⟩ := next
  case recent => exact ⟨.refl, g _ .refl⟩
  case create => exact ⟨.single (g _ .refl).1, (g _ .refl).2⟩
  case setData => exact ⟨.single (g _ .refl).1, (g _ .refl).2⟩
  case post => exact ⟨.refl, g _⟩
  case codecMetadata => exact g.elim
  case sleep => exact ⟨.refl, g⟩
  case latest => exact ⟨.refl, g⟩
  case log => exact ⟨.refl, g⟩

theorem guarded_bind (p : Prog α) (f : α → Prog β)
    (Post : β → Store → Option (Int × String) → Prop) (s : Store) (head : Option (Int × String)) :
    Guarded env Rely Post (p >>= f) s head ↔
      Guarded env Rely (fun a s head => Guarded env Rely Post (f a) s head) p s head := by
  induction p generalizing s head with
  | pure a => rfl
  | recent k ih => exact forall_congr' fun s' => imp_congr_right fun _ => ih _ s' head
  | create n v b k ih =>
    exact forall_congr' fun s' => imp_congr_right fun _ => and_congr_right' (ih _ _ _)
  | setData v m d k ih =>
    exact forall_congr' fun s' => imp_congr_right fun _ => and_congr_right' (ih _ _ _)
  | post url req k ih => exact forall_congr' fun n => ih _ s head
  | codecMetadata k ih => exact Iff.rfl
  | sleep t k ih => exact ih s head
  | latest v m k ih => exact ih s _
  | log l m k ih => exact ih s head

theorem guarded_check {Post : Except String β → Store → Option (Int × String) → Prop}
    {p : Prog (Except String α)} {context : String} {k : α → Prog (Except String β)}
    {s : Store} {head : Option (Int × String)}
    (g : Guarded env Rely (fun r s head => ∃ a, r = .ok a ∧ Guarded env Rely Post (k a) s head)
      p s head) :
    Guarded env Rely Post (p.check context k) s head :=
  (guarded_bind p _ Post s head).mpr (g.mono fun _ _ _ ⟨_, ok, rest⟩ => ok ▸ rest)

section Effects

variable {s : Store} {head : Option (Int × String)}

@[simp] theorem guarded_pure (a : α) : Guarded env Rely Post (pure a) s head ↔ Post a s head :=
  Iff.rfl

@[simp] theorem guarded_recent
    {Post : Option RuntimeVersionRecord → Store → Option (Int × String) → Prop} :
    Guarded env Rely Post Dao.runtimeVersionRecent s head ↔
      ∀ s', ReflTransGen Rely s s' → Post s'.runtimeVersionRecent s' head := Iff.rfl

@[simp] theorem guarded_create {Post : Nat → Store → Option (Int × String) → Prop}
    (name : String) (v b : Int) :
    Guarded env Rely Post (Dao.createRuntimeVersion name v b) s head ↔
      ∀ s', ReflTransGen Rely s s' → Rely s' (s'.createRuntimeVersion name v b).2 ∧
        Post (s'.createRuntimeVersion name v b).1 (s'.createRuntimeVersion name v b).2 head :=
  Iff.rfl

@[simp] theorem guarded_setData {Post : Nat → Store → Option (Int × String) → Prop} (v : Int)
    (m d : String) :
    Guarded env Rely Post (Dao.setRuntimeData v m d) s head ↔
      ∀ s', ReflTransGen Rely s s' → Rely s' (s'.setRuntimeData v m d).2 ∧
        Post (s'.setRuntimeData v m d).1 (s'.setRuntimeData v m d).2 head := Iff.rfl

@[simp] theorem guarded_post {Post : HttpAnswer → Store → Option (Int × String) → Prop}
    (url : String) (req : RPCRequest) :
    Guarded env Rely Post (post url req) s head ↔ ∀ n, Post (env.node n url req) s head :=
  Iff.rfl

@[simp] theorem guarded_sleep {Post : Unit → Store → Option (Int × String) → Prop}
    (t : Nat) :
    Guarded env Rely Post (sleep t) s head ↔ Post () s head := Iff.rfl

@[simp] theorem guarded_latest {Post : Unit → Store → Option (Int × String) → Prop} (v : Int)
    (m : String) : Guarded env Rely Post (latest v m) s head ↔ Post () s (some (v, m)) := Iff.rfl

@[simp] theorem guarded_info {Post : Unit → Store → Option (Int × String) → Prop}
    (m : String) :
    Guarded env Rely Post (Logger.info m) s head ↔ Post () s head := Iff.rfl

@[simp] theorem guarded_warning {Post : Unit → Store → Option (Int × String) → Prop}
    (m : String) :
    Guarded env Rely Post (Logger.warning m) s head ↔ Post () s head := Iff.rfl

end Effects

end Guarded

namespace Sys

variable {α : Type} {env : Env}

def progs (sys : Sys α) : Multiset (Prog α) := (sys.procs.map Proc.prog : List (Prog α))

theorem Step.cutExpand {sys sys' : Sys α} (h : Step env sys sys') :
    CutExpand Prog.Child sys'.progs sys.progs := by
  obtain ⟨before, after, p, next⟩ := h
  refine ⟨{_}, p.prog, by simpa using Prog.child_of_step next, ?_⟩
  simp only [progs, Proc.resume, List.map_append, List.map_cons]
  rw [← Multiset.coe_singleton, ← Multiset.coe_singleton, Multiset.coe_add, Multiset.coe_add,
    Multiset.coe_eq_coe]
  exact (List.perm_append_singleton _ _).trans <| (List.perm_middle.cons _).trans <|
    (List.Perm.swap _ _ _).trans <| (List.perm_middle.symm.cons _).trans
      (List.perm_append_singleton _ _).symm

theorem step_wf : WellFounded (fun sys' sys : Sys α => Step env sys sys') :=
  Subrelation.wf Step.cutExpand (InvImage.wf progs Prog.child_wf.cutExpand)

def single (p : Prog α) (w : World) : Sys α := ⟨w.store, w.calls, [⟨p, w.registry, w.slept, w.logs⟩]⟩

theorem single_step {p q : Prog α} {w w' : World} (next : p.step env w = some (q, w')) :
    Step env (single p w) (single q w') :=
  .step [] [] ⟨p, w.registry, w.slept, w.logs⟩ next

theorem single_reaches_run (p : Prog α) (w : World) :
    ReflTransGen (Step env) (single p w) (single (.pure (p.run env w).1) (p.run env w).2) := by
  induction p generalizing w with
  | pure a => exact .refl
  | recent k ih => exact .head (single_step rfl) (ih _ _)
  | create n v b k ih => exact .head (single_step rfl) (ih _ _)
  | setData v m d k ih => exact .head (single_step rfl) (ih _ _)
  | post url req k ih => exact .head (single_step rfl) (ih _ _)
  | codecMetadata k ih => exact .head (single_step rfl) (ih _ _)
  | sleep t k ih => exact .head (single_step rfl) (ih _)
  | latest v m k ih => exact .head (single_step rfl) (ih _)
  | log l m k ih => exact .head (single_step rfl) (ih _)

theorem single_step_inv {p : Prog α} {w : World} {sys : Sys α} (h : Step env (single p w) sys) :
    ∃ q w', p.step env w = some (q, w') ∧ sys = single q w' := by
  generalize start : single p w = s at h
  obtain ⟨before, after, p', next⟩ := h
  simp only [single, Sys.mk.injEq] at start
  obtain ⟨rfl, rfl, procs⟩ := start
  obtain ⟨rfl, rfl, rfl⟩ : before = [] ∧ p' = ⟨p, w.registry, w.slept, w.logs⟩ ∧ after = [] := by
    cases before with
    | nil => simpa [eq_comm] using procs
    | cons b bs => simp at procs
  exact ⟨_, _, next, rfl⟩

theorem single_stuck {p : Prog α} {w : World} {sys : Sys α}
    (run : ReflTransGen (Step env) (single p w) sys) (stuck : ∀ sys', ¬ Step env sys sys') :
    sys = single (.pure (p.run env w).1) (p.run env w).2 := by
  have running : ∃ q w', sys = single q w' ∧ q.run env w' = p.run env w := by
    clear stuck
    induction run with
    | refl => exact ⟨p, w, rfl, rfl⟩
    | tail _ h ih =>
      obtain ⟨q, w', rfl, same⟩ := ih
      obtain ⟨q', w'', next, rfl⟩ := single_step_inv h
      exact ⟨q', w'', rfl, (Prog.run_of_step env next).symm.trans same⟩
  obtain ⟨q, w', rfl, same⟩ := running
  cases next : q.step env w' with
  | some r => exact absurd (single_step next) (stuck _)
  | none =>
    obtain ⟨a, rfl⟩ := (Prog.step_eq_none env).mp next
    rw [← same]
    rfl

theorem store_reachable {I : Store → Prop}
    (create : ∀ s n v b, I s → I (s.createRuntimeVersion n v b).2)
    (set : ∀ s v m d, I s → I (s.setRuntimeData v m d).2)
    {sys sys' : Sys α} (run : ReflTransGen (Step env) sys sys') (init : I sys.store) :
    I sys'.store := by
  induction run with
  | refl => exact init
  | tail _ h ih =>
    obtain ⟨before, after, p, next⟩ := h
    rcases Prog.step_store env next with same | ⟨n, v, b, created⟩ | ⟨v, m, d, written⟩
    · rw [same]; exact ih
    · rw [created]; exact create _ _ _ _ ih
    · rw [written]; exact set _ _ _ _ ih

theorem store_keyed_of_reachable {sys sys' : Sys α} (keyed : sys.store.Keyed)
    (run : ReflTransGen (Step env) sys sys') :
    sys'.store.Keyed ∧ ∀ r, sys'.store.runtimeVersionRecent = some r → ∀ r' ∈ sys'.store.rows,
      r'.specVersion ≤ r.specVersion ∧ (r'.specVersion = r.specVersion → r' = r) := by
  have keyed' := store_reachable (fun _ n v b h => h.createRuntimeVersion n v b)
    (fun _ v m d h => h.setRuntimeData v m d) run keyed
  exact ⟨keyed', fun r recent r' member =>
    ⟨Store.runtimeVersionRecent_max recent member, keyed'.recent_unique recent member⟩⟩

theorem Step.length_procs {sys sys' : Sys α} (h : Step env sys sys') :
    sys'.procs.length = sys.procs.length := by
  obtain ⟨before, after, p, -⟩ := h
  simp

theorem length_procs_of_reachable {sys sys' : Sys α} (run : ReflTransGen (Step env) sys sys') :
    sys'.procs.length = sys.procs.length := by
  induction run with
  | refl => rfl
  | tail _ h ih => exact h.length_procs.trans ih

theorem progress {sys : Sys α} {p : Proc α} (mem : p ∈ sys.procs)
    (running : ∀ a, p.prog ≠ .pure a) :
    ∃ sys', Step env sys sys' := by
  obtain ⟨store, calls, procs⟩ := sys
  obtain ⟨before, after, rfl⟩ := List.append_of_mem mem
  cases next : p.prog.step env (p.world store calls) with
  | none => exact absurd ((Prog.step_eq_none env).mp next) fun ⟨a, h⟩ => running a h
  | some r => exact ⟨_, .step before after p next⟩

theorem finished_of_stuck {sys : Sys α} (stuck : ∀ sys', ¬ Step env sys sys') :
    ∀ p ∈ sys.procs, ∃ a, p.prog = .pure a := fun p mem => by
  by_contra running
  push_neg at running
  obtain ⟨sys', h⟩ := progress mem running
  exact stuck sys' h

section Guarded

variable {Rely : Store → Store → Prop} {Post : α → Store → Option (Int × String) → Prop}

variable (env Rely Post) in
def AllGuarded (sys : Sys α) : Prop :=
  ∀ p ∈ sys.procs, Guarded env Rely Post p.prog sys.store p.registry.head?

theorem AllGuarded.step (stable : ∀ a head, Stable Rely (Post a · head)) {sys sys' : Sys α}
    (g : sys.AllGuarded env Rely Post) (h : Step env sys sys') : sys'.AllGuarded env Rely Post := by
  obtain ⟨before, after, p, next⟩ := h
  obtain ⟨moved, resumed⟩ := (g p (by simp)).step next
  intro p' mem
  simp only [List.mem_append, List.mem_cons] at mem
  rcases mem with mem | rfl | mem
  · exact (Guarded.stable stable).reflTransGen moved (g p' (by simp [mem]))
  · exact resumed
  · exact (Guarded.stable stable).reflTransGen moved (g p' (by simp [mem]))

theorem AllGuarded.reachable (stable : ∀ a head, Stable Rely (Post a · head)) {sys sys' : Sys α}
    (g : sys.AllGuarded env Rely Post) (run : ReflTransGen (Step env) sys sys') :
    sys'.AllGuarded env Rely Post := by
  induction run with
  | refl => exact g
  | tail _ h ih => exact ih.step stable h

theorem AllGuarded.returned {sys : Sys α} (g : sys.AllGuarded env Rely Post) {p : Proc α}
    (mem : p ∈ sys.procs) {a : α} (returned : p.prog = .pure a) :
    Post a sys.store p.registry.head? := by
  have := g p mem
  rwa [returned] at this

theorem AllGuarded.offline {sys : Sys α} (g : sys.AllGuarded env Rely Post) {p : Proc α}
    (mem : p ∈ sys.procs) (k : String → Prog α) : p.prog ≠ .codecMetadata k := fun asks => by
  have := g p mem
  rw [asks] at this
  exact this

end Guarded

end Sys

end CbcExplorer
