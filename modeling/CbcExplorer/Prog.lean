import CbcExplorer.Cbc.Rpc
import CbcExplorer.Dao.Store

set_option autoImplicit false

namespace CbcExplorer

inductive Level where
  | info
  | warning
  | error
  deriving DecidableEq, Repr

-- the store, node, websocket, clock, codec and logger effects of the explorer's code
inductive Prog (α : Type) where
  | pure (a : α)
  | recent (k : Option RuntimeVersionRecord → Prog α)
  | create (name : String) (specVersion blockNum : Int) (k : Nat → Prog α)
  | setData (specVersion : Int) (modules rawData : String) (k : Nat → Prog α)
  | post (url : String) (req : RPCRequest) (k : HttpAnswer → Prog α)
  | codecMetadata (k : String → Prog α)
  | sleep (duration : Nat) (k : Prog α)
  | latest (spec : Int) (raw : String) (k : Prog α)
  | log (level : Level) (msg : String) (k : Prog α)

namespace Prog

variable {α β : Type}

def bind : Prog α → (α → Prog β) → Prog β
  | .pure a, f => f a
  | .recent k, f => .recent fun r => (k r).bind f
  | .create n v b k, f => .create n v b fun x => (k x).bind f
  | .setData v m d k, f => .setData v m d fun x => (k x).bind f
  | .post url req k, f => .post url req fun x => (k x).bind f
  | .codecMetadata k, f => .codecMetadata fun x => (k x).bind f
  | .sleep t k, f => .sleep t (k.bind f)
  | .latest v m k, f => .latest v m (k.bind f)
  | .log l m k, f => .log l m (k.bind f)

instance : Monad Prog where
  pure := .pure
  bind := Prog.bind

def check {α β : Type} (p : Prog (Except String α)) (context : String)
    (k : α → Prog (Except String β)) : Prog (Except String β) :=
  p.bind fun
    | .error err => .pure (.error (context ++ err))
    | .ok a => k a

end Prog

structure Env where
  node : Nat → String → RPCRequest → HttpAnswer
  codecMetadata : Nat → String

structure World where
  store : Store
  calls : Nat := 0
  registry : List (Int × String) := []
  slept : Nat := 0
  logs : List (Level × String) := []

namespace Prog

variable {α β : Type} (env : Env)

def run : Prog α → World → α × World
  | .pure a, w => (a, w)
  | .recent k, w => (k w.store.runtimeVersionRecent).run w
  | .create n v b k, w =>
    (k (w.store.createRuntimeVersion n v b).1).run
      { w with store := (w.store.createRuntimeVersion n v b).2 }
  | .setData v m d k, w =>
    (k (w.store.setRuntimeData v m d).1).run { w with store := (w.store.setRuntimeData v m d).2 }
  | .post url req k, w => (k (env.node w.calls url req)).run { w with calls := w.calls + 1 }
  | .codecMetadata k, w => (k (env.codecMetadata w.calls)).run { w with calls := w.calls + 1 }
  | .sleep t k, w => k.run { w with slept := w.slept + t }
  | .latest v m k, w => k.run { w with registry := (v, m) :: w.registry }
  | .log l m k, w => k.run { w with logs := w.logs ++ [(l, m)] }

def step : Prog α → World → Option (Prog α × World)
  | .pure _, _ => none
  | .recent k, w => some (k w.store.runtimeVersionRecent, w)
  | .create n v b k, w =>
    some (k (w.store.createRuntimeVersion n v b).1,
      { w with store := (w.store.createRuntimeVersion n v b).2 })
  | .setData v m d k, w =>
    some (k (w.store.setRuntimeData v m d).1, { w with store := (w.store.setRuntimeData v m d).2 })
  | .post url req k, w => some (k (env.node w.calls url req), { w with calls := w.calls + 1 })
  | .codecMetadata k, w => some (k (env.codecMetadata w.calls), { w with calls := w.calls + 1 })
  | .sleep t k, w => some (k, { w with slept := w.slept + t })
  | .latest v m k, w => some (k, { w with registry := (v, m) :: w.registry })
  | .log l m k, w => some (k, { w with logs := w.logs ++ [(l, m)] })

theorem run_of_step {p q : Prog α} {w w' : World} (next : p.step env w = some (q, w')) :
    p.run env w = q.run env w' := by
  cases p <;> simp only [step, Option.some.injEq, Prod.mk.injEq, reduceCtorEq] at next <;>
    obtain ⟨rfl, rfl⟩ := next <;> rfl

theorem step_eq_none {p : Prog α} {w : World} : p.step env w = none ↔ ∃ a, p = .pure a := by
  cases p <;> simp [step]

theorem step_store {p q : Prog α} {w w' : World} (next : p.step env w = some (q, w')) :
    w'.store = w.store ∨ (∃ n v b, w'.store = (w.store.createRuntimeVersion n v b).2) ∨
      ∃ v m d, w'.store = (w.store.setRuntimeData v m d).2 := by
  cases p <;> simp only [step, Option.some.injEq, Prod.mk.injEq, reduceCtorEq] at next <;>
    obtain ⟨rfl, rfl⟩ := next
  case create n v b k => exact .inr (.inl ⟨n, v, b, rfl⟩)
  case setData v m d k => exact .inr (.inr ⟨v, m, d, rfl⟩)
  all_goals exact .inl rfl

@[simp] theorem run_pure (a : α) (w : World) : (Pure.pure a : Prog α).run env w = (a, w) := rfl

@[simp] theorem run_pure' (a : α) (w : World) : (Prog.pure a).run env w = (a, w) := rfl

@[simp] theorem run_bind (p : Prog α) (f : α → Prog β) (w : World) :
    (p >>= f).run env w = (f (p.run env w).1).run env (p.run env w).2 := by
  induction p generalizing w with
  | pure a => rfl
  | recent k ih => exact ih _ _
  | create n v b k ih => exact ih _ _
  | setData v m d k ih => exact ih _ _
  | post url req k ih => exact ih _ _
  | codecMetadata k ih => exact ih _ _
  | sleep t k ih => exact ih _
  | latest v m k ih => exact ih _
  | log l m k ih => exact ih _

@[simp] theorem run_bind' (p : Prog α) (f : α → Prog β) (w : World) :
    (p.bind f).run env w = (f (p.run env w).1).run env (p.run env w).2 :=
  run_bind env p f w

theorem check_run_ok {p : Prog (Except String α)} {context : String}
    {k : α → Prog (Except String β)} {w w' : World} {b : β}
    (ok : (p.check context k).run env w = (.ok b, w')) :
    ∃ a w₁, p.run env w = (.ok a, w₁) ∧ (k a).run env w₁ = (.ok b, w') := by
  simp only [check, run_bind'] at ok
  cases h : (p.run env w).1 with
  | error err => simp [h] at ok
  | ok a => exact ⟨a, _, Prod.ext h rfl, by simpa [h] using ok⟩

theorem check_run_error_cases {p : Prog (Except String α)} {context err : String}
    {k : α → Prog (Except String β)} {w w' : World}
    (failed : (p.check context k).run env w = (.error err, w')) :
    (∃ e, err = context ++ e ∧ p.run env w = (.error e, w')) ∨
      ∃ a w₁, p.run env w = (.ok a, w₁) ∧ (k a).run env w₁ = (.error err, w') := by
  simp only [check, run_bind'] at failed
  cases h : (p.run env w).1 with
  | error e =>
    simp only [h, run_pure', Prod.mk.injEq, Except.error.injEq] at failed
    exact .inl ⟨e, failed.1.symm, Prod.ext h failed.2⟩
  | ok a => exact .inr ⟨a, _, Prod.ext h rfl, by simpa [h] using failed⟩

theorem check_run_error {p : Prog (Except String α)} {context err : String}
    {k : α → Prog (Except String β)} {w : World} (failed : (p.run env w).1 = .error err) :
    (p.check context k).run env w = (.error (context ++ err), (p.run env w).2) := by
  simp [check, failed]

theorem check_run_wrapped {p : Prog (Except String Unit)} {context : String}
    {k : Unit → Prog (Except String Unit)} (rest : ∀ w, ((k ()).run env w).1 = .ok ())
    (w : World) :
    ((p.check context k).run env w).1 = (p.run env w).1.mapError (context ++ ·) := by
  cases called : (p.run env w).1 with
  | error e => rw [check_run_error env called]; rfl
  | ok u => simp only [check, run_bind', called]; exact rest _

end Prog

namespace Dao

def runtimeVersionRecent : Prog (Option RuntimeVersionRecord) := .recent .pure

def createRuntimeVersion (name : String) (specVersion blockNum : Int) : Prog Nat :=
  .create name specVersion blockNum .pure

def setRuntimeData (specVersion : Int) (modules rawData : String) : Prog Nat :=
  .setData specVersion modules rawData .pure

end Dao

def post (url : String) (req : RPCRequest) : Prog HttpAnswer := .post url req .pure

def sleep (duration : Nat) : Prog Unit := .sleep duration (.pure ())

def latest (spec : Int) (raw : String) : Prog Unit := .latest spec raw (.pure ())

namespace Logger

def info (msg : String) : Prog Unit := .log .info msg (.pure ())

def warning (msg : String) : Prog Unit := .log .warning msg (.pure ())

def error (msg : String) : Prog Unit := .log .error msg (.pure ())

end Logger

section Effects

variable (env : Env) (w : World)

@[simp] theorem runtimeVersionRecent_run :
    Dao.runtimeVersionRecent.run env w = (w.store.runtimeVersionRecent, w) := rfl

@[simp] theorem createRuntimeVersion_run (name : String) (v b : Int) :
    (Dao.createRuntimeVersion name v b).run env w =
      ((w.store.createRuntimeVersion name v b).1,
        { w with store := (w.store.createRuntimeVersion name v b).2 }) := rfl

@[simp] theorem setRuntimeData_run (v : Int) (m d : String) :
    (Dao.setRuntimeData v m d).run env w =
      ((w.store.setRuntimeData v m d).1, { w with store := (w.store.setRuntimeData v m d).2 }) := rfl

@[simp] theorem post_run (url : String) (req : RPCRequest) :
    (post url req).run env w = (env.node w.calls url req, { w with calls := w.calls + 1 }) := rfl

@[simp] theorem sleep_run (t : Nat) : (sleep t).run env w = ((), { w with slept := w.slept + t }) := rfl

@[simp] theorem latest_run (v : Int) (m : String) :
    (latest v m).run env w = ((), { w with registry := (v, m) :: w.registry }) := rfl

@[simp] theorem info_run (m : String) :
    (Logger.info m).run env w = ((), { w with logs := w.logs ++ [(.info, m)] }) := rfl

@[simp] theorem warning_run (m : String) :
    (Logger.warning m).run env w = ((), { w with logs := w.logs ++ [(.warning, m)] }) := rfl

@[simp] theorem error_run (m : String) :
    (Logger.error m).run env w = ((), { w with logs := w.logs ++ [(.error, m)] }) := rfl

end Effects

end CbcExplorer
