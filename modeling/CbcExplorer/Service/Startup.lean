import CbcExplorer.Cbc.Registration
import CbcExplorer.Service.Service

set_option autoImplicit false

namespace CbcExplorer

open Prog CBCInitializer

theorem initCBCChain_of_cbc {networkNode : String} (wsEndPoint : String) (env : Env) (w : World)
    (named : Go.contains (Go.toLower networkNode) "cbc" = true) :
    ∃ w₁ : World, ((Service.initCBCChain networkNode wsEndPoint).run env w).1 =
        ((newCBCInitializer wsEndPoint).Initialize.run env w₁).1.mapError
          ("CBC initialization failed: " ++ ·) ∧
      w₁.store = w.store ∧ w₁.calls = w.calls ∧ w₁.registry = w.registry := by
  simp only [Service.initCBCChain, named, Bool.true_eq_false, and_false, if_false, run_bind,
    info_run]
  refine ⟨_, check_run_wrapped env (fun w' => ?_) _, rfl, rfl, rfl⟩
  simp only [run_bind]
  split <;> simp

theorem initCBCChain_gate (networkNode wsEndPoint : String) (env : Env) (w : World) :
    (((Service.initCBCChain networkNode wsEndPoint).run env w).1 = .error "not a CBC network" ↔
      Go.contains (Go.toLower networkNode) "cbc" = false) ∧
    (Go.contains (Go.toLower networkNode) "cbc" = false →
      ((Service.initCBCChain networkNode wsEndPoint).run env w).2.calls = w.calls ∧
      ((Service.initCBCChain networkNode wsEndPoint).run env w).2.store = w.store ∧
      ((Service.initCBCChain networkNode wsEndPoint).run env w).2.registry = w.registry) ∧
    (Go.contains (Go.toLower networkNode) "cbc" = true →
      ∃ w₁ : World, ((Service.initCBCChain networkNode wsEndPoint).run env w).1 =
          ((newCBCInitializer wsEndPoint).Initialize.run env w₁).1.mapError
            ("CBC initialization failed: " ++ ·) ∧
        w₁.store = w.store ∧ w₁.calls = w.calls ∧ w₁.registry = w.registry) := by
  cases named : Go.contains (Go.toLower networkNode) "cbc"
  · have notCbc : Go.toLower networkNode ≠ "cbc" := fun eq => by rw [eq] at named; cases named
    have notChain : Go.toLower networkNode ≠ "cbc-chain" := fun eq => by
      rw [eq] at named; cases named
    simp [Service.initCBCChain, notCbc, notChain, named]
  · obtain ⟨w₁, result, unchanged⟩ := initCBCChain_of_cbc wsEndPoint env w named
    refine ⟨⟨fun failed => ?_, nofun⟩, nofun, fun _ => ⟨w₁, result, unchanged⟩⟩
    rw [result] at failed
    cases h : ((newCBCInitializer wsEndPoint).Initialize.run env w₁).1 <;>
      simp [h, Except.mapError, String.ext_iff] at failed

theorem initSubRuntimeLatestWithoutFetch_loads {w : World} {r : RuntimeVersionRecord} (env : Env)
    (recent : w.store.runtimeVersionRecent = some r) (usable : Go.hasPrefix r.rawData "0x" = true) :
    (Service.initSubRuntimeLatestWithoutFetch.run env w).1 = .ok () ∧
      (Service.initSubRuntimeLatestWithoutFetch.run env w).2.registry =
        (r.specVersion, r.rawData) :: w.registry ∧
      (Service.initSubRuntimeLatestWithoutFetch.run env w).2.calls = w.calls := by
  simp [Service.initSubRuntimeLatestWithoutFetch, recent, usable]

def shortRuntime : Runtime := ⟨"cbc-chain", 100, "0x1234", by decide⟩

namespace Service

def Started (result : Except String Unit) (w : World) : Prop :=
  (result = .ok () →
      ∃ spec raw, w.registry.head? = some (spec, raw) ∧ Go.hasPrefix raw "0x" = true) ∧
    ∀ err, result = .error err → err = "Can not find chain metadata, please check network"

theorem codecLoop_started (env : Env) (fuel i : Nat) (raw : String) (w : World) :
    Started ((codecLoop fuel i raw).run env w).1 ((codecLoop fuel i raw).run env w).2 := by
  induction fuel generalizing i raw w with
  | zero => simp [codecLoop, Started]
  | succ fuel ih =>
    simp only [codecLoop, regCodecMetadata, run_bind]
    split
    · next fetched => simpa [Started] using ⟨1, _, ⟨rfl, rfl⟩, fetched⟩
    · simpa using ih (i + 1) _ _

theorem initSubRuntimeLatest_started (env : Env) (w : World) :
    Started (initSubRuntimeLatest.run env w).1 (initSubRuntimeLatest.run env w).2 := by
  simp only [initSubRuntimeLatest, run_bind, runtimeVersionRecent_run]
  split
  · exact codecLoop_started env 3 0 "" w
  · split
    · next usable => simpa [Started] using ⟨_, _, ⟨rfl, rfl⟩, usable⟩
    · exact codecLoop_started env 3 0 "" w

theorem initSubRuntimeLatestWithoutFetch_started (env : Env) (w : World) :
    Started (initSubRuntimeLatestWithoutFetch.run env w).1
      (initSubRuntimeLatestWithoutFetch.run env w).2 := by
  simp only [initSubRuntimeLatestWithoutFetch, fallBack, run_bind, runtimeVersionRecent_run,
    warning_run]
  split
  · exact initSubRuntimeLatest_started env _
  · split
    · next usable => simpa [Started] using ⟨_, _, ⟨rfl, rfl⟩, usable⟩
    · exact initSubRuntimeLatest_started env _

theorem new_started (networkNode wsEndPoint : String) (env : Env) (w : World) :
    Started ((new networkNode wsEndPoint).run env w).1
      ((new networkNode wsEndPoint).run env w).2 := by
  simp only [new, run_bind]
  split
  · simp only [run_bind, warning_run]
    exact initSubRuntimeLatest_started env _
  · exact initSubRuntimeLatestWithoutFetch_started env _

end Service

end CbcExplorer
