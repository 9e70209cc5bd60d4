import CbcExplorer.Cbc.InitSpec
import CbcExplorer.Service.Service

set_option autoImplicit false

namespace CbcExplorer

open Prog

namespace Prog

variable {α : Type} {env : Env}

theorem run_of_logs (p : Prog α) (w : World) (logs : List (Level × String)) :
    (p.run env { w with logs := logs }).1 = (p.run env w).1 ∧
      (p.run env { w with logs := logs }).2.store = (p.run env w).2.store ∧
      (p.run env { w with logs := logs }).2.registry = (p.run env w).2.registry ∧
      (p.run env { w with logs := logs }).2.calls = (p.run env w).2.calls ∧
      (p.run env { w with logs := logs }).2.slept = (p.run env w).2.slept := by
  induction p generalizing w logs with
  | pure a => exact ⟨rfl, rfl, rfl, rfl, rfl⟩
  | recent k ih => exact ih _ w logs
  | create n v b k ih => exact ih _ { w with store := (w.store.createRuntimeVersion n v b).2 } logs
  | setData v m d k ih => exact ih _ { w with store := (w.store.setRuntimeData v m d).2 } logs
  | post url req k ih => exact ih _ { w with calls := w.calls + 1 } logs
  | codecMetadata k ih => exact ih _ { w with calls := w.calls + 1 } logs
  | sleep t k ih => exact ih { w with slept := w.slept + t } logs
  | latest v m k ih => exact ih { w with registry := (v, m) :: w.registry } logs
  | log l m k ih => exact ih { w with logs := w.logs ++ [(l, m)] } (logs ++ [(l, m)])

end Prog

namespace Service

variable {env : Env}

@[simp] theorem regCodecMetadata_run (w : World) :
    regCodecMetadata.run env w = (env.codecMetadata w.calls, { w with calls := w.calls + 1 }) := rfl

theorem codecLoop_keeps (fuel i : Nat) (raw : String) (w : World) :
    ((codecLoop fuel i raw).run env w).2.store = w.store ∧
      ((codecLoop fuel i raw).run env w).2.slept = w.slept := by
  induction fuel generalizing i raw w with
  | zero => exact ⟨rfl, rfl⟩
  | succ fuel ih =>
    simp only [codecLoop, regCodecMetadata, run_bind]
    split
    · exact ⟨rfl, rfl⟩
    · simpa using ih (i + 1) _ _

theorem codecLoop_first (fuel i : Nat) (raw : String) (w : World) {j : Nat} (within : j < fuel)
    (failing : ∀ n < j, Go.hasPrefix (env.codecMetadata (w.calls + n)) "0x" = false)
    (found : Go.hasPrefix (env.codecMetadata (w.calls + j)) "0x" = true) :
    ((codecLoop fuel i raw).run env w).1 = .ok () ∧
      ((codecLoop fuel i raw).run env w).2.registry =
        (1, env.codecMetadata (w.calls + j)) :: w.registry ∧
      ((codecLoop fuel i raw).run env w).2.calls = w.calls + (j + 1) ∧
      ((codecLoop fuel i raw).run env w).2.slept = w.slept := by
  obtain ⟨fuel, rfl⟩ : ∃ f, fuel = f + 1 := ⟨fuel - 1, by omega⟩
  induction j generalizing fuel i raw w with
  | zero =>
    rw [Nat.add_zero] at found
    simp [codecLoop, found]
  | succ j ih =>
    have first := failing 0 (Nat.succ_pos j)
    rw [Nat.add_zero] at first
    obtain ⟨fuel, rfl⟩ : ∃ f, fuel = f + 1 := ⟨fuel - 1, by omega⟩
    simp only [codecLoop, run_bind, regCodecMetadata_run, first, Bool.false_eq_true, if_false,
      warning_run]
    have shift (n : Nat) : w.calls + 1 + n = w.calls + (n + 1) := by omega
    obtain ⟨ok, registry, calls, slept⟩ := ih (i + 1) (env.codecMetadata w.calls)
      { w with calls := w.calls + 1, logs := w.logs ++ [(.warning, "Attempt " ++ toString (i + 1) ++
        ": regCodecMetadata failed, retrying...")] }
      (fun n lt => by simp only [shift]; exact failing (n + 1) (by omega))
      (by simp only [shift]; exact found) fuel (by omega)
    simp only [shift] at registry
    exact ⟨ok, registry, calls.trans (by dsimp only; omega), slept⟩

theorem codecLoop_exhausted (fuel i : Nat) (raw : String) (w : World)
    (failing : ∀ n < fuel, Go.hasPrefix (env.codecMetadata (w.calls + n)) "0x" = false) :
    ((codecLoop fuel i raw).run env w).1 =
        .error "Can not find chain metadata, please check network" ∧
      ((codecLoop fuel i raw).run env w).2.registry = w.registry ∧
      ((codecLoop fuel i raw).run env w).2.calls = w.calls + fuel ∧
      ((codecLoop fuel i raw).run env w).2.slept = w.slept := by
  induction fuel generalizing i raw w with
  | zero => simp [codecLoop]
  | succ fuel ih =>
    have first := failing 0 (Nat.succ_pos fuel)
    rw [Nat.add_zero] at first
    simp only [codecLoop, run_bind, regCodecMetadata_run, first, Bool.false_eq_true, if_false,
      warning_run]
    obtain ⟨failed, registry, calls, slept⟩ := ih (i + 1) (env.codecMetadata w.calls)
      { w with calls := w.calls + 1, logs := w.logs ++ [(.warning, "Attempt " ++ toString (i + 1) ++
        ": regCodecMetadata failed, retrying...")] }
      fun n lt => by
        simp only [show w.calls + 1 + n = w.calls + (n + 1) by omega]
        exact failing (n + 1) (by omega)
    exact ⟨failed, registry, calls.trans (by dsimp only; omega), slept⟩

theorem initSubRuntimeLatest_keeps (w : World) :
    (initSubRuntimeLatest.run env w).2.store = w.store := by
  simp only [initSubRuntimeLatest, run_bind, runtimeVersionRecent_run]
  split
  · exact (codecLoop_keeps 3 0 "" w).1
  · split
    · rfl
    · exact (codecLoop_keeps 3 0 "" w).1

theorem initSubRuntimeLatest_loads {w : World} {r : RuntimeVersionRecord}
    (found : w.store.runtimeVersionRecent = some r) (usable : Go.hasPrefix r.rawData "0x" = true) :
    (initSubRuntimeLatest.run env w).2.registry = (r.specVersion, r.rawData) :: w.registry := by
  simp [initSubRuntimeLatest, found, usable]

theorem initSubRuntimeLatest_of_uninitialized {w : World} (fresh : ¬ w.store.Initialized) :
    initSubRuntimeLatest.run env w = (codecLoop 3 0 "").run env w := by
  simp only [initSubRuntimeLatest, run_bind, runtimeVersionRecent_run]
  split
  · rfl
  · next r found => rw [if_neg fun usable => fresh ⟨r, found, usable⟩]

theorem initSubRuntimeLatestWithoutFetch_agrees (w : World) :
    (initSubRuntimeLatestWithoutFetch.run env w).1 = (initSubRuntimeLatest.run env w).1 ∧
      (initSubRuntimeLatestWithoutFetch.run env w).2.store =
        (initSubRuntimeLatest.run env w).2.store ∧
      (initSubRuntimeLatestWithoutFetch.run env w).2.registry =
        (initSubRuntimeLatest.run env w).2.registry ∧
      (initSubRuntimeLatestWithoutFetch.run env w).2.calls =
        (initSubRuntimeLatest.run env w).2.calls ∧
      (initSubRuntimeLatestWithoutFetch.run env w).2.slept =
        (initSubRuntimeLatest.run env w).2.slept := by
  have fellBack := @run_of_logs _ env initSubRuntimeLatest w
  simp only [initSubRuntimeLatestWithoutFetch, run_bind, runtimeVersionRecent_run]
  split
  · exact fellBack _
  · next r found =>
    split
    · next usable => simp [initSubRuntimeLatest, found, usable]
    · exact fellBack _

variable (networkNode wsEndPoint : String) (env) in
theorem new_agrees (w : World) :
    let rest := initSubRuntimeLatest.run env ((initCBCChain networkNode wsEndPoint).run env w).2
    ((new networkNode wsEndPoint).run env w).1 = rest.1 ∧
      ((new networkNode wsEndPoint).run env w).2.store = rest.2.store ∧
      ((new networkNode wsEndPoint).run env w).2.registry = rest.2.registry ∧
      ((new networkNode wsEndPoint).run env w).2.calls = rest.2.calls ∧
      ((new networkNode wsEndPoint).run env w).2.slept = rest.2.slept := by
  simp only [new, run_bind]
  split
  · simp only [run_bind, warning_run]
    exact run_of_logs _ _ _
  · exact initSubRuntimeLatestWithoutFetch_agrees _

theorem new_after_initCBCChain (networkNode wsEndPoint : String) (env : Env) (w : World) :
    let w₁ := ((initCBCChain networkNode wsEndPoint).run env w).2
    let run := (new networkNode wsEndPoint).run env w
    run.2.store = w₁.store ∧ run.2.slept = w₁.slept ∧
      (∀ r, w₁.store.runtimeVersionRecent = some r → Go.hasPrefix r.rawData "0x" = true →
        run.1 = .ok () ∧ run.2.registry = (r.specVersion, r.rawData) :: w₁.registry ∧
          run.2.calls = w₁.calls) ∧
      (¬ w₁.store.Initialized →
        (∀ j < 3, (∀ n < j, Go.hasPrefix (env.codecMetadata (w₁.calls + n)) "0x" = false) →
          Go.hasPrefix (env.codecMetadata (w₁.calls + j)) "0x" = true →
          run.1 = .ok () ∧ run.2.registry = (1, env.codecMetadata (w₁.calls + j)) :: w₁.registry ∧
            run.2.calls = w₁.calls + (j + 1)) ∧
        ((∀ n < 3, Go.hasPrefix (env.codecMetadata (w₁.calls + n)) "0x" = false) →
          run.1 = .error "Can not find chain metadata, please check network" ∧
            run.2.registry = w₁.registry ∧ run.2.calls = w₁.calls + 3)) := by
  dsimp only
  obtain ⟨result, store, registry, calls, slept⟩ := new_agrees env networkNode wsEndPoint w
  rw [result, store, registry, calls, slept, initSubRuntimeLatest_keeps]
  generalize ((initCBCChain networkNode wsEndPoint).run env w).2 = w₁
  by_cases usable : w₁.store.Initialized
  · obtain ⟨r, found, prefixed⟩ := usable
    have loaded : initSubRuntimeLatest.run env w₁ =
        (.ok (), { w₁ with registry := (r.specVersion, r.rawData) :: w₁.registry }) := by
      simp [initSubRuntimeLatest, found, prefixed]
    refine ⟨rfl, by rw [loaded], fun r' found' _ => ?_,
      fun fresh => (fresh ⟨r, found, prefixed⟩).elim⟩
    obtain rfl : r' = r := Option.some.inj (found'.symm.trans found)
    simp [loaded]
  · rw [initSubRuntimeLatest_of_uninitialized usable]
    refine ⟨rfl, (codecLoop_keeps 3 0 "" w₁).2,
      fun r found prefixed => (usable ⟨r, found, prefixed⟩).elim,
      fun _ => ⟨fun j within failing found => ?_, fun failing => ?_⟩⟩
    · exact (codecLoop_first 3 0 "" w₁ within failing found).imp_right
        fun rest => ⟨rest.1, rest.2.1⟩
    · exact (codecLoop_exhausted 3 0 "" w₁ failing).imp_right fun rest => ⟨rest.1, rest.2.1⟩

end Service

end CbcExplorer
