import CbcExplorer.Cbc.InitSpec
import CbcExplorer.Cbc.Node

set_option autoImplicit false

namespace CbcExplorer

open CBCInitializer

theorem registered_record_in_store (c : CBCInitializer) (env : Env) {w w' : World}
    {result : Except String Unit} {spec : Int} {metadataHex : String}
    (run : c.Initialize.run env w = (result, w'))
    (registers : w'.registry = (spec, metadataHex) :: w.registry) :
    ∃ r, w'.store.runtimeVersionRecent = some r ∧ r.specVersion = spec ∧ 100 ≤ Go.len r.rawData ∧
      (r.rawData = metadataHex ∨ (w'.store = w.store ∧ 100 < Go.len r.rawData)) := by
  cases result with
  | error err =>
    exact absurd (registers.symm.trans (c.Initialize_error env run)) (List.cons_ne_self _ _)
  | ok u =>
    rcases c.Initialize_ok env run with ⟨-, -, -, same⟩ | ⟨version, fetched, -, registered,
      inserted⟩
    · exact absurd (registers.symm.trans same) (List.cons_ne_self _ _)
    · obtain ⟨rfl, rfl⟩ : version.specVersion = spec ∧ fetched = metadataHex := by
        simpa [registered] using registers
      exact inserted.recent

def cbcRuntime : Runtime := ⟨"cbc-chain", 100, sampleMetadata 'b', by decide⟩

def staleStore : Store := ⟨[⟨"cbc-chain", 100, 0, insertModules, ⟨List.replicate 101 'a'⟩⟩]⟩

theorem registered_metadata_not_stored :
    let w' := ((newCBCInitializer "ws://localhost:9944").Initialize.run
      (upgrading fun _ => cbcRuntime) { store := staleStore }).2
    w'.registry = [(100, sampleMetadata 'b')] ∧
      w'.store.runtimeVersionRecent.map (·.rawData) ≠ some (sampleMetadata 'b') := by
  decide

theorem registered_record_in_store_of_stale :
    let run := (newCBCInitializer "ws://localhost:9944").Initialize.run
      (upgrading fun _ => cbcRuntime) { store := staleStore }
    run.2.registry = (100, sampleMetadata 'b') :: [] ∧
      ∃ r, run.2.store.runtimeVersionRecent = some r ∧ r.specVersion = 100 ∧
        100 ≤ Go.len r.rawData ∧
        (r.rawData = sampleMetadata 'b' ∨ (run.2.store = staleStore ∧ 100 < Go.len r.rawData)) :=
  have registers : ((newCBCInitializer "ws://localhost:9944").Initialize.run
      (upgrading fun _ => cbcRuntime) { store := staleStore }).2.registry =
      (100, sampleMetadata 'b') :: [] := by decide
  ⟨registers, registered_record_in_store _ _ rfl registers⟩

theorem version_and_metadata_calls (c : CBCInitializer) (timeline : Nat → Runtime)
    {w w' : World} (ok : c.Initialize.run (upgrading timeline) w = (.ok (), w')) :
    (w.store.Initialized ∧ w'.calls = w.calls ∧ w'.registry = w.registry ∧ w'.store = w.store) ∨
      ∃ k₁ k₂, w.calls ≤ k₁ ∧ k₁ < k₂ ∧ k₂ < w'.calls ∧
        w'.registry = ((timeline k₁).specVersion, (timeline k₂).metadata) :: w.registry ∧
        Inserted ⟨(timeline k₁).specName, (timeline k₁).specVersion⟩ (timeline k₂).metadata
          w.store w'.store := by
  rcases c.Initialize_ok _ ok with ⟨initialized, store, calls, registry⟩ |
    ⟨version, metadataHex, ⟨k₁, k₂, after, between, before, version_call, metadata_call⟩,
      registered, inserted⟩
  · exact .inl ⟨initialized, calls, registry, store⟩
  · have version_of : version = ⟨(timeline k₁).specName, (timeline k₁).specVersion⟩ := by
      simp only [upgrading, answer_runtimeVersion, Except.ok.injEq] at version_call
      exact version_call.symm
    have metadata_of : metadataHex = (timeline k₂).metadata := by
      simp only [upgrading, answer_metadata] at metadata_call
      split at metadata_call <;> simp_all
    subst version_of metadata_of
    exact .inr ⟨k₁, k₂, after, between, before, registered, inserted⟩

theorem version_and_metadata_calls_steady :
    let run := (newCBCInitializer "ws://localhost:9944").Initialize.run
      (upgrading fun _ => cbcRuntime) { store := Store.empty }
    run = (.ok (), run.2) ∧
      ((Store.empty.Initialized ∧ run.2.calls = 0 ∧ run.2.registry = [] ∧ run.2.store = Store.empty) ∨
        ∃ k₁ k₂, 0 ≤ k₁ ∧ k₁ < k₂ ∧ k₂ < run.2.calls ∧
          run.2.registry = (cbcRuntime.specVersion, cbcRuntime.metadata) :: [] ∧
          Inserted ⟨cbcRuntime.specName, cbcRuntime.specVersion⟩ cbcRuntime.metadata
            Store.empty run.2.store) :=
  have ok : (newCBCInitializer "ws://localhost:9944").Initialize.run
      (upgrading fun _ => cbcRuntime) { store := Store.empty } = (.ok (), _) := Prod.ext rfl rfl
  ⟨ok, version_and_metadata_calls _ _ ok⟩

def upgradeAfterFirstCall : Nat → Runtime
  | 0 => ⟨"cbc-chain", 100, sampleMetadata 'a', by decide⟩
  | _ + 1 => ⟨"cbc-chain", 101, sampleMetadata 'b', by decide⟩

theorem version_and_metadata_from_two_runtimes :
    let run := (newCBCInitializer "ws://localhost:9944").Initialize.run
      (upgrading upgradeAfterFirstCall) { store := Store.empty }
    run.1 = .ok () ∧ run.2.registry = [(100, sampleMetadata 'b')] ∧
      run.2.store.runtimeVersionRecent.map (fun r => (r.specVersion, r.rawData)) =
        some (100, sampleMetadata 'b') ∧
      ∀ n, ((upgradeAfterFirstCall n).specVersion, (upgradeAfterFirstCall n).metadata) ≠
        (100, sampleMetadata 'b') := by
  refine ⟨rfl, by decide, by decide, fun n => ?_⟩
  cases n with
  | zero => decide
  | succ n => simp [upgradeAfterFirstCall]

end CbcExplorer
