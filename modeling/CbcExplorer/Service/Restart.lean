import CbcExplorer.Cbc.Finality
import CbcExplorer.Cbc.Registration
import CbcExplorer.Service.Fallback

set_option autoImplicit false

namespace CbcExplorer

open Prog

-- no upgrade and no transient failure: every call is answered as the first
def Env.Steady (env : Env) : Prop :=
  ∀ n, env.node n = env.node 0 ∧ env.codecMetadata n = env.codecMetadata 0

namespace Env.Steady

variable {env : Env} (steady : env.Steady)
include steady

theorem node (n m : Nat) : env.node n = env.node m :=
  (steady n).1.trans (steady m).1.symm

theorem codecMetadata (n m : Nat) : env.codecMetadata n = env.codecMetadata m :=
  (steady n).2.trans (steady m).2.symm

end Env.Steady

namespace Prog

variable {α : Type} {env : Env}

theorem run_of_same_store (steady : env.Steady) (p : Prog α) (w w' : World)
    (same : w.store = w'.store) :
    (p.run env w).1 = (p.run env w').1 ∧ (p.run env w).2.store = (p.run env w').2.store ∧
      ∃ added, (p.run env w).2.registry = added ++ w.registry ∧
        (p.run env w').2.registry = added ++ w'.registry := by
  induction p generalizing w w' with
  | pure a => exact ⟨rfl, same, [], rfl, rfl⟩
  | recent k ih => simp only [run, same]; exact ih _ _ _ same
  | create n v b k ih => simp only [run, same]; exact ih _ _ _ rfl
  | setData v m d k ih => simp only [run, same]; exact ih _ _ _ rfl
  | post url req k ih => simp only [run, steady.node w.calls w'.calls]; exact ih _ _ _ same
  | codecMetadata k ih =>
    simp only [run, steady.codecMetadata w.calls w'.calls]; exact ih _ _ _ same
  | sleep t k ih => exact ih _ _ same
  | latest v m k ih =>
    obtain ⟨result, store, added, registry, registry'⟩ :=
      ih { w with registry := (v, m) :: w.registry } { w' with registry := (v, m) :: w'.registry }
        same
    exact ⟨result, store, added ++ [(v, m)], by simpa using registry, by simpa using registry'⟩
  | log l m k ih => exact ih _ _ same

theorem check_offline {β : Type} {p : Prog (Except String α)} {context : String}
    {k : α → Prog (Except String β)} (keeps : ∀ a w, Offline w ((k a).run env w).2)
    (w : World) : Offline (p.run env w).2 ((p.check context k).run env w).2 := by
  simp only [check, run_bind']
  split
  · exact Offline.refl _
  · exact keeps _ _

variable (env) in
-- run again on the store it left, `p` returns the same, keeps that store and registers the same
def Repeats (p : Prog α) : Prop :=
  ∀ w w', w'.store = (p.run env w).2.store →
    (p.run env w').1 = (p.run env w).1 ∧ (p.run env w').2.store = w'.store ∧
      ∃ added, (p.run env w).2.registry = added ++ w.registry ∧
        (p.run env w').2.registry = added ++ w'.registry

theorem Repeats.log {l : Level} {m : String} {k : Prog α} (repeats : Repeats env k) :
    Repeats env (.log l m k) :=
  fun _ _ again => repeats _ _ again

theorem Repeats.of_keeps (steady : env.Steady) {p : Prog α}
    (keeps : ∀ w, (p.run env w).2.store = w.store) : Repeats env p := by
  intro w w' again
  rw [keeps] at again
  obtain ⟨result, -, registered⟩ := run_of_same_store steady p _ _ again.symm
  exact ⟨result.symm, keeps w', registered⟩

variable {β : Type} {p : Prog (Except String α)} {context : String}
  {k : α → Prog (Except String β)}

theorem Repeats.check_of_fixed (offline : ∀ w, Offline w (p.run env w).2)
    (fixed : ∀ w w', (p.run env w).1 = (p.run env w').1) (rest : ∀ a, Repeats env (k a)) :
    Repeats env (p.check context k) := by
  intro w w' again
  simp only [check, run_bind'] at again ⊢
  rw [fixed w' w]
  cases first : (p.run env w).1 with
  | error e =>
    exact ⟨rfl, (offline w').store, [], (offline w).registry, (offline w').registry⟩
  | ok a =>
    simp only [first] at again ⊢
    obtain ⟨result, store, added, registry, registry'⟩ :=
      rest a _ _ ((offline w').store.trans again)
    exact ⟨result, store.trans (offline w').store, added,
      registry.trans (by rw [(offline w).registry]),
      registry'.trans (by rw [(offline w').registry])⟩

theorem Repeats.check (first : Repeats env p) (rest : ∀ a, Repeats env (k a))
    (keeps : ∀ a w, ((k a).run env w).2.store = w.store) : Repeats env (p.check context k) := by
  intro w w' again
  simp only [Prog.check, run_bind'] at again ⊢
  have again₁ : w'.store = (p.run env w).2.store := by
    rw [again]; split <;> simp [keeps]
  obtain ⟨result, store, added, registry, registry'⟩ := first w w' again₁
  rw [result]
  split
  · exact ⟨rfl, store, added, registry, registry'⟩
  · next a _ =>
    obtain ⟨result', store', added', registry₂, registry₂'⟩ :=
      rest a (p.run env w).2 (p.run env w').2 (by rw [keeps, store, again₁])
    exact ⟨result', store'.trans store, added' ++ added, by simp [registry₂, registry],
      by simp [registry₂', registry']⟩

end Prog

namespace Store

variable {s : Store} {name : String} {v b : Int} {m d : String}

theorem createRuntimeVersion_of_mem {r : RuntimeVersionRecord} (member : r ∈ s.rows)
    (version : r.specVersion = v) : (s.createRuntimeVersion name v b).2 = s := by
  simp only [createRuntimeVersion, List.any_eq_true, beq_iff_eq]
  rw [if_pos ⟨r, member, version⟩]

theorem setRuntimeData_twice :
    ((s.setRuntimeData v m d).2.setRuntimeData v m d).2 = (s.setRuntimeData v m d).2 := by
  simp only [setRuntimeData, List.map_map, Store.mk.injEq]
  exact List.map_congr_left fun r _ => by by_cases h : r.specVersion = v <;> simp [h]

theorem insertWrites_twice :
    ((((s.createRuntimeVersion name v b).2.setRuntimeData v m d).2.createRuntimeVersion
      name v b).2.setRuntimeData v m d).2 =
      ((s.createRuntimeVersion name v b).2.setRuntimeData v m d).2 := by
  obtain ⟨r, member, version⟩ :
      ∃ r ∈ (s.createRuntimeVersion name v b).2.rows, r.specVersion = v := by
    unfold createRuntimeVersion
    split
    · next present => simpa using present
    · exact ⟨_, List.mem_append_right _ (List.mem_singleton_self _), rfl⟩
  have kept : { r with modules := m, rawData := d } ∈
      ((s.createRuntimeVersion name v b).2.setRuntimeData v m d).2.rows := by
    simpa [setRuntimeData, version] using ⟨r, member, by simp [version]⟩
  rw [createRuntimeVersion_of_mem kept version, setRuntimeData_twice]

def RecentHolds (s : Store) (v : Int) (bytes : Nat) : Prop :=
  ∃ r, s.runtimeVersionRecent = some r ∧ r.specVersion = v ∧ bytes ≤ Go.len r.rawData

theorem RecentHolds.mono {bytes bytes' : Nat} (le : bytes' ≤ bytes)
    (holds : s.RecentHolds v bytes) : s.RecentHolds v bytes' :=
  let ⟨r, found, version, long⟩ := holds
  ⟨r, found, version, le.trans long⟩

end Store

namespace CBCInitializer

variable (c : CBCInitializer) {env : Env} {α : Type} (what : String) (req : RPCRequest)
  (decode : RPCResponse → Except String α) (fuel i : Nat) (lastErr : Option String)

@[simp] theorem fetchLoop_store (w : World) :
    ((c.fetchLoop what req decode fuel i lastErr).run env w).2.store = w.store :=
  (c.fetchLoop_run env what req decode fuel i lastErr w).1.store

@[simp] theorem fetchLoop_registry (w : World) :
    ((c.fetchLoop what req decode fuel i lastErr).run env w).2.registry = w.registry :=
  (c.fetchLoop_run env what req decode fuel i lastErr w).1.registry

theorem fetchLoop_steady (steady : env.Steady) (w w' : World) :
    ((c.fetchLoop what req decode fuel i lastErr).run env w).1 =
      ((c.fetchLoop what req decode fuel i lastErr).run env w').1 := by
  induction fuel generalizing i lastErr w w' with
  | zero => rfl
  | succ fuel ih =>
    obtain ⟨w₁, -, -, -, attempt⟩ := c.fetchLoop_attempt env what req decode fuel i lastErr w
    obtain ⟨w₁', -, -, -, attempt'⟩ :=
      c.fetchLoop_attempt env what req decode fuel i lastErr w'
    rw [attempt, attempt', steady.node w.calls w'.calls]
    split
    · rfl
    · exact ih _ _ _ _

variable (version : RuntimeVersion) (metadataHex : String)

theorem writeRuntimeVersion_cases (w : World) :
    let written := ((w.store.createRuntimeVersion version.specName version.specVersion
      0).2.setRuntimeData version.specVersion insertModules metadataHex).2
    ((writeRuntimeVersion version metadataHex).run env w).2.store = written ∧
      ((((writeRuntimeVersion version metadataHex).run env w).1 = .ok () ∧
          written.RecentHolds version.specVersion 100) ∨
        (((writeRuntimeVersion version metadataHex).run env w).1 = .error verifyFailed ∧
          ¬ written.RecentHolds version.specVersion 100)) := by
  simp only [writeRuntimeVersion, run_bind, createRuntimeVersion_run, info_run,
    setRuntimeData_run, runtimeVersionRecent_run]
  split
  · next none => exact ⟨rfl, .inr ⟨rfl, fun ⟨r, found, _⟩ => by simp [none] at found⟩⟩
  · next r found =>
    split
    · next failed =>
      refine ⟨rfl, .inr ⟨rfl, fun ⟨r', found', version', long⟩ => ?_⟩⟩
      obtain rfl : r' = r := Option.some.inj (found'.symm.trans found)
      omega
    · next verified =>
      push_neg at verified
      exact ⟨rfl, .inl ⟨rfl, r, found, verified⟩⟩

theorem insertRuntimeVersion_cases (w : World) :
    (w.store.RecentHolds version.specVersion 101 ∧
        ((insertRuntimeVersion version metadataHex).run env w).1 = .ok () ∧
        ((insertRuntimeVersion version metadataHex).run env w).2.store = w.store) ∨
      (¬ w.store.RecentHolds version.specVersion 101 ∧
        (insertRuntimeVersion version metadataHex).run env w =
          (writeRuntimeVersion version metadataHex).run env
            { w with logs := w.logs ++ [(.info, "Inserting runtime version " ++
              toString version.specVersion ++ " into database...")] }) := by
  simp only [insertRuntimeVersion, run_bind, info_run, runtimeVersionRecent_run]
  split
  · next none => exact .inr ⟨fun ⟨r, found, _⟩ => by simp [none] at found, rfl⟩
  · next r found =>
    split
    · next stored => exact .inl ⟨⟨r, found, stored⟩, rfl, rfl⟩
    · next fresh =>
      refine .inr ⟨fun ⟨r', found', version', long⟩ => fresh ?_, rfl⟩
      obtain rfl : r' = r := Option.some.inj (found'.symm.trans found)
      exact ⟨version', long⟩

theorem insertRuntimeVersion_again {w w' : World}
    (again : w'.store = ((insertRuntimeVersion version metadataHex).run env w).2.store) :
    ((insertRuntimeVersion version metadataHex).run env w').1 =
        ((insertRuntimeVersion version metadataHex).run env w).1 ∧
      ((insertRuntimeVersion version metadataHex).run env w').2.store = w'.store := by
  rcases insertRuntimeVersion_cases version metadataHex w with
    ⟨stored, ok, kept⟩ | ⟨fresh, wrote⟩
  · rw [kept] at again
    rcases insertRuntimeVersion_cases version metadataHex w' with
      ⟨-, ok', kept'⟩ | ⟨fresh', -⟩
    · exact ⟨ok'.trans ok.symm, kept'⟩
    · exact absurd (again ▸ stored) fresh'
  obtain ⟨written, verdict⟩ := @writeRuntimeVersion_cases env version metadataHex
    { w with logs := _ }
  rw [wrote] at again ⊢
  rw [written] at again
  rcases insertRuntimeVersion_cases version metadataHex w' with
    ⟨stored', ok', kept'⟩ | ⟨-, wrote'⟩
  · refine ⟨ok'.trans ?_, kept'⟩
    rcases verdict with ⟨ok, -⟩ | ⟨-, fails⟩
    · exact ok.symm
    · exact absurd (again ▸ stored'.mono (by omega)) fails
  have fixed : ((w'.store.createRuntimeVersion version.specName version.specVersion
      0).2.setRuntimeData version.specVersion insertModules metadataHex).2 = w'.store := by
    rw [again]; exact Store.insertWrites_twice
  obtain ⟨written', verdict'⟩ := @writeRuntimeVersion_cases env version metadataHex
    { w' with logs := _ }
  simp only [fixed] at written' verdict'
  rw [← again] at verdict
  rw [wrote']
  refine ⟨?_, written'⟩
  rcases verdict with ⟨ok, holds⟩ | ⟨failed, fails⟩ <;>
    rcases verdict' with ⟨ok', holds'⟩ | ⟨failed', fails'⟩
  · rw [ok, ok']
  · exact absurd holds fails'
  · exact absurd holds' fails
  · rw [failed, failed']

theorem insertRuntimeVersion_repeats : Repeats env (insertRuntimeVersion version metadataHex) :=
  fun _ _ again =>
    have ⟨result, store⟩ := insertRuntimeVersion_again version metadataHex again
    ⟨result, store, [], insertRuntimeVersion_registry env rfl,
      insertRuntimeVersion_registry env rfl⟩

theorem bootstrap_repeats (steady : env.Steady) : Repeats env c.bootstrap :=
  .log <| .check_of_fixed (fun w => (c.fetchLoop_run env _ _ _ _ _ _ w).1)
    (c.fetchLoop_steady _ _ _ _ _ _ steady) fun version => .log <|
  .check_of_fixed (fun w => (c.fetchLoop_run env _ _ _ _ _ _ w).1)
    (c.fetchLoop_steady _ _ _ _ _ _ steady) fun metadataHex => .log <|
  .check (insertRuntimeVersion_repeats version metadataHex)
    (fun _ => .of_keeps steady fun _ => rfl) fun _ _ => rfl

theorem Initialize_of_uninitialized {w : World} (fresh : ¬ w.store.Initialized) :
    c.Initialize.run env w = c.bootstrap.run env
      { w with logs := w.logs ++ [(.info, "Starting CBC Chain initialization...")] } := by
  simp only [Initialize, run_bind, info_run, runtimeVersionRecent_run]
  split
  · rfl
  · next r found => rw [if_neg fun usable => fresh ⟨r, found, usable⟩]

theorem Initialize_again (steady : env.Steady) {w w' : World}
    (again : w'.store = (c.Initialize.run env w).2.store) :
    (c.Initialize.run env w').2.store = w'.store ∧
      (¬ w'.store.Initialized → (c.Initialize.run env w').1 = (c.Initialize.run env w).1 ∧
        ∃ added, (c.Initialize.run env w).2.registry = added ++ w.registry ∧
          (c.Initialize.run env w').2.registry = added ++ w'.registry) := by
  by_cases early : w.store.Initialized
  · rw [(c.Initialize_of_initialized env early).2.1] at again
    exact ⟨(c.Initialize_of_initialized env (again ▸ early)).2.1,
      fun fresh => absurd (again ▸ early) fresh⟩
  by_cases early' : w'.store.Initialized
  · exact ⟨(c.Initialize_of_initialized env early').2.1, fun fresh => absurd early' fresh⟩
  rw [c.Initialize_of_uninitialized early] at again ⊢
  rw [c.Initialize_of_uninitialized early']
  obtain ⟨result, store, registered⟩ := c.bootstrap_repeats steady _
    { w' with logs := w'.logs ++ [(.info, "Starting CBC Chain initialization...")] } again
  exact ⟨store, fun _ => ⟨result, registered⟩⟩

end CBCInitializer

namespace Service

variable {env : Env} (networkNode wsEndPoint : String)

theorem initCBCChain_initialized (networkNode wsEndPoint : String) (env : Env) {w : World}
    {r : RuntimeVersionRecord} (recent : w.store.runtimeVersionRecent = some r)
    (usable : Go.hasPrefix r.rawData "0x" = true) :
    Offline w ((initCBCChain networkNode wsEndPoint).run env w).2 ∧
      ((initCBCChain networkNode wsEndPoint).run env w).2.calls ≤ w.calls + 2 ∧
      ((initCBCChain networkNode wsEndPoint).run env w).2.slept = w.slept := by
  simp only [initCBCChain, run_bind, info_run]
  split
  · exact ⟨⟨rfl, rfl, le_rfl⟩, Nat.le_add_right _ _, rfl⟩
  · simp only [run_bind, info_run, Prog.check, run_bind', CBCInitializer.Initialize,
      runtimeVersionRecent_run, recent, usable, if_true, run_pure]
    obtain ⟨k, fresh, two, world⟩ :=
      (newCBCInitializer wsEndPoint).verifyDCFFinality_world env _
    rw [world]
    split <;> exact ⟨⟨rfl, rfl, Nat.le_add_right _ _⟩, Nat.add_le_add_left two _, rfl⟩

theorem restart_loads_stored_record (networkNode wsEndPoint : String) (env : Env) {w : World}
    {r : RuntimeVersionRecord} (recent : w.store.runtimeVersionRecent = some r)
    (usable : Go.hasPrefix r.rawData "0x" = true) :
    ∃ w', (new networkNode wsEndPoint).run env w = (.ok (), w') ∧ w'.store = w.store ∧
      w'.registry = (r.specVersion, r.rawData) :: w.registry ∧ w'.calls ≤ w.calls + 2 ∧
      w'.slept = w.slept := by
  obtain ⟨⟨store, registry, -⟩, calls, slept⟩ :=
    initCBCChain_initialized networkNode wsEndPoint env recent usable
  simp only [new, run_bind]
  generalize (initCBCChain networkNode wsEndPoint).run env w = chain at store registry calls slept
  obtain ⟨res, w₁⟩ := chain
  dsimp only at store registry calls slept
  rcases res with err | ⟨⟩ <;>
    simp [initSubRuntimeLatest, initSubRuntimeLatestWithoutFetch, recent, usable, store, registry,
      calls, slept]

def startedRecord : RuntimeVersionRecord :=
  ⟨"cbc-chain", 100, 0, insertModules, sampleMetadata 'b'⟩

theorem restart_loads_stored_record_cbc_chain :
    ((⟨[startedRecord]⟩ : Store).runtimeVersionRecent = some startedRecord ∧
      Go.hasPrefix startedRecord.rawData "0x" = true) ∧
    ∃ w', (new "cbc-chain" "ws://localhost:9944").run (upgrading fun _ => cbcRuntime)
        { store := ⟨[startedRecord]⟩ } = (.ok (), w') ∧ w'.store = ⟨[startedRecord]⟩ ∧
      w'.registry = [(100, sampleMetadata 'b')] ∧ w'.calls ≤ 0 + 2 ∧ w'.slept = 0 :=
  have recent : (⟨[startedRecord]⟩ : Store).runtimeVersionRecent = some startedRecord := rfl
  have usable : Go.hasPrefix startedRecord.rawData "0x" = true := by decide
  ⟨⟨recent, usable⟩,
    restart_loads_stored_record "cbc-chain" "ws://localhost:9944" _ recent usable⟩

theorem initCBCChain_cases (w : World) :
    ((Go.toLower networkNode ≠ "cbc" ∧ Go.toLower networkNode ≠ "cbc-chain" ∧
        Go.contains (Go.toLower networkNode) "cbc" = false) ∧
      Offline w ((initCBCChain networkNode wsEndPoint).run env w).2) ∨
    (¬ (Go.toLower networkNode ≠ "cbc" ∧ Go.toLower networkNode ≠ "cbc-chain" ∧
        Go.contains (Go.toLower networkNode) "cbc" = false) ∧
      ∃ logs,
        Offline ((newCBCInitializer wsEndPoint).Initialize.run env { w with logs := logs }).2
          ((initCBCChain networkNode wsEndPoint).run env w).2) := by
  simp only [initCBCChain, run_bind, info_run]
  split
  · next off => exact .inl ⟨off, rfl, rfl, le_rfl⟩
  · next cbc =>
    refine .inr ⟨cbc, _, Prog.check_offline (fun () w => ?_) _⟩
    simp only [run_bind]
    obtain ⟨k, fresh, -, world⟩ := (newCBCInitializer wsEndPoint).verifyDCFFinality_world env w
    rw [world]
    split <;> exact ⟨rfl, rfl, Nat.le_add_right _ _⟩

theorem initCBCChain_again (steady : env.Steady) {w w' : World}
    (again : w'.store = ((initCBCChain networkNode wsEndPoint).run env w).2.store) :
    ((initCBCChain networkNode wsEndPoint).run env w').2.store = w'.store ∧
      (¬ w'.store.Initialized →
        ∃ added,
          ((initCBCChain networkNode wsEndPoint).run env w).2.registry = added ++ w.registry ∧
          ((initCBCChain networkNode wsEndPoint).run env w').2.registry =
            added ++ w'.registry) := by
  rcases initCBCChain_cases networkNode wsEndPoint w with
    ⟨off, offline⟩ | ⟨cbc, logs, follows⟩ <;>
    rcases initCBCChain_cases networkNode wsEndPoint w' with
      ⟨off', offline'⟩ | ⟨cbc', logs', follows'⟩
  · exact ⟨offline'.store, fun _ => ⟨[], offline.registry, offline'.registry⟩⟩
  · exact absurd off cbc'
  · exact absurd off' cbc
  rw [follows.store] at again
  obtain ⟨fixed, registered⟩ :=
    @CBCInitializer.Initialize_again (newCBCInitializer wsEndPoint) env steady _
      { w' with logs := logs' } again
  refine ⟨follows'.store.trans fixed, fun fresh => ?_⟩
  obtain ⟨-, added, registry, registry'⟩ := registered fresh
  exact ⟨added, follows.registry.trans registry, follows'.registry.trans registry'⟩

theorem restart_repeats_startup (steady : env.Steady) {w w' : World}
    (restarted : w'.store = ((new networkNode wsEndPoint).run env w).2.store) :
    ((new networkNode wsEndPoint).run env w').1 = ((new networkNode wsEndPoint).run env w).1 ∧
      ((new networkNode wsEndPoint).run env w').2.store = w'.store ∧
      ∃ added added', ((new networkNode wsEndPoint).run env w).2.registry = added ++ w.registry ∧
        ((new networkNode wsEndPoint).run env w').2.registry = added' ++ w'.registry ∧
        added'.head? = added.head? := by
  obtain ⟨result, store, registry, -⟩ := new_agrees env networkNode wsEndPoint w
  obtain ⟨result', store', registry', -⟩ := new_agrees env networkNode wsEndPoint w'
  rw [store, initSubRuntimeLatest_keeps] at restarted
  obtain ⟨fixed, registered⟩ := initCBCChain_again networkNode wsEndPoint steady restarted
  obtain ⟨loadedSame, -, addedL, loaded, loaded'⟩ :=
    Prog.run_of_same_store steady initSubRuntimeLatest _ _ (restarted.symm.trans fixed.symm)
  obtain ⟨-, -, addedC, chained, -⟩ :=
    Prog.run_of_same_store steady (initCBCChain networkNode wsEndPoint) w w rfl
  obtain ⟨-, -, addedC', chained', -⟩ :=
    Prog.run_of_same_store steady (initCBCChain networkNode wsEndPoint) w' w' rfl
  refine ⟨result'.trans (loadedSame.symm.trans result.symm),
    by rw [store', initSubRuntimeLatest_keeps, fixed], ?_⟩
  rw [registry, registry', loaded, loaded']
  by_cases usable : w'.store.Initialized
  · obtain ⟨r, found, usable⟩ := usable
    have single : addedL = [(r.specVersion, r.rawData)] := by
      have registers := @initSubRuntimeLatest_loads env
        ((initCBCChain networkNode wsEndPoint).run env w).2 r (by rwa [← restarted]) usable
      rw [loaded] at registers
      exact List.append_cancel_right registers
    subst single
    exact ⟨_ ++ addedC, _ ++ addedC', by rw [chained, List.append_assoc],
      by rw [chained', List.append_assoc], rfl⟩
  · obtain ⟨added, chained, chained'⟩ := registered usable
    exact ⟨addedL ++ added, addedL ++ added, by rw [chained, List.append_assoc],
      by rw [chained', List.append_assoc], rfl⟩

theorem restart_repeats_startup_on_cbc_chain :
    let env := upgrading fun _ => cbcRuntime
    let first := (new "cbc-chain" "ws://localhost:9944").run env { store := Store.empty }
    let second := (new "cbc-chain" "ws://localhost:9944").run env { store := first.2.store }
    (env.Steady ∧ ({ store := first.2.store } : World).store = first.2.store) ∧
      second.1 = first.1 ∧ second.2.store = first.2.store ∧
      ∃ added added', first.2.registry = added ++ [] ∧ second.2.registry = added' ++ [] ∧
        added'.head? = added.head? :=
  ⟨⟨fun _ => ⟨rfl, rfl⟩, rfl⟩,
    restart_repeats_startup "cbc-chain" "ws://localhost:9944" (fun _ => ⟨rfl, rfl⟩) rfl⟩

end Service

end CbcExplorer
