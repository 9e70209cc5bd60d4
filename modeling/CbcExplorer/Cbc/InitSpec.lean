import CbcExplorer.Cbc.Init

set_option autoImplicit false

namespace CbcExplorer

structure Offline (w w' : World) : Prop where
  store : w'.store = w.store
  registry : w'.registry = w.registry
  calls : w.calls ≤ w'.calls

theorem Offline.refl (w : World) : Offline w w := ⟨rfl, rfl, le_rfl⟩

theorem Offline.trans {w₁ w₂ w₃ : World} (h₁ : Offline w₁ w₂) (h₂ : Offline w₂ w₃) : Offline w₁ w₃ :=
  ⟨h₂.store.trans h₁.store, h₂.registry.trans h₁.registry, h₁.calls.trans h₂.calls⟩

def Store.Initialized (s : Store) : Prop :=
  ∃ r, s.runtimeVersionRecent = some r ∧ Go.hasPrefix r.rawData "0x" = true

open Prog

namespace CBCInitializer

variable (c : CBCInitializer) (env : Env)

theorem retryPause_run (what : String) (i : Nat) (w : World) :
    ((c.retryPause what i).run env w).2.store = w.store ∧
      ((c.retryPause what i).run env w).2.registry = w.registry ∧
      ((c.retryPause what i).run env w).2.calls = w.calls := by
  unfold retryPause; split <;> simp

theorem retryPause_slept (what : String) (i : Nat) (w : World) :
    ((c.retryPause what i).run env w).2.slept = w.slept + if 0 < i then c.retryWait else 0 := by
  unfold retryPause; split <;> simp [*]

theorem fetchLoop_attempt {α : Type} (what : String) (req : RPCRequest)
    (decode : RPCResponse → Except String α) (fuel i : Nat) (lastErr : Option String) (w : World) :
    ∃ w₁ : World, Offline w w₁ ∧ w₁.calls = w.calls + 1 ∧
      w₁.slept = w.slept + (if 0 < i then c.retryWait else 0) ∧
      (c.fetchLoop what req decode (fuel + 1) i lastErr).run env w =
        match (readAnswer (env.node w.calls c.httpURL req)).bind decode with
        | .ok a => (.ok a, w₁)
        | .error err => (c.fetchLoop what req decode fuel (i + 1) (some err)).run env w₁ := by
  obtain ⟨store, registry, calls⟩ := c.retryPause_run env what i w
  have slept := c.retryPause_slept env what i w
  simp only [fetchLoop, run_bind, makeRPCCall, post_run, run_pure]
  generalize ((c.retryPause what i).run env w).2 = w₁ at store registry calls slept ⊢
  refine ⟨{ w₁ with calls := w₁.calls + 1 }, ⟨store, registry, by simp; omega⟩, by simp [calls],
    slept, ?_⟩
  rw [calls]
  cases (readAnswer (env.node w.calls c.httpURL req)).bind decode <;> rfl

theorem fetchLoop_run {α : Type} (what : String) (req : RPCRequest)
    (decode : RPCResponse → Except String α) (fuel i : Nat) (lastErr : Option String) (w : World) :
    Offline w ((c.fetchLoop what req decode fuel i lastErr).run env w).2 ∧
      ∀ a, ((c.fetchLoop what req decode fuel i lastErr).run env w).1 = .ok a →
        ∃ k, w.calls ≤ k ∧
          ((c.fetchLoop what req decode fuel i lastErr).run env w).2.calls = k + 1 ∧
          (readAnswer (env.node k c.httpURL req)).bind decode = .ok a := by
  induction fuel generalizing i lastErr w with
  | zero => simp [fetchLoop, Offline.refl]
  | succ fuel ih =>
    obtain ⟨w₁, posted, calls, -, attempt⟩ :=
      c.fetchLoop_attempt env what req decode fuel i lastErr w
    rw [attempt]
    cases decoded : (readAnswer (env.node w.calls c.httpURL req)).bind decode with
    | ok a => exact ⟨posted, fun b same => ⟨w.calls, le_rfl, calls, decoded.trans same⟩⟩
    | error err =>
      obtain ⟨later, fetched⟩ := ih (i + 1) (some err) w₁
      refine ⟨posted.trans later, fun b ok => ?_⟩
      obtain ⟨k, after, last, decoded⟩ := fetched b ok
      exact ⟨k, by omega, last, decoded⟩

theorem fetchLoop_failing {α : Type} (what : String) (req : RPCRequest)
    (decode : RPCResponse → Except String α) (fuel i : Nat) (lastErr : Option String) (w : World)
    (failing : ∀ n, w.calls ≤ n → n ≤ w.calls + fuel →
      ∃ err, (readAnswer (env.node n c.httpURL req)).bind decode = .error err) :
    let run := (c.fetchLoop what req decode (fuel + 1) i lastErr).run env w
    run.2.calls = w.calls + (fuel + 1) ∧ run.2.store = w.store ∧
      run.2.slept = w.slept + (fuel + if 0 < i then 1 else 0) * c.retryWait ∧
      ∃ err, (readAnswer (env.node (w.calls + fuel) c.httpURL req)).bind decode = .error err ∧
        run.1 = .error ("failed after " ++ toString c.retries ++ " retries: " ++ err) := by
  induction fuel generalizing i lastErr w with
  | zero =>
    obtain ⟨err, failed⟩ := failing w.calls le_rfl le_rfl
    obtain ⟨w₁, posted, calls, slept, attempt⟩ :=
      c.fetchLoop_attempt env what req decode 0 i lastErr w
    simp only [attempt, failed]
    refine ⟨?_, posted.store, ?_, err, failed, ?_⟩ <;> simp [fetchLoop, wrapError, *]
  | succ fuel ih =>
    obtain ⟨err, failed⟩ := failing w.calls le_rfl (Nat.le_add_right _ _)
    obtain ⟨w₁, posted, calls, slept, attempt⟩ :=
      c.fetchLoop_attempt env what req decode (fuel + 1) i lastErr w
    simp only [attempt, failed]
    obtain ⟨calls', store', slept', err', failed', result⟩ :=
      ih (i + 1) (some err) w₁ fun n lo hi => failing n (by omega) (by omega)
    refine ⟨by omega, store'.trans posted.store, ?_, err',
      by rwa [calls, Nat.add_right_comm] at failed', result⟩
    rw [slept', slept, if_pos (Nat.succ_pos i)]
    split <;> simp only [Nat.add_mul, Nat.one_mul, Nat.zero_mul] <;> omega

theorem fetchLoop_error {α : Type} (what : String) (req : RPCRequest)
    (decode : RPCResponse → Except String α) (fuel i : Nat) (lastErr : Option String) (w : World)
    {err : String}
    (failed : ((c.fetchLoop what req decode fuel i lastErr).run env w).1 = .error err) :
    ((c.fetchLoop what req decode fuel i lastErr).run env w).2.calls = w.calls + fuel ∧
      (∀ n, w.calls ≤ n → n < w.calls + fuel →
        ∃ e, (readAnswer (env.node n c.httpURL req)).bind decode = .error e) ∧
      ∃ e, err = "failed after " ++ toString c.retries ++ " retries: " ++ e := by
  induction fuel generalizing i lastErr w with
  | zero => exact ⟨rfl, fun n lo hi => absurd hi (by omega), _, (Except.error.inj failed).symm⟩
  | succ fuel ih =>
    obtain ⟨w₁, -, calls, -, attempt⟩ :=
      c.fetchLoop_attempt env what req decode fuel i lastErr w
    rw [attempt] at failed ⊢
    cases decoded : (readAnswer (env.node w.calls c.httpURL req)).bind decode with
    | ok a => simp [decoded] at failed
    | error e =>
      simp only [decoded] at failed ⊢
      obtain ⟨spent, failing, named⟩ := ih _ _ _ failed
      refine ⟨by omega, fun n lo hi => ?_, named⟩
      rcases Nat.eq_or_lt_of_le lo with rfl | later
      · exact ⟨e, decoded⟩
      · exact failing n (by omega) (by omega)

theorem fetchLoop_first_decoded {α : Type} (what : String) (req : RPCRequest)
    (decode : RPCResponse → Except String α) (fuel i : Nat) (lastErr : Option String) (w : World)
    (j : Nat) (a : α) (within : j < fuel)
    (failing : ∀ n, w.calls ≤ n → n < w.calls + j →
      ∃ err, (readAnswer (env.node n c.httpURL req)).bind decode = .error err)
    (decoded : (readAnswer (env.node (w.calls + j) c.httpURL req)).bind decode = .ok a) :
    ((c.fetchLoop what req decode fuel i lastErr).run env w).1 = .ok a ∧
      Offline w ((c.fetchLoop what req decode fuel i lastErr).run env w).2 ∧
      ((c.fetchLoop what req decode fuel i lastErr).run env w).2.calls = w.calls + (j + 1) ∧
      ((c.fetchLoop what req decode fuel i lastErr).run env w).2.slept =
        w.slept + (j + if 0 < i then 1 else 0) * c.retryWait := by
  induction j generalizing fuel i lastErr w with
  | zero =>
    obtain ⟨fuel, rfl⟩ : ∃ f, fuel = f + 1 := ⟨fuel - 1, by omega⟩
    obtain ⟨w₁, posted, calls, slept, attempt⟩ :=
      c.fetchLoop_attempt env what req decode fuel i lastErr w
    rw [attempt, ← Nat.add_zero w.calls, decoded]
    refine ⟨rfl, posted, calls, ?_⟩
    rw [slept]
    split <;> simp
  | succ j ih =>
    obtain ⟨fuel, rfl⟩ : ∃ f, fuel = f + 1 := ⟨fuel - 1, by omega⟩
    obtain ⟨err, failed⟩ := failing w.calls le_rfl (by omega)
    obtain ⟨w₁, posted, calls, slept, attempt⟩ :=
      c.fetchLoop_attempt env what req decode fuel i lastErr w
    rw [attempt, failed]
    dsimp only
    obtain ⟨ok, later, calls', slept'⟩ := ih fuel (i + 1) (some err) w₁ (by omega)
      (fun n lo hi => failing n (by omega) (by omega)) (by rwa [calls, Nat.add_right_comm])
    refine ⟨ok, posted.trans later, by omega, ?_⟩
    rw [slept', slept, if_pos (Nat.succ_pos i)]
    split <;> simp only [Nat.add_mul, Nat.one_mul, Nat.zero_mul] <;> omega

def flakyNode : Env :=
  ⟨fun n _ _ => if n = 0 then .transportFailed "connection reset"
    else .reply statusOK (.envelope ⟨1, "2.0", some (.str "0x00"), none⟩), fun _ => ""⟩

theorem fetchLoop_first_decoded_flaky_node :
    let c := newCBCInitializer "ws://localhost:9944"
    let run := (c.fetchLoop "metadata" metadataRequest decodeMetadata 3 0 none).run flakyNode
      { store := Store.empty }
    (1 < 3 ∧ (readAnswer (flakyNode.node (0 + 1) c.httpURL metadataRequest)).bind decodeMetadata =
        .ok "0x00") ∧
      run.1 = .ok "0x00" ∧ Offline { store := Store.empty } run.2 ∧ run.2.calls = 0 + (1 + 1) ∧
      run.2.slept = 0 + (1 + if 0 < 0 then 1 else 0) * c.retryWait :=
  ⟨⟨by decide, rfl⟩, fetchLoop_first_decoded _ flakyNode "metadata" metadataRequest decodeMetadata 3 0
    none { store := Store.empty } 1 "0x00" (by decide)
    (fun n _ hi => ⟨"failed to make request: connection reset", by
      obtain rfl : n = 0 := by simpa using hi
      rfl⟩) rfl⟩

def Inserted (version : RuntimeVersion) (metadataHex : String) (s s' : Store) : Prop :=
  (s' = s ∧ ∃ r, s.runtimeVersionRecent = some r ∧ r.specVersion = version.specVersion ∧
      100 < Go.len r.rawData) ∨
  (s' = ((s.createRuntimeVersion version.specName version.specVersion 0).2.setRuntimeData
      version.specVersion insertModules metadataHex).2 ∧
    ∃ r, s'.runtimeVersionRecent = some r ∧ r.specVersion = version.specVersion ∧
      100 ≤ Go.len r.rawData)

theorem Inserted.recent {version : RuntimeVersion} {metadataHex : String} {s s' : Store}
    (inserted : Inserted version metadataHex s s') :
    ∃ r, s'.runtimeVersionRecent = some r ∧ r.specVersion = version.specVersion ∧
      100 ≤ Go.len r.rawData ∧ (r.rawData = metadataHex ∨ (s' = s ∧ 100 < Go.len r.rawData)) := by
  rcases inserted with ⟨rfl, r, recent, version, long⟩ | ⟨rfl, r, recent, version, long⟩
  · exact ⟨r, recent, version, long.le, .inr ⟨rfl, long⟩⟩
  · exact ⟨r, recent, version, long,
      .inl (Store.setRuntimeData_row (Store.runtimeVersionRecent_mem recent) version).2⟩

theorem writeRuntimeVersion_ok {version : RuntimeVersion} {metadataHex : String} {w w' : World}
    (ok : (writeRuntimeVersion version metadataHex).run env w = (.ok (), w')) :
    w'.calls = w.calls ∧ w'.registry = w.registry ∧
      w'.store = ((w.store.createRuntimeVersion version.specName version.specVersion 0).2.setRuntimeData
        version.specVersion insertModules metadataHex).2 ∧
      ∃ r, w'.store.runtimeVersionRecent = some r ∧ r.specVersion = version.specVersion ∧
        100 ≤ Go.len r.rawData := by
  simp only [writeRuntimeVersion, run_bind, createRuntimeVersion_run, info_run,
    setRuntimeData_run, runtimeVersionRecent_run] at ok
  split at ok
  next => simp at ok
  next r recent =>
    split at ok
    next => simp at ok
    next verified =>
      simp only [run_bind, info_run, run_pure, Prod.mk.injEq] at ok
      obtain ⟨-, rfl⟩ := ok
      push_neg at verified
      exact ⟨rfl, rfl, rfl, r, recent, verified.1, verified.2⟩

theorem insertRuntimeVersion_ok {version : RuntimeVersion} {metadataHex : String} {w w' : World}
    (ok : (insertRuntimeVersion version metadataHex).run env w = (.ok (), w')) :
    w'.calls = w.calls ∧ w'.registry = w.registry ∧ Inserted version metadataHex w.store w'.store := by
  simp only [insertRuntimeVersion, run_bind, info_run, runtimeVersionRecent_run] at ok
  split at ok
  next =>
    obtain ⟨calls, registry, written, verified⟩ := writeRuntimeVersion_ok env ok
    exact ⟨calls, registry, .inr ⟨written, verified⟩⟩
  next r recent =>
    split at ok
    next stored =>
      simp only [run_bind, info_run, run_pure, Prod.mk.injEq] at ok
      obtain ⟨-, rfl⟩ := ok
      exact ⟨rfl, rfl, .inl ⟨rfl, r, recent, stored⟩⟩
    next =>
      obtain ⟨calls, registry, written, verified⟩ := writeRuntimeVersion_ok env ok
      exact ⟨calls, registry, .inr ⟨written, verified⟩⟩

theorem writeRuntimeVersion_error {version : RuntimeVersion} {metadataHex : String}
    {w w' : World} {err : String}
    (failed : (writeRuntimeVersion version metadataHex).run env w = (.error err, w')) :
    err = verifyFailed ∧ w'.calls = w.calls ∧
      w'.store = ((w.store.createRuntimeVersion version.specName version.specVersion 0).2.setRuntimeData
        version.specVersion insertModules metadataHex).2 := by
  simp only [writeRuntimeVersion, run_bind, createRuntimeVersion_run, info_run,
    setRuntimeData_run, runtimeVersionRecent_run] at failed
  split at failed
  next =>
    obtain ⟨rfl, rfl⟩ := by simpa using failed
    exact ⟨rfl, rfl, rfl⟩
  next =>
    split at failed
    next =>
      obtain ⟨rfl, rfl⟩ := by simpa using failed
      exact ⟨rfl, rfl, rfl⟩
    next => simp at failed

theorem insertRuntimeVersion_error {version : RuntimeVersion} {metadataHex : String}
    {w w' : World} {err : String}
    (failed : (insertRuntimeVersion version metadataHex).run env w = (.error err, w')) :
    err = verifyFailed ∧ w'.calls = w.calls ∧
      w'.store = ((w.store.createRuntimeVersion version.specName version.specVersion 0).2.setRuntimeData
        version.specVersion insertModules metadataHex).2 := by
  simp only [insertRuntimeVersion, run_bind, info_run, runtimeVersionRecent_run] at failed
  split at failed
  next => exact (writeRuntimeVersion_error env failed :)
  next =>
    split at failed
    next => simp at failed
    next => exact (writeRuntimeVersion_error env failed :)

theorem decodeMetadata_prefix {answer : HttpAnswer} {metadataHex : String}
    (decoded : (readAnswer answer).bind decodeMetadata = .ok metadataHex) :
    Go.hasPrefix metadataHex "0x" = true := by
  cases h : readAnswer answer with
  | error err => simp [h, Except.bind] at decoded
  | ok resp =>
    simp only [h, Except.bind, decodeMetadata] at decoded
    split at decoded
    · simp at decoded
    · split at decoded
      · simp_all
      · simp at decoded

theorem fetchRuntimeVersion_offline {w w' : World} {result : Except String RuntimeVersion}
    (fetched : c.fetchRuntimeVersion.run env w = (result, w')) : Offline w w' := by
  have loop := (c.fetchLoop_run env "runtime version" runtimeVersionRequest decodeRuntimeVersion
    c.retries 0 none w).1
  rwa [← fetchRuntimeVersion, fetched] at loop

theorem fetchMetadata_offline {w w' : World} {result : Except String String}
    (fetched : c.fetchMetadata.run env w = (result, w')) : Offline w w' := by
  have loop := (c.fetchLoop_run env "metadata" metadataRequest decodeMetadata c.retries 0 none w).1
  rwa [← fetchMetadata, fetched] at loop

theorem fetchRuntimeVersion_ok {w w' : World} {version : RuntimeVersion}
    (ok : c.fetchRuntimeVersion.run env w = (.ok version, w')) :
    Offline w w' ∧ ∃ k, w.calls ≤ k ∧ w'.calls = k + 1 ∧
      (readAnswer (env.node k c.httpURL runtimeVersionRequest)).bind decodeRuntimeVersion =
        .ok version := by
  have fetched := c.fetchLoop_run env "runtime version" runtimeVersionRequest decodeRuntimeVersion
    c.retries 0 none w
  rw [← fetchRuntimeVersion, ok] at fetched
  exact ⟨fetched.1, fetched.2 version rfl⟩

theorem fetchMetadata_ok {w w' : World} {metadataHex : String}
    (ok : c.fetchMetadata.run env w = (.ok metadataHex, w')) :
    Offline w w' ∧ ∃ k, w.calls ≤ k ∧ w'.calls = k + 1 ∧
      (readAnswer (env.node k c.httpURL metadataRequest)).bind decodeMetadata = .ok metadataHex := by
  have fetched := c.fetchLoop_run env "metadata" metadataRequest decodeMetadata c.retries 0 none w
  rw [← fetchMetadata, ok] at fetched
  exact ⟨fetched.1, fetched.2 metadataHex rfl⟩

theorem fetchMetadata_exhausted (w : World) (running : 0 < c.retries)
    (failing : ∀ n, w.calls ≤ n → n < w.calls + c.retries →
      ∃ err, (readAnswer (env.node n c.httpURL metadataRequest)).bind decodeMetadata = .error err) :
    (c.fetchMetadata.run env w).2.calls = w.calls + c.retries ∧
      (c.fetchMetadata.run env w).2.store = w.store ∧
      (c.fetchMetadata.run env w).2.slept = w.slept + (c.retries - 1) * c.retryWait ∧
      ∃ err, (readAnswer (env.node (w.calls + (c.retries - 1)) c.httpURL metadataRequest)).bind
          decodeMetadata = .error err ∧
        (c.fetchMetadata.run env w).1 =
          .error ("failed after " ++ toString c.retries ++ " retries: " ++ err) := by
  obtain ⟨fuel, budget⟩ : ∃ fuel, c.retries = fuel + 1 :=
    ⟨_, (Nat.succ_pred_eq_of_pos running).symm⟩
  have failed := c.fetchLoop_failing env "metadata" metadataRequest decodeMetadata fuel 0 none w
    fun n lo hi => failing n lo (by omega)
  rw [fetchMetadata, budget] at *
  simpa using failed

def nodeDown : Env := ⟨fun _ _ _ => .transportFailed "connection refused", fun _ => ""⟩

theorem fetchMetadata_exhausted_node_down :
    let run := (newCBCInitializer "ws://localhost:9944").fetchMetadata.run nodeDown
      { store := Store.empty }
    run.2.calls = 0 + 3 ∧ run.2.store = Store.empty ∧ run.2.slept = 0 + (3 - 1) * (2 * second) ∧
      ∃ err, (readAnswer (.transportFailed "connection refused")).bind decodeMetadata = .error err ∧
        run.1 = .error ("failed after " ++ toString 3 ++ " retries: " ++ err) :=
  fetchMetadata_exhausted _ _ _ (by decide) fun _ _ _ => ⟨_, rfl⟩

theorem fetchRuntimeVersion_exhausted (w : World) (running : 0 < c.retries)
    (failing : ∀ n, w.calls ≤ n → n < w.calls + c.retries →
      ∃ err, (readAnswer (env.node n c.httpURL runtimeVersionRequest)).bind
        decodeRuntimeVersion = .error err) :
    (c.fetchRuntimeVersion.run env w).2.calls = w.calls + c.retries ∧
      (c.fetchRuntimeVersion.run env w).2.store = w.store ∧
      (c.fetchRuntimeVersion.run env w).2.slept = w.slept + (c.retries - 1) * c.retryWait ∧
      ∃ err, (readAnswer (env.node (w.calls + (c.retries - 1)) c.httpURL
          runtimeVersionRequest)).bind decodeRuntimeVersion = .error err ∧
        (c.fetchRuntimeVersion.run env w).1 =
          .error ("failed after " ++ toString c.retries ++ " retries: " ++ err) := by
  obtain ⟨fuel, budget⟩ : ∃ fuel, c.retries = fuel + 1 :=
    ⟨_, (Nat.succ_pred_eq_of_pos running).symm⟩
  have failed := c.fetchLoop_failing env "runtime version" runtimeVersionRequest
    decodeRuntimeVersion fuel 0 none w fun n lo hi => failing n lo (by omega)
  rw [fetchRuntimeVersion, budget] at *
  simpa using failed

def Fetched (w w' : World) (version : RuntimeVersion) (metadataHex : String) : Prop :=
  ∃ k₁ k₂, w.calls ≤ k₁ ∧ k₁ < k₂ ∧ k₂ < w'.calls ∧
    (readAnswer (env.node k₁ c.httpURL runtimeVersionRequest)).bind decodeRuntimeVersion =
      .ok version ∧
    (readAnswer (env.node k₂ c.httpURL metadataRequest)).bind decodeMetadata = .ok metadataHex

def Bootstrapped (w w' : World) : Prop :=
  ∃ version metadataHex, c.Fetched env w w' version metadataHex ∧
    w'.registry = (version.specVersion, metadataHex) :: w.registry ∧
    Inserted version metadataHex w.store w'.store

def Exhausted {α : Type} (req : RPCRequest) (decode : RPCResponse → Except String α)
    (start stop : Nat) : Prop :=
  stop = start + c.retries ∧ ∀ n, start ≤ n → n < start + c.retries →
    ∃ e, (readAnswer (env.node n c.httpURL req)).bind decode = .error e

def BootstrapFailed (w w' : World) (err : String) : Prop :=
  w'.store = w.store ∧
      ((∃ e, err = "failed to fetch runtime version: " ++
            ("failed after " ++ toString c.retries ++ " retries: " ++ e) ∧
          c.Exhausted env runtimeVersionRequest decodeRuntimeVersion w.calls w'.calls) ∨
        ∃ e k version, err = "failed to fetch metadata: " ++
            ("failed after " ++ toString c.retries ++ " retries: " ++ e) ∧ w.calls ≤ k ∧
          (readAnswer (env.node k c.httpURL runtimeVersionRequest)).bind decodeRuntimeVersion =
            .ok version ∧
          c.Exhausted env metadataRequest decodeMetadata (k + 1) w'.calls) ∨
    err = "failed to insert runtime version: " ++ verifyFailed ∧
      ∃ version metadataHex k₁ k₂, w.calls ≤ k₁ ∧ k₁ < k₂ ∧ w'.calls = k₂ + 1 ∧
        (readAnswer (env.node k₁ c.httpURL runtimeVersionRequest)).bind decodeRuntimeVersion =
          .ok version ∧
        (readAnswer (env.node k₂ c.httpURL metadataRequest)).bind decodeMetadata =
          .ok metadataHex ∧
        w'.store = ((w.store.createRuntimeVersion version.specName version.specVersion
          0).2.setRuntimeData version.specVersion insertModules metadataHex).2

theorem bootstrap_ok {w w' : World} (ok : c.bootstrap.run env w = (.ok (), w')) :
    c.Bootstrapped env w w' := by
  simp only [bootstrap, run_bind, info_run] at ok
  obtain ⟨version, w₁, fetchedVersion, ok⟩ := check_run_ok env ok
  obtain ⟨offline₁, k₁, after₁, before₁, decoded₁⟩ := c.fetchRuntimeVersion_ok env fetchedVersion
  simp only [run_bind, info_run] at ok
  obtain ⟨metadataHex, w₂, fetchedMetadata, ok⟩ := check_run_ok env ok
  obtain ⟨offline₂, k₂, after₂, before₂, decoded₂⟩ := c.fetchMetadata_ok env fetchedMetadata
  simp only [run_bind, info_run] at ok
  obtain ⟨⟨⟩, w₃, inserted, ok⟩ := check_run_ok env ok
  obtain ⟨calls, registry, stored⟩ := insertRuntimeVersion_ok env inserted
  simp only [run_bind, latest_run, info_run, run_pure, Prod.mk.injEq] at ok
  obtain ⟨-, rfl⟩ := ok
  simp only at after₁ after₂ calls registry stored offline₁ offline₂
  refine ⟨version, metadataHex, ⟨k₁, k₂, after₁, by omega, by simp; omega, decoded₁, decoded₂⟩,
    by simp [registry, offline₂.registry, offline₁.registry], ?_⟩
  simpa [offline₂.store, offline₁.store] using stored

theorem writeRuntimeVersion_registry (version : RuntimeVersion) (metadataHex : String) (w : World) :
    ((writeRuntimeVersion version metadataHex).run env w).2.registry = w.registry := by
  simp only [writeRuntimeVersion, run_bind, createRuntimeVersion_run, info_run,
    setRuntimeData_run, runtimeVersionRecent_run]
  split
  · rfl
  · split <;> rfl

theorem insertRuntimeVersion_registry {version : RuntimeVersion} {metadataHex : String}
    {w w' : World} {result : Except String Unit}
    (inserted : (insertRuntimeVersion version metadataHex).run env w = (result, w')) :
    w'.registry = w.registry := by
  simp only [insertRuntimeVersion, run_bind, info_run, runtimeVersionRecent_run] at inserted
  rw [show w' = _ from (congrArg Prod.snd inserted).symm]
  split
  · exact writeRuntimeVersion_registry env _ _ _
  · split
    · rfl
    · exact writeRuntimeVersion_registry env _ _ _

theorem bootstrap_error_cases {w w' : World} {err : String}
    (failed : c.bootstrap.run env w = (.error err, w')) :
    w'.registry = w.registry ∧ c.BootstrapFailed env w w' err := by
  simp only [bootstrap, run_bind, info_run] at failed
  rcases check_run_error_cases env failed with
    ⟨e, rfl, fetched⟩ | ⟨version, w₁, fetched₁, failed⟩
  · have offline := c.fetchRuntimeVersion_offline env fetched
    obtain ⟨spent, failing, e, rfl⟩ := c.fetchLoop_error env "runtime version"
      runtimeVersionRequest decodeRuntimeVersion c.retries 0 none _ (congrArg Prod.fst fetched)
    rw [← fetchRuntimeVersion, fetched] at spent
    exact ⟨offline.registry, .inl ⟨offline.store, .inl ⟨e, rfl, spent, failing⟩⟩⟩
  obtain ⟨offline₁, k₁, after₁, last₁, decoded₁⟩ := c.fetchRuntimeVersion_ok env fetched₁
  simp only [run_bind, info_run] at failed
  rcases check_run_error_cases env failed with
    ⟨e, rfl, fetched⟩ | ⟨metadataHex, w₂, fetched₂, failed⟩
  · have offline₂ := c.fetchMetadata_offline env fetched
    obtain ⟨spent, failing, e, rfl⟩ := c.fetchLoop_error env "metadata" metadataRequest
      decodeMetadata c.retries 0 none _ (congrArg Prod.fst fetched)
    rw [← fetchMetadata, fetched] at spent
    simp only [last₁] at spent failing
    exact ⟨offline₂.registry.trans offline₁.registry,
      .inl ⟨offline₂.store.trans offline₁.store, .inr ⟨e, k₁, version, rfl, after₁, decoded₁,
        spent, failing⟩⟩⟩
  obtain ⟨offline₂, k₂, after₂, last₂, decoded₂⟩ := c.fetchMetadata_ok env fetched₂
  simp only [run_bind, info_run] at failed
  rcases check_run_error_cases env failed with ⟨e, rfl, inserted⟩ | ⟨⟨⟩, w₃, -, failed⟩
  · obtain ⟨rfl, calls, written⟩ := insertRuntimeVersion_error env inserted
    simp only at after₂ calls offline₁ offline₂
    refine ⟨(insertRuntimeVersion_registry env inserted).trans
        (offline₂.registry.trans offline₁.registry),
      .inr ⟨rfl, version, metadataHex, k₁, k₂, after₁, by omega, by omega, decoded₁, decoded₂,
        ?_⟩⟩
    simpa [offline₂.store, offline₁.store] using written
  · simp at failed

theorem bootstrap_error {w w' : World} {err : String}
    (failed : c.bootstrap.run env w = (.error err, w')) : w'.registry = w.registry :=
  (c.bootstrap_error_cases env failed).1

theorem Initialize_of_initialized {w : World} (initialized : w.store.Initialized) :
    (c.Initialize.run env w).1 = .ok () ∧ (c.Initialize.run env w).2.store = w.store ∧
      (c.Initialize.run env w).2.calls = w.calls ∧
      (c.Initialize.run env w).2.registry = w.registry := by
  obtain ⟨r, recent, usable⟩ := initialized
  simp [Initialize, recent, usable]

theorem Initialize_ok {w w' : World} (ok : c.Initialize.run env w = (.ok (), w')) :
    (w.store.Initialized ∧ w'.store = w.store ∧ w'.calls = w.calls ∧ w'.registry = w.registry) ∨
      c.Bootstrapped env w w' := by
  simp only [Initialize, run_bind, info_run, runtimeVersionRecent_run] at ok
  split at ok
  next => exact .inr (c.bootstrap_ok env ok :)
  next r recent =>
    split at ok
    next usable =>
      simp only [run_bind, info_run, run_pure, Prod.mk.injEq] at ok
      obtain ⟨-, rfl⟩ := ok
      exact .inl ⟨⟨r, recent, usable⟩, rfl, rfl, rfl⟩
    next => exact .inr (c.bootstrap_ok env ok :)

theorem Initialize_error_bootstrap {w w' : World} {err : String}
    (failed : c.Initialize.run env w = (.error err, w')) :
    c.bootstrap.run env { w with logs := w.logs ++ [(.info, "Starting CBC Chain initialization...")] } =
      (.error err, w') := by
  simp only [Initialize, run_bind, info_run, runtimeVersionRecent_run] at failed
  split at failed
  next => exact failed
  next =>
    split at failed
    next => simp at failed
    next => exact failed

theorem Initialize_error {w w' : World} {err : String}
    (failed : c.Initialize.run env w = (.error err, w')) : w'.registry = w.registry :=
  (c.bootstrap_error env (c.Initialize_error_bootstrap env failed) :)

end CBCInitializer

end CbcExplorer
