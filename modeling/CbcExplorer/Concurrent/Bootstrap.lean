import CbcExplorer.Concurrent.Interleaving
import CbcExplorer.Cbc.Node

set_option autoImplicit false

namespace CbcExplorer

open Relation

variable (rt : Runtime)

-- the first-or-create of the runtime's row and the overwrite of its metadata
def BootstrapMove (s s' : Store) : Prop :=
  s' = (s.createRuntimeVersion rt.specName rt.specVersion 0).2 ∨
    s' = (s.setRuntimeData rt.specVersion insertModules rt.metadata).2

def Created (s : Store) : Prop :=
  ∃ r, s.rows = [r] ∧ r.specVersion = rt.specVersion ∧ (r.rawData = "" ∨ r.rawData = rt.metadata)

def Written (s : Store) : Prop :=
  ∃ r, s.rows = [r] ∧ r.specVersion = rt.specVersion ∧ r.rawData = rt.metadata

def Shaped (s : Store) : Prop := s.rows = [] ∨ Created rt s

variable {rt} {s : Store}

theorem Written.created (written : Written rt s) : Created rt s :=
  let ⟨r, rows, version, raw⟩ := written
  ⟨r, rows, version, .inr raw⟩

theorem created_of_create (shaped : Shaped rt s) :
    Created rt (s.createRuntimeVersion rt.specName rt.specVersion 0).2 := by
  rcases shaped with empty | ⟨r, rows, version, raw⟩
  · exact ⟨⟨rt.specName, rt.specVersion, 0, "", ""⟩, by simp [Store.createRuntimeVersion, empty],
      rfl, .inl rfl⟩
  · simpa [Store.createRuntimeVersion, rows, version] using ⟨r, rows, version, raw⟩

theorem written_of_set (created : Created rt s) :
    Written rt (s.setRuntimeData rt.specVersion insertModules rt.metadata).2 := by
  obtain ⟨r, rows, version, -⟩ := created
  exact ⟨{ r with modules := insertModules, rawData := rt.metadata },
    by simp [Store.setRuntimeData, rows, version], version, rfl⟩

theorem shaped_stable : Stable (BootstrapMove rt) (Shaped rt) := by
  rintro s _ shaped (rfl | rfl)
  · exact .inr (created_of_create shaped)
  · rcases shaped with empty | created
    · exact .inl (by simp [Store.setRuntimeData, empty])
    · exact .inr (written_of_set created).created

theorem created_stable : Stable (BootstrapMove rt) (Created rt) := by
  rintro s _ created (rfl | rfl)
  · exact created_of_create (.inr created)
  · exact (written_of_set created).created

theorem written_stable : Stable (BootstrapMove rt) (Written rt) := by
  rintro s _ written (rfl | rfl)
  · obtain ⟨r, rows, version, raw⟩ := written
    simpa [Store.createRuntimeVersion, rows, version] using ⟨r, rows, version, raw⟩
  · exact written_of_set written.created

theorem Shaped.written_of_recent (shaped : Shaped rt s) {r : RuntimeVersionRecord}
    (recent : s.runtimeVersionRecent = some r) (filled : r.rawData ≠ "") : Written rt s := by
  rcases shaped with empty | ⟨r', rows, version, raw⟩
  · simp [Store.runtimeVersionRecent, empty] at recent
  · obtain rfl : r' = r := by simpa [Store.runtimeVersionRecent, rows, Store.later] using recent
    exact ⟨r', rows, version, raw.resolve_left filled⟩

theorem Written.recent (written : Written rt s) :
    ∃ r, s.runtimeVersionRecent = some r ∧ r.specVersion = rt.specVersion ∧
      r.rawData = rt.metadata :=
  let ⟨r, rows, version, raw⟩ := written
  ⟨r, by simp [Store.runtimeVersionRecent, rows, Store.later], version, raw⟩

def Succeeds (rt : Runtime) (result : Except String Unit) (s : Store) : Prop :=
  result = .ok () ∧ Written rt s

namespace CBCInitializer

variable (c : CBCInitializer) {env : Env} {Rely : Store → Store → Prop}
  {head : Option (Int × String)}

@[simp] theorem retryPause_guarded {Post : Unit → Store → Option (Int × String) → Prop}
    (what : String) (i : Nat) :
    Guarded env Rely Post (c.retryPause what i) s head ↔ Post () s head := by
  unfold retryPause; split <;> simp [guarded_bind]

theorem fetchLoop_guarded {α : Type} (what : String) (req : RPCRequest)
    (decode : RPCResponse → Except String α) {a : α}
    (answers : ∀ n, (readAnswer (env.node n c.httpURL req)).bind decode = .ok a)
    {fuel : Nat} (running : 0 < fuel) (i : Nat) (lastErr : Option String)
    {Post : Except String α → Store → Option (Int × String) → Prop}
    (done : Post (.ok a) s head) :
    Guarded env Rely Post (c.fetchLoop what req decode fuel i lastErr) s head := by
  obtain ⟨fuel, rfl⟩ := Nat.exists_eq_add_of_lt running
  simp only [fetchLoop, guarded_bind, retryPause_guarded, makeRPCCall, guarded_post, guarded_pure,
    answers]
  exact fun _ => done

section Store

variable {Post : Except String Unit → Store → Option (Int × String) → Prop}
  (long : 100 ≤ Go.len rt.metadata) (done : ∀ s, Written rt s → Post (.ok ()) s head)
include long done

theorem writeRuntimeVersion_guarded (shaped : Shaped rt s) :
    Guarded env (BootstrapMove rt) Post
      (writeRuntimeVersion ⟨rt.specName, rt.specVersion⟩ rt.metadata) s head := by
  simp only [writeRuntimeVersion, guarded_bind, guarded_create, guarded_info, guarded_setData,
    guarded_recent]
  intro s₁ moved₁
  have created := created_of_create (shaped_stable.reflTransGen moved₁ shaped)
  refine ⟨.inl rfl, fun s₂ moved₂ => ⟨.inr rfl, fun s₃ moved₃ => ?_⟩⟩
  have written := written_stable.reflTransGen moved₃
    (written_of_set (created_stable.reflTransGen moved₂ created))
  obtain ⟨r, recent, version, raw⟩ := written.recent
  simp only [recent, version, raw, ne_eq, not_true_eq_false, false_or, not_lt.mpr long,
    if_false, guarded_bind, guarded_info, guarded_pure]
  exact done _ written

theorem insertRuntimeVersion_guarded (shaped : Shaped rt s) :
    Guarded env (BootstrapMove rt) Post
      (insertRuntimeVersion ⟨rt.specName, rt.specVersion⟩ rt.metadata) s head := by
  simp only [insertRuntimeVersion, guarded_bind, guarded_info, guarded_recent]
  intro s₁ moved
  have shaped₁ := shaped_stable.reflTransGen moved shaped
  split
  · exact writeRuntimeVersion_guarded long done shaped₁
  · next r recent =>
    split
    · next stored =>
      simp only [guarded_bind, guarded_info, guarded_pure]
      refine done _ (shaped₁.written_of_recent recent fun empty => ?_)
      simp [empty] at stored
    · exact writeRuntimeVersion_guarded long done shaped₁

end Store

section Bootstrap

variable (hex : Go.hasPrefix rt.metadata "0x" = true) (long : 100 ≤ Go.len rt.metadata)
  (retries : 0 < c.retries)
include hex long retries

theorem bootstrap_guarded (shaped : Shaped rt s) :
    Guarded (upgrading fun _ => rt) (BootstrapMove rt) (fun r s _ => Succeeds rt r s) c.bootstrap s
      head := by
  have metadata (n : Nat) :
      (readAnswer ((upgrading fun _ => rt).node n c.httpURL metadataRequest)).bind decodeMetadata =
        .ok rt.metadata := (answer_metadata rt).trans (if_pos hex)
  simp only [bootstrap, guarded_bind, guarded_info]
  refine guarded_check (c.fetchLoop_guarded _ _ _ (fun _ => answer_runtimeVersion rt) retries _ _
    ⟨_, rfl, ?_⟩)
  simp only [guarded_bind, guarded_info]
  refine guarded_check (c.fetchLoop_guarded _ _ _ metadata retries _ _ ⟨_, rfl, ?_⟩)
  simp only [guarded_bind, guarded_info]
  refine guarded_check
    (insertRuntimeVersion_guarded long (fun s written => ⟨(), rfl, ?_⟩) shaped)
  simp only [guarded_bind, guarded_latest, guarded_info, guarded_pure]
  exact ⟨rfl, written⟩

theorem Initialize_guarded (shaped : Shaped rt s) :
    Guarded (upgrading fun _ => rt) (BootstrapMove rt) (fun r s _ => Succeeds rt r s) c.Initialize s
      head := by
  simp only [Initialize, guarded_bind, guarded_info, guarded_recent]
  intro s₁ moved
  have shaped₁ := shaped_stable.reflTransGen moved shaped
  split
  · exact c.bootstrap_guarded hex long retries shaped₁
  · next r recent =>
    split
    · next prefixed =>
      simp only [guarded_bind, guarded_info, guarded_pure]
      refine ⟨rfl, shaped₁.written_of_recent recent fun empty => ?_⟩
      simp [empty, Go.hasPrefix] at prefixed
    · exact c.bootstrap_guarded hex long retries shaped₁

end Bootstrap

end CBCInitializer

def initializeRuns (endpoints : List String) : Sys (Except String Unit) :=
  { store := Store.empty
    procs := endpoints.map fun e => { prog := (newCBCInitializer e).Initialize } }

theorem succeeds_stable (result : Except String Unit) (_ : Option (Int × String)) :
    Stable (BootstrapMove rt) (Succeeds rt result) :=
  fun _ _ ⟨ok, written⟩ move => ⟨ok, written_stable _ _ written move⟩

theorem initializeRuns_guarded (hex : Go.hasPrefix rt.metadata "0x" = true)
    (long : 100 ≤ Go.len rt.metadata) (endpoints : List String) :
    (initializeRuns endpoints).AllGuarded (upgrading fun _ => rt) (BootstrapMove rt)
      (fun r s _ => Succeeds rt r s) := by
  intro p mem
  obtain ⟨e, -, rfl⟩ := List.mem_map.mp mem
  exact (newCBCInitializer e).Initialize_guarded hex long (by simp [newCBCInitializer]) (.inl rfl)

theorem concurrent_bootstraps_succeed (rt : Runtime) (hex : Go.hasPrefix rt.metadata "0x" = true)
    (long : 100 ≤ Go.len rt.metadata) (endpoints : List String) (someRun : endpoints ≠ []) :
    (∀ sys, ReflTransGen (Sys.Step (upgrading fun _ => rt)) (initializeRuns endpoints) sys →
      (∀ p ∈ sys.procs, ∀ r, p.prog = .pure r → r = .ok ()) ∧
      ((∀ p ∈ sys.procs, ∃ r, p.prog = .pure r) →
        sys.store.runtimeVersionRecent.map (fun r => (r.specVersion, r.rawData)) =
          some (rt.specVersion, rt.metadata)) ∧
      ((∀ sys', ¬ Sys.Step (upgrading fun _ => rt) sys sys') →
        ∀ p ∈ sys.procs, ∃ r, p.prog = .pure r)) ∧
    WellFounded fun sys' sys : Sys (Except String Unit) =>
      Sys.Step (upgrading fun _ => rt) sys sys' := by
  refine ⟨fun sys run => ?_, Sys.step_wf⟩
  have guarded := (initializeRuns_guarded hex long endpoints).reachable succeeds_stable run
  refine ⟨fun p mem r returned => (guarded.returned mem returned).1, fun finished => ?_,
    Sys.finished_of_stuck⟩
  obtain ⟨p, mem⟩ : ∃ p, p ∈ sys.procs := List.exists_mem_of_ne_nil _ fun none => someRun <| by
    simpa [none, initializeRuns, eq_comm] using Sys.length_procs_of_reachable run
  obtain ⟨r, returned⟩ := finished p mem
  obtain ⟨rec, recent, version, raw⟩ := (guarded.returned mem returned).2.recent
  simp [recent, version, raw]

theorem concurrent_bootstraps_of_three_services :
    let rt : Runtime := ⟨"cbc-chain", 100, sampleMetadata 'b', by decide⟩
    (∀ sys, ReflTransGen (Sys.Step (upgrading fun _ => rt))
        (initializeRuns ["ws://localhost:9944", "ws://localhost:9944", "ws://localhost:9944"]) sys →
      (∀ p ∈ sys.procs, ∀ r, p.prog = .pure r → r = .ok ()) ∧
      ((∀ p ∈ sys.procs, ∃ r, p.prog = .pure r) →
        sys.store.runtimeVersionRecent.map (fun r => (r.specVersion, r.rawData)) =
          some (rt.specVersion, rt.metadata)) ∧
      ((∀ sys', ¬ Sys.Step (upgrading fun _ => rt) sys sys') →
        ∀ p ∈ sys.procs, ∃ r, p.prog = .pure r)) ∧
    WellFounded fun sys' sys : Sys (Except String Unit) =>
      Sys.Step (upgrading fun _ => rt) sys sys' :=
  concurrent_bootstraps_succeed _ (by decide) (by decide) _ (by decide)

end CbcExplorer
