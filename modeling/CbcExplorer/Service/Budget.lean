import CbcExplorer.Cbc.InitSpec
import CbcExplorer.Service.Service

set_option autoImplicit false

namespace CbcExplorer

open Prog

namespace Prog

variable {α β : Type}

-- at most `calls` calls and `sleep` nanoseconds of sleep, whatever the store and the node
def Costs (p : Prog α) (calls sleep : Nat) : Prop :=
  ∀ env w, (p.run env w).2.calls ≤ w.calls + calls ∧ (p.run env w).2.slept ≤ w.slept + sleep

theorem Costs.mono {p : Prog α} {a s a' s' : Nat} (costs : p.Costs a s) (calls : a ≤ a')
    (sleep : s ≤ s') : p.Costs a' s' := fun env w => by
  have := costs env w
  omega

theorem Costs.bind {p : Prog α} {f : α → Prog β} {a s b t : Nat} (first : p.Costs a s)
    (rest : ∀ x, (f x).Costs b t) : (p >>= f).Costs (a + b) (s + t) := fun env w => by
  have := first env w
  have := rest (p.run env w).1 env (p.run env w).2
  rw [run_bind]
  omega

theorem Costs.check {γ : Type} {p : Prog (Except String α)} {context : String}
    {k : α → Prog (Except String γ)} {a s b t : Nat} (first : p.Costs a s)
    (rest : ∀ x, (k x).Costs b t) : (p.check context k).Costs (a + b) (s + t) := by
  refine Costs.bind first fun r => ?_
  cases r with
  | error err => exact fun _ _ => ⟨Nat.le_add_right _ _, Nat.le_add_right _ _⟩
  | ok x => exact rest x

theorem costs_pure (a : α) : (Pure.pure a : Prog α).Costs 0 0 := fun _ _ => ⟨le_rfl, le_rfl⟩

theorem costs_pure' (a : α) : (Prog.pure a).Costs 0 0 := fun _ _ => ⟨le_rfl, le_rfl⟩

end Prog

section Effects

theorem costs_recent : Dao.runtimeVersionRecent.Costs 0 0 := fun _ _ => ⟨le_rfl, le_rfl⟩

theorem costs_create (name : String) (v b : Int) : (Dao.createRuntimeVersion name v b).Costs 0 0 :=
  fun _ _ => ⟨le_rfl, le_rfl⟩

theorem costs_setData (v : Int) (m d : String) : (Dao.setRuntimeData v m d).Costs 0 0 :=
  fun _ _ => ⟨le_rfl, le_rfl⟩

theorem costs_post (url : String) (req : RPCRequest) : (post url req).Costs 1 0 :=
  fun _ _ => ⟨le_rfl, le_rfl⟩

theorem costs_sleep (t : Nat) : (sleep t).Costs 0 t := fun _ _ => ⟨le_rfl, le_rfl⟩

theorem costs_latest (v : Int) (m : String) : (latest v m).Costs 0 0 :=
  fun _ _ => ⟨le_rfl, le_rfl⟩

theorem costs_info (m : String) : (Logger.info m).Costs 0 0 := fun _ _ => ⟨le_rfl, le_rfl⟩

theorem costs_warning (m : String) : (Logger.warning m).Costs 0 0 := fun _ _ => ⟨le_rfl, le_rfl⟩

theorem costs_error (m : String) : (Logger.error m).Costs 0 0 := fun _ _ => ⟨le_rfl, le_rfl⟩

end Effects

namespace CBCInitializer

variable (c : CBCInitializer)

theorem retryPause_costs (what : String) (i : Nat) :
    (c.retryPause what i).Costs 0 (if 0 < i then c.retryWait else 0) := fun env w =>
  ⟨(c.retryPause_run env what i w).2.2.le, (c.retryPause_slept env what i w).le⟩

theorem fetchLoop_costs {α : Type} (what : String) (req : RPCRequest)
    (decode : RPCResponse → Except String α) (fuel i : Nat) (lastErr : Option String) :
    (c.fetchLoop what req decode fuel i lastErr).Costs fuel
      ((fuel - if 0 < i then 0 else 1) * c.retryWait) := by
  induction fuel generalizing i lastErr with
  | zero => exact fun _ _ => by simp [fetchLoop]
  | succ fuel ih =>
    intro env w
    obtain ⟨w₁, -, calls, slept, attempt⟩ :=
      c.fetchLoop_attempt env what req decode fuel i lastErr w
    have pauses : (fuel + 1 - if 0 < i then 0 else 1) * c.retryWait =
        (if 0 < i then c.retryWait else 0) + fuel * c.retryWait := by
      split <;> simp [Nat.add_mul, Nat.add_comm]
    rw [attempt, pauses]
    split
    · simp only
      omega
    · next err _ =>
      have rest := ih (i + 1) (some err) env w₁
      simp only [Nat.succ_pos, if_true, Nat.sub_zero] at rest
      omega

theorem fetchMetadata_costs : c.fetchMetadata.Costs c.retries ((c.retries - 1) * c.retryWait) := by
  simpa using c.fetchLoop_costs "metadata" metadataRequest decodeMetadata c.retries 0 none

theorem fetchRuntimeVersion_costs :
    c.fetchRuntimeVersion.Costs c.retries ((c.retries - 1) * c.retryWait) := by
  simpa using c.fetchLoop_costs "runtime version" runtimeVersionRequest decodeRuntimeVersion
    c.retries 0 none

theorem writeRuntimeVersion_costs (version : RuntimeVersion) (metadataHex : String) :
    (writeRuntimeVersion version metadataHex).Costs 0 0 := fun env w => by
  simp only [writeRuntimeVersion, run_bind, createRuntimeVersion_run, info_run,
    setRuntimeData_run, runtimeVersionRecent_run]
  split
  · simp
  · split <;> simp

theorem insertRuntimeVersion_costs (version : RuntimeVersion) (metadataHex : String) :
    (insertRuntimeVersion version metadataHex).Costs 0 0 := fun env w => by
  simp only [insertRuntimeVersion, run_bind, info_run, runtimeVersionRecent_run]
  split
  · exact writeRuntimeVersion_costs version metadataHex env _
  · split
    · simp
    · exact writeRuntimeVersion_costs version metadataHex env _

theorem bootstrap_costs :
    c.bootstrap.Costs (2 * c.retries) (2 * ((c.retries - 1) * c.retryWait)) := by
  unfold bootstrap
  refine ((costs_info _).bind fun _ => (c.fetchRuntimeVersion_costs.check fun _ =>
    (costs_info _).bind fun _ => c.fetchMetadata_costs.check fun _ =>
      (costs_info _).bind fun _ => (insertRuntimeVersion_costs _ _).check fun _ =>
        (costs_latest _ _).bind fun _ => (costs_info _).bind fun _ => costs_pure _)).mono ?_ ?_ <;>
    omega

theorem Initialize_costs :
    c.Initialize.Costs (2 * c.retries) (2 * ((c.retries - 1) * c.retryWait)) := fun env w => by
  simp only [Initialize, run_bind, info_run, runtimeVersionRecent_run]
  split
  · exact c.bootstrap_costs env _
  · split
    · simp
    · exact c.bootstrap_costs env _

theorem verifyDCFFinality_costs : c.verifyDCFFinality.Costs 2 0 := by
  unfold verifyDCFFinality
  refine ((costs_info _).bind fun _ => ((costs_post _ _).bind fun _ => costs_pure _).check fun _ =>
    (costs_pure' _).check fun _ => ((costs_post _ _).bind fun _ => costs_pure _).check fun _ =>
      (costs_pure' _).check fun _ => (costs_info _).bind fun _ =>
        show Costs _ 0 0 by
          split
          · exact ((costs_warning _).bind fun _ => costs_warning _).bind fun _ => costs_pure _
          · exact (costs_info _).bind fun _ => costs_pure _).mono ?_ ?_ <;>
    omega

end CBCInitializer

namespace Service

theorem codecLoop_costs (fuel i : Nat) (raw : String) : (codecLoop fuel i raw).Costs fuel 0 := by
  induction fuel generalizing i raw with
  | zero => exact fun _ _ => by simp [codecLoop]
  | succ fuel ih =>
    unfold codecLoop
    refine ((show regCodecMetadata.Costs 1 0 from fun _ _ => ⟨le_rfl, le_rfl⟩).bind fun raw =>
      show Costs _ fuel 0 by
        split
        · exact (((costs_latest _ _).bind fun _ => costs_pure _)).mono (Nat.zero_le _) le_rfl
        · exact ((costs_warning _).bind fun _ => ih _ _).mono (by omega) le_rfl).mono ?_ ?_ <;>
      omega

theorem initSubRuntimeLatest_costs : initSubRuntimeLatest.Costs 3 0 := by
  unfold initSubRuntimeLatest
  refine (costs_recent.bind fun recent => show Costs _ 3 0 by
    rcases recent with _ | recent
    · exact codecLoop_costs 3 0 ""
    · dsimp only
      split
      · exact (((costs_latest _ _).bind fun _ => costs_pure _)).mono (Nat.zero_le _) le_rfl
      · exact codecLoop_costs 3 0 "").mono le_rfl le_rfl

theorem initSubRuntimeLatestWithoutFetch_costs : initSubRuntimeLatestWithoutFetch.Costs 3 0 := by
  have fallBack_costs : fallBack.Costs 3 0 :=
    (costs_warning _).bind fun _ => initSubRuntimeLatest_costs
  unfold initSubRuntimeLatestWithoutFetch
  refine (costs_recent.bind fun recent => show Costs _ 3 0 by
    rcases recent with _ | recent
    · exact fallBack_costs
    · dsimp only
      split
      · exact ((costs_info _).bind fun _ => (costs_latest _ _).bind fun _ => costs_pure _).mono
          (Nat.zero_le _) le_rfl
      · exact fallBack_costs).mono le_rfl le_rfl

theorem initCBCChain_costs (networkNode wsEndPoint : String) :
    (initCBCChain networkNode wsEndPoint).Costs 8 (4 * (2 * second)) := by
  have started := (newCBCInitializer wsEndPoint).Initialize_costs
  have verify := (newCBCInitializer wsEndPoint).verifyDCFFinality_costs
  simp only [newCBCInitializer] at started verify
  unfold initCBCChain
  refine ((costs_info _).bind fun _ => show Costs _ 8 (4 * (2 * second)) by
    dsimp only
    split
    · exact ((costs_info _).bind fun _ => costs_pure _).mono (Nat.zero_le _) (Nat.zero_le _)
    · refine ((costs_info _).bind fun _ => started.check fun _ => verify.bind fun r =>
        show Costs _ 0 0 by
          rcases r with err | ⟨⟩
          · exact (costs_warning _).bind fun _ => (costs_info _).bind fun _ => costs_pure _
          · exact (costs_pure _).bind fun _ => (costs_info _).bind fun _ => costs_pure _).mono
        ?_ ?_ <;> omega).mono ?_ ?_ <;>
    omega

theorem new_costs (networkNode wsEndPoint : String) :
    (new networkNode wsEndPoint).Costs 11 (4 * (2 * second)) := by
  unfold new
  refine (initCBCChain_costs networkNode wsEndPoint).bind fun r => show Costs _ 3 0 by
    rcases r with err | ⟨⟩
    · exact ((costs_warning _).bind fun _ => initSubRuntimeLatest_costs).mono le_rfl le_rfl
    · exact initSubRuntimeLatestWithoutFetch_costs

end Service

theorem startup_within_budget (c : CBCInitializer) (networkNode wsEndPoint : String) (env : Env)
    (w : World) :
    ((c.Initialize.run env w).2.calls ≤ w.calls + 2 * c.retries ∧
      (c.Initialize.run env w).2.slept ≤ w.slept + 2 * ((c.retries - 1) * c.retryWait)) ∧
    ((Service.new networkNode wsEndPoint).run env w).2.calls ≤ w.calls + 11 ∧
      ((Service.new networkNode wsEndPoint).run env w).2.slept ≤ w.slept + 8 * second := by
  refine ⟨c.Initialize_costs env w, ?_⟩
  have within := Service.new_costs networkNode wsEndPoint env w
  omega

end CbcExplorer
