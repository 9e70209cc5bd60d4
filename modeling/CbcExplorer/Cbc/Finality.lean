import CbcExplorer.Cbc.InitSpec

set_option autoImplicit false

namespace CbcExplorer

open Prog

namespace CBCInitializer

variable (c : CBCInitializer) (env : Env)

def FinalityAnswered (n : Nat) (finalizedHash : String) : Prop :=
  (readAnswer (env.node n c.httpURL finalizedHeadRequest)).bind
      (fun resp => unmarshalString resp.result) = .ok finalizedHash ∧
    (readAnswer (env.node (n + 1) c.httpURL (finalizedBlockRequest finalizedHash))).bind
      (fun resp => unmarshalMap resp.result) = .ok ()

theorem FinalityAnswered.unique {n : Nat} {h h' : String} (answered : c.FinalityAnswered env n h)
    (answered' : c.FinalityAnswered env n h') : h = h' :=
  Except.ok.inj (answered.1.symm.trans answered'.1)

theorem verifyDCFFinality_cases (w : World) :
    (∃ err k, k ≤ 2 ∧ (∀ h, ¬ c.FinalityAnswered env w.calls h) ∧
      c.verifyDCFFinality.run env w = (.error err,
        { w with calls := w.calls + k,
                 logs := w.logs ++ [(.info, "Verifying DCF finality integration...")] })) ∨
    ∃ h fresh, c.FinalityAnswered env w.calls h ∧
      ((∃ msg, (Level.warning, msg) ∈ fresh) ↔ isGenesisHash h = true) ∧
      c.verifyDCFFinality.run env w =
        (.ok (), { w with calls := w.calls + 2, logs := w.logs ++ fresh }) := by
  cases head : readAnswer (env.node w.calls c.httpURL finalizedHeadRequest) with
  | error e =>
    refine .inl ⟨"failed to get finalized head: " ++ e, 1, by omega, fun h answered => ?_, ?_⟩
    · simpa [head, Except.bind] using answered.1
    simp [verifyDCFFinality, makeRPCCall, check, head]
  | ok resp =>
  cases hash : unmarshalString resp.result with
  | error e =>
    refine .inl ⟨"failed to unmarshal finalized hash: " ++ e, 1, by omega, fun h answered => ?_, ?_⟩
    · simpa [head, hash, Except.bind] using answered.1
    simp [verifyDCFFinality, makeRPCCall, check, head, hash]
  | ok h =>
  have first : (readAnswer (env.node w.calls c.httpURL finalizedHeadRequest)).bind
      (fun resp => unmarshalString resp.result) = .ok h := by simp [head, hash, Except.bind]
  cases block : readAnswer (env.node (w.calls + 1) c.httpURL (finalizedBlockRequest h)) with
  | error e =>
    refine .inl ⟨"failed to get finalized block: " ++ e, 2, le_rfl, fun h' answered => ?_, ?_⟩
    · obtain rfl := Except.ok.inj (first.symm.trans answered.1)
      simpa [block, Except.bind] using answered.2
    simp [verifyDCFFinality, makeRPCCall, check, head, hash, block]
  | ok resp₂ =>
  cases map : unmarshalMap resp₂.result with
  | error e =>
    refine .inl ⟨"failed to unmarshal block data: " ++ e, 2, le_rfl, fun h' answered => ?_, ?_⟩
    · obtain rfl := Except.ok.inj (first.symm.trans answered.1)
      simpa [block, map, Except.bind] using answered.2
    simp [verifyDCFFinality, makeRPCCall, check, head, hash, block, map]
  | ok u =>
  refine .inr ⟨h, ?_⟩
  cases genesis : isGenesisHash h <;>
    simp [verifyDCFFinality, makeRPCCall, check, FinalityAnswered, Except.bind, head, hash, block,
      map, genesis]

theorem verifyDCFFinality_outcome (w : World) :
    Offline w (c.verifyDCFFinality.run env w).2 ∧
      (c.verifyDCFFinality.run env w).2.calls ≤ w.calls + 2 ∧
      (c.verifyDCFFinality.run env w).2.slept = w.slept ∧
      ((c.verifyDCFFinality.run env w).1 = .ok () ↔ ∃ h, c.FinalityAnswered env w.calls h) ∧
      ∃ fresh, (c.verifyDCFFinality.run env w).2.logs = w.logs ++ fresh ∧
        ((∃ msg, (Level.warning, msg) ∈ fresh) ↔
          ∃ h, c.FinalityAnswered env w.calls h ∧ isGenesisHash h = true) := by
  rcases c.verifyDCFFinality_cases env w with ⟨err, k, two, unanswered, run⟩ |
    ⟨h, fresh, answered, warns, run⟩ <;> rw [run]
  · refine ⟨⟨rfl, rfl, by simp⟩, by simpa using two, rfl, by simpa using unanswered, _, rfl, ?_⟩
    simp [unanswered]
  · refine ⟨⟨rfl, rfl, by simp⟩, le_rfl, rfl, iff_of_true rfl ⟨h, answered⟩, fresh, rfl,
      warns.trans ⟨fun genesis => ⟨h, answered, genesis⟩, fun ⟨h', answered', genesis⟩ => ?_⟩⟩
    rwa [FinalityAnswered.unique c env answered answered']

theorem verifyDCFFinality_world (w : World) :
    ∃ k fresh, k ≤ 2 ∧ (c.verifyDCFFinality.run env w).2 =
      { w with calls := w.calls + k, logs := w.logs ++ fresh } := by
  rcases c.verifyDCFFinality_cases env w with
    ⟨_, k, two, _, run⟩ | ⟨_, fresh, _, _, run⟩ <;> rw [run]
  · exact ⟨k, _, two, rfl⟩
  · exact ⟨2, fresh, le_rfl, rfl⟩

def unfinalized : Env where
  node _ _ req := .reply statusOK (.envelope ⟨req.id, "2.0",
    some (if req.method = "chain_getFinalizedHead" then .null else .obj []), none⟩)
  codecMetadata _ := ""

example : ((newCBCInitializer "ws://localhost:9944").verifyDCFFinality.run unfinalized
    { store := Store.empty }).2.logs.map Prod.fst = [.info, .info, .info] := by
  decide

end CBCInitializer

end CbcExplorer
