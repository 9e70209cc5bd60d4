import CbcExplorer.Cbc.Init

set_option autoImplicit false

namespace CbcExplorer

structure Runtime where
  specName : String
  specVersion : Int
  metadata : String
  -- a node reports its spec version as a u32, which the explorer's int holds
  reportable : -9223372036854775808 ≤ specVersion ∧ specVersion ≤ 9223372036854775807
  deriving DecidableEq

def Runtime.answer (rt : Runtime) (req : RPCRequest) : HttpAnswer :=
  if req.method = "state_getRuntimeVersion" then
    .reply statusOK (.envelope ⟨req.id, "2.0",
      some (.obj [("specName", .str rt.specName), ("specVersion", .num rt.specVersion)]), none⟩)
  else if req.method = "state_getMetadata" then
    .reply statusOK (.envelope ⟨req.id, "2.0", some (.str rt.metadata), none⟩)
  else .reply statusOK (.envelope ⟨req.id, "2.0", none, some ⟨-32601, "Method not found"⟩⟩)

def upgrading (timeline : Nat → Runtime) : Env where
  node n _ req := (timeline n).answer req
  codecMetadata n := (timeline n).metadata

@[simp] theorem answer_runtimeVersion (rt : Runtime) :
    (readAnswer (rt.answer runtimeVersionRequest)).bind decodeRuntimeVersion =
      .ok ⟨rt.specName, rt.specVersion⟩ := by
  simp [Runtime.answer, runtimeVersionRequest, readAnswer, statusOK, Except.bind,
    decodeRuntimeVersion, unmarshalRuntimeVersion, unmarshalMember, refusal_int rt.reportable]
  rfl

@[simp] theorem answer_metadata (rt : Runtime) :
    (readAnswer (rt.answer metadataRequest)).bind decodeMetadata =
      if Go.hasPrefix rt.metadata "0x" then .ok rt.metadata
      else .error "invalid metadata format: missing 0x prefix" := rfl

def sampleMetadata (digit : Char) : String := "0x" ++ ⟨List.replicate 100 digit⟩

end CbcExplorer
