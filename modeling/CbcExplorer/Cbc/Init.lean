import CbcExplorer.Prog
import CbcExplorer.Go.Strings

set_option autoImplicit false

namespace CbcExplorer

def second : Nat := 1000000000

structure CBCInitializer where
  nodeURL : String
  httpURL : String
  retries : Nat
  retryWait : Nat
  deriving DecidableEq, Repr

def newCBCInitializer (wsEndpoint : String) : CBCInitializer :=
  let httpURL := Go.replace wsEndpoint "ws://" "http://"
  let httpURL := Go.replace httpURL "wss://" "https://"
  { nodeURL := wsEndpoint
    httpURL := httpURL
    retries := 3
    retryWait := 2 * second }

def readAnswer : HttpAnswer → Except String RPCResponse
  | .requestFailed err => .error ("failed to create request: " ++ err)
  | .transportFailed err => .error ("failed to make request: " ++ err)
  | .reply statusCode body =>
    if statusCode ≠ statusOK then .error ("unexpected status code: " ++ toString statusCode)
    else match body with
      | .readFailed err => .error ("failed to read response: " ++ err)
      | .malformed err => .error ("failed to unmarshal response: " ++ err)
      | .envelope resp =>
        match resp.error with
        | some err => .error ("RPC error: " ++ err.message ++ " (code: " ++ toString err.code ++ ")")
        | none => .ok resp

-- fmt.Errorf prints a nil wrapped error as %!w(<nil>)
def wrapError : Option String → String
  | none => "%!w(<nil>)"
  | some err => err

def metadataRequest : RPCRequest := ⟨1, "2.0", "state_getMetadata", []⟩

def runtimeVersionRequest : RPCRequest := ⟨1, "2.0", "state_getRuntimeVersion", []⟩

def finalizedHeadRequest : RPCRequest := ⟨1, "2.0", "chain_getFinalizedHead", []⟩

def finalizedBlockRequest (finalizedHash : String) : RPCRequest :=
  ⟨2, "2.0", "chain_getBlock", [.str finalizedHash]⟩

def decodeMetadata (resp : RPCResponse) : Except String String :=
  match unmarshalString resp.result with
  | .error err => .error ("failed to unmarshal metadata: " ++ err)
  | .ok metadataHex =>
    if Go.hasPrefix metadataHex "0x" then .ok metadataHex
    else .error "invalid metadata format: missing 0x prefix"

def decodeRuntimeVersion (resp : RPCResponse) : Except String RuntimeVersion :=
  match unmarshalRuntimeVersion resp.result with
  | .error err => .error ("failed to unmarshal runtime version: " ++ err)
  | .ok version => .ok version

def insertModules : String :=
  "System|Timestamp|Balances|TransactionPayment|Sudo|PalletCbcPoi|PalletCbcPos|Dcf"

def verifyFailed : String :=
  "failed to verify runtime data after insert - metadata not found in database"

namespace CBCInitializer

variable (c : CBCInitializer)

def makeRPCCall (req : RPCRequest) : Prog (Except String RPCResponse) := do
  let answer ← post c.httpURL req
  pure (readAnswer answer)

def retryPause (what : String) (i : Nat) : Prog Unit :=
  if 0 < i then do
    Logger.warning ("Retry " ++ toString i ++ "/" ++ toString c.retries ++ ": Fetching " ++ what ++ "...")
    sleep c.retryWait
  else pure ()

def fetchLoop {α : Type} (what : String) (req : RPCRequest) (decode : RPCResponse → Except String α) :
    Nat → Nat → Option String → Prog (Except String α)
  | 0, _, lastErr =>
    pure (.error ("failed after " ++ toString c.retries ++ " retries: " ++ wrapError lastErr))
  | fuel + 1, i, _ => do
    c.retryPause what i
    match (← c.makeRPCCall req).bind decode with
    | .ok a => pure (.ok a)
    | .error err => fetchLoop what req decode fuel (i + 1) (some err)

def fetchMetadata : Prog (Except String String) :=
  c.fetchLoop "metadata" metadataRequest decodeMetadata c.retries 0 none

def fetchRuntimeVersion : Prog (Except String RuntimeVersion) :=
  c.fetchLoop "runtime version" runtimeVersionRequest decodeRuntimeVersion c.retries 0 none

def writeRuntimeVersion (version : RuntimeVersion) (metadataHex : String) :
    Prog (Except String Unit) := do
  let modules := insertModules
  let created ← Dao.createRuntimeVersion version.specName version.specVersion 0
  Logger.info ("CreateRuntimeVersion returned: " ++ toString created)
  let affected ← Dao.setRuntimeData version.specVersion modules metadataHex
  Logger.info ("SetRuntimeData affected " ++ toString affected ++ " rows")
  match ← Dao.runtimeVersionRecent with
  | none => pure (.error verifyFailed)
  | some recent =>
    if recent.specVersion ≠ version.specVersion ∨ Go.len recent.rawData < 100 then
      pure (.error verifyFailed)
    else
      Logger.info ("Runtime version " ++ toString version.specVersion ++
        " inserted/updated successfully with " ++ toString (Go.len recent.rawData) ++
        " bytes of metadata")
      pure (.ok ())

def insertRuntimeVersion (version : RuntimeVersion) (metadataHex : String) :
    Prog (Except String Unit) := do
  Logger.info ("Inserting runtime version " ++ toString version.specVersion ++ " into database...")
  match ← Dao.runtimeVersionRecent with
  | none => writeRuntimeVersion version metadataHex
  | some recent =>
    if recent.specVersion = version.specVersion ∧ Go.len recent.rawData > 100 then
      Logger.info ("Runtime version " ++ toString version.specVersion ++ " already exists with " ++
        toString (Go.len recent.rawData) ++ " bytes of metadata - skipping insert")
      pure (.ok ())
    else writeRuntimeVersion version metadataHex

-- the part of Initialize after its early check
def bootstrap : Prog (Except String Unit) := do
  Logger.info "Runtime versions table is empty or incomplete, bootstrapping..."
  c.fetchRuntimeVersion.check "failed to fetch runtime version: " fun runtimeVersion => do
  Logger.info ("Fetched runtime version: " ++ runtimeVersion.specName ++ " v" ++
    toString runtimeVersion.specVersion)
  c.fetchMetadata.check "failed to fetch metadata: " fun metadataHex => do
  Logger.info ("Fetched metadata: " ++ toString (Go.len metadataHex) ++ " bytes")
  (insertRuntimeVersion runtimeVersion metadataHex).check "failed to insert runtime version: "
    fun () => do
  latest runtimeVersion.specVersion metadataHex
  Logger.info "CBC Chain initialization completed successfully"
  pure (.ok ())

-- the lower-case name is a Lean keyword
def Initialize : Prog (Except String Unit) := do
  Logger.info "Starting CBC Chain initialization..."
  match ← Dao.runtimeVersionRecent with
  | none => c.bootstrap
  | some recent =>
    if Go.hasPrefix recent.rawData "0x" then
      Logger.info ("Runtime version already exists (spec: " ++ toString recent.specVersion ++
        "), skipping bootstrap")
      pure (.ok ())
    else c.bootstrap

def isGenesisHash (finalizedHash : String) : Bool :=
  finalizedHash == "0x" ||
    Go.hasSuffix finalizedHash "000000000000000000000000000000000000000000000000000000000000"

def verifyDCFFinality : Prog (Except String Unit) := do
  Logger.info "Verifying DCF finality integration..."
  (c.makeRPCCall finalizedHeadRequest).check "failed to get finalized head: " fun resp => do
  (Prog.pure (unmarshalString resp.result)).check "failed to unmarshal finalized hash: "
    fun finalizedHash => do
  (c.makeRPCCall (finalizedBlockRequest finalizedHash)).check "failed to get finalized block: "
    fun resp => do
  (Prog.pure (unmarshalMap resp.result)).check "failed to unmarshal block data: " fun () => do
  Logger.info ("Finalized block hash: " ++ finalizedHash)
  if isGenesisHash finalizedHash then
    Logger.warning ("WARNING: Finalized head appears to be genesis block - " ++
      "DCF finality may not be syncing properly")
    Logger.warning ("This is expected if the chain just started. If blocks are being " ++
      "produced but not finalized, check the finality sync task in cbc-node/src/service.rs")
  else
    Logger.info "DCF finality verification passed"
  pure (.ok ())

end CBCInitializer

end CbcExplorer
