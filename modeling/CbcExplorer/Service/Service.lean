import CbcExplorer.Cbc.Init

set_option autoImplicit false

namespace CbcExplorer.Service

-- util.NetworkNode and util.WSEndPoint are parameters; a panic is the result .error with its text

-- the generic websocket fetch, outside the sources
def regCodecMetadata : Prog String := .codecMetadata .pure

def initCBCChain (networkNode wsEndPoint : String) : Prog (Except String Unit) := do
  Logger.info "Initializing CBC Chain specific components..."
  let networkName := Go.toLower networkNode
  if networkName ≠ "cbc" ∧ networkName ≠ "cbc-chain" ∧ Go.contains networkName "cbc" = false then
    Logger.info ("Not a CBC Chain network (network: " ++ networkNode ++
      "), skipping CBC initialization")
    pure (.error "not a CBC network")
  else
    Logger.info ("Detected CBC Chain network: " ++ networkNode)
    let cbcInit := newCBCInitializer wsEndPoint
    cbcInit.Initialize.check "CBC initialization failed: " fun () => do
    match ← cbcInit.verifyDCFFinality with
    | .error err => Logger.warning ("DCF finality verification warning: " ++ err)
    | .ok () => pure ()
    Logger.info "CBC Chain initialization completed successfully"
    pure (.ok ())

def codecLoop : Nat → Nat → String → Prog (Except String Unit)
  | 0, _, raw => do
    Logger.error ("DEBUG: regCodecMetadata failed after 3 attempts. Raw length: " ++
      toString (Go.len raw))
    pure (.error "Can not find chain metadata, please check network")
  | fuel + 1, i, _ => do
    let raw ← regCodecMetadata
    if Go.hasPrefix raw "0x" then
      latest 1 raw
      pure (.ok ())
    else
      Logger.warning ("Attempt " ++ toString (i + 1) ++ ": regCodecMetadata failed, retrying...")
      codecLoop fuel (i + 1) raw

def initSubRuntimeLatest : Prog (Except String Unit) := do
  match ← Dao.runtimeVersionRecent with
  | none => codecLoop 3 0 ""
  | some recent =>
    if Go.hasPrefix recent.rawData "0x" then
      latest recent.specVersion recent.rawData
      pure (.ok ())
    else codecLoop 3 0 ""

def fallBack : Prog (Except String Unit) := do
  Logger.warning ("CBC initialization succeeded but no metadata found in database, " ++
    "falling back to standard initialization")
  initSubRuntimeLatest

def initSubRuntimeLatestWithoutFetch : Prog (Except String Unit) := do
  match ← Dao.runtimeVersionRecent with
  | none => fallBack
  | some recent =>
    if Go.hasPrefix recent.rawData "0x" then
      Logger.info ("Loading CBC metadata from database (spec: " ++ toString recent.specVersion ++
        ", size: " ++ toString (Go.len recent.rawData) ++ " bytes)")
      latest recent.specVersion recent.rawData
      pure (.ok ())
    else fallBack

def new (networkNode wsEndPoint : String) : Prog (Except String Unit) := do
  match ← initCBCChain networkNode wsEndPoint with
  | .error err =>
    Logger.warning ("CBC initialization warning: " ++ err)
    initSubRuntimeLatest
  | .ok () => initSubRuntimeLatestWithoutFetch

end CbcExplorer.Service
