import CbcExplorer.Go.Strings

set_option autoImplicit false

namespace CbcExplorer

def CBCChainName : String := "cbc-chain"

def DefaultSpecVersion : Int := 100

def CBCPalletNames : List String := ["PalletCbcPoi", "PalletCbcPos", "Dcf"]

def isCBCPallet (palletName : String) : Bool := CBCPalletNames.any (· == palletName)

structure CBCRuntimeConfig where
  chainName : String
  specVersion : Int
  enableDCFFinality : Bool
  bootstrapOnEmpty : Bool
  httpEndpoint : String
  wsEndpoint : String
  deriving DecidableEq, Repr

def convertWSToHTTP (wsEndpoint : String) : String :=
  let httpEndpoint := wsEndpoint
  if Go.len httpEndpoint > 5 ∧ Go.sliceTo httpEndpoint 5 = "ws://" then
    "http://" ++ Go.sliceFrom httpEndpoint 5
  else if Go.len httpEndpoint > 6 ∧ Go.sliceTo httpEndpoint 6 = "wss://" then
    "https://" ++ Go.sliceFrom httpEndpoint 6
  else httpEndpoint

def defaultCBCConfig (wsEndpoint : String) : CBCRuntimeConfig where
  chainName := CBCChainName
  specVersion := DefaultSpecVersion
  enableDCFFinality := true
  bootstrapOnEmpty := true
  httpEndpoint := convertWSToHTTP wsEndpoint
  wsEndpoint := wsEndpoint

end CbcExplorer
