import CbcExplorer.Go.Strings
import CbcExplorer.Cbc.Rpc
import CbcExplorer.Dao.Store
import CbcExplorer.Prog
import CbcExplorer.Cbc.Types
import CbcExplorer.Cbc.Init
import CbcExplorer.Cbc.Endpoint
import CbcExplorer.Service.Service
import CbcExplorer.Cbc.InitSpec
import CbcExplorer.Cbc.Finality
import CbcExplorer.Cbc.Node
import CbcExplorer.Cbc.Registration
import CbcExplorer.Service.Startup
import CbcExplorer.Service.Budget
import CbcExplorer.Service.Fallback
import CbcExplorer.Service.Restart
import CbcExplorer.Concurrent.Interleaving
import CbcExplorer.Concurrent.Bootstrap
import CbcExplorer.Concurrent.Effects
import CbcExplorer.Concurrent.Startup
