import Dvote.Bytes
import Dvote.Vochain.State
import Dvote.Scrutinizer.Basic
import Dvote.Scrutinizer.List
import Dvote.Scrutinizer.Paging
import Dvote.Vochain.App
import Dvote.Vochain.Commit
import Dvote.Vochain.Legacy
import Dvote.Scrutinizer.Handover
import Dvote.Census.Manager
import Dvote.Census.Handler
import Dvote.Census.Remote
import Dvote.Census.Auth
import Dvote.Census.Import
import Dvote.Census.Consistency
import Dvote.Client.Vote
import Dvote.Client.KeysBatch
import Dvote.Router.Files
import Dvote.Service.Vochain
