import Senlin.Python
import Senlin.Lbaas.Backend
import Senlin.Lbaas.Wait
import Senlin.Lbaas.Driver
import Senlin.Lbaas.Members
import Senlin.Lbaas.Rollback
import Senlin.Lbaas.Lifecycle
import Senlin.Lbaas.Polling
import Senlin.Api.Json
import Senlin.Api.Controller
import Senlin.Api.Resize
import Senlin.Api.ActionData
import Senlin.Api.Calls
