import Heir.Worker.NodeProfile
import Heir.Controller.JoinToken.Accounting
import Heir.Controller.JoinToken.Expiry
import Heir.Controller.JoinToken.Readiness
import Heir.Controller.Runtime.Generation
import Heir.Controller.Runtime.Tenants
import Heir.Controller.Helm.Releases
import Heir.Controller.Helm.Bindings
import Heir.Controller.Helm.Ready
import Heir.Tunnel.Agent.Target
import Heir.Tunnel.Agent.Tracker
import Heir.Tunnel.Server.Routing
import Heir.Runtime.ServiceNetwork
import Heir.Controller.Runtime.Freshness
import Heir.Tunnel.Server.Selection
import Heir.Tunnel.Server.Egress
import Heir.Worker.Proxy.Links
import Heir.Worker.Proxy.Runs
import Heir.Worker.Proxy.Dialing
import Heir.ClusterAgent.Endpoints
import Heir.Worker.Supervision
import Heir.Worker.Teardown
import Heir.Controller.ClusterAgent.CsrApprover
import Heir.Controller.ClusterAgent.CsrRetry
import Heir.Controller.ClusterAgent.Addons
import Heir.Controller.ClusterAgent.AddonCharts
import Heir.Provision.Delete
import Heir.Controller.Runtime.Protection
import Heir.Controller.Runtime.Rollout
import Heir.Lib.Base64
import Heir.Lib.Url
import Heir.Token.Command
import Heir.Worker.Join
import Heir.Worker.Endpoints
import Heir.Worker.Artifacts
import Heir.Worker.ExtraArgs
import Heir.Worker.Bootstrap
import Heir.Runtime.PodMetadata
import Heir.Lib.May
import Heir.Controller.Runtime.Success
import Heir.Controller.Runtime.AltNames
import Heir.Controller.Runtime.Services
import Heir.Controller.Runtime.CachedPki
import Heir.Pki.Validation
import Heir.Pki.Clock
import Heir.Controller.Runtime.ClientKubeconfig
import Heir.Controller.Runtime.NilSafety
import Heir.Controller.Runtime.NilPanic
import Heir.Strvals.Parser
import Heir.Runtime.HelmValues
import Heir.Lib.Expansion
import Heir.Runtime.HelmExpansion
import Heir.Lib.Shell
import Heir.Runtime.HelmShell
import Heir.Runtime.HelmTexts
import Heir.Lib.Counting
import Heir.Lib.ShellLines
import Heir.Runtime.RunScript
import Heir.Lib.FilePath
import Heir.Lib.FileTree
import Heir.Lib.Unseparated
import Heir.Controller.Runtime.SecretHash
