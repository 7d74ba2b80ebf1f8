import Pype.Foundation.Dict
import Pype.Foundation.BoundedQueue
import Pype.Foundation.Runs
import Pype.Foundation.UrlPath
import Pype.Foundation.HeaderText
import Pype.Server.Messages
import Pype.Server.Security
import Pype.Server.Registries
import Pype.Server.Queueing
import Pype.Server.Routers
import Pype.Server.Effects
import Pype.Server.WellFormed
import Pype.Server.Conduct
import Pype.Server.Reaper
import Pype.Server.App
import Pype.Server.Invariant
import Pype.Server.Transcripts
import Pype.Server.ServiceQueues
import Pype.Server.ResponseQueues
import Pype.Server.Acknowledgement
import Pype.Server.Authority
import Pype.Server.Refusals
import Pype.Server.Attendance
import Pype.Server.Agreement
import Pype.Server.BlockingPost
import Pype.Server.Sweeps
import Pype.Server.Activity
import Pype.Server.Waiting
import Pype.Client.Http
import Pype.Client.ClientConnection
import Pype.Client.Turns
import Pype.Client.Accounting
import Pype.Client.ServiceConnection
import Pype.Client.Invocation
import Pype.Client.Loops
import Pype.Client.Gathering
import Pype.Client.Quorums
import Pype.Client.Splitting
import Pype.Client.Budgets
import Pype.Client.Minting
import Pype.System.Delivery
import Pype.System.Network
import Pype.System.Deployment
import Pype.System.Provenance
import Pype.System.Correlation
import Pype.System.ServiceRoutes
import Pype.System.Timeouts
import Pype.Foundation.Linearizability
import Pype.Server.Progress
import Pype.Server.Punctuality
import Pype.Client.Authentication
import Pype.Client.Errors
import Pype.Client.Payload
import Pype.Client.RoundTrips
import Pype.Foundation.IPv4
import Pype.Foundation.Possibility
import Pype.Server.Evictions
import Pype.Server.InternalIp
import Pype.Server.Linearization
import Pype.Server.Schedules
import Pype.Server.Sessions
import Pype.Server.Verdicts
import Pype.System.Availability
import Pype.System.Errors
import Pype.System.Login
import Pype.System.Texts
import Pype.System.Tokens
