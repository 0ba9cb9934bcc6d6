import Wimi.Gateway.SessionRegistry
import Wimi.Gateway.Isolation
import Wimi.Gateway.Redispatch
import Wimi.Server.CommandTask
import Wimi.Server.Resend
import Wimi.Server.CallPrograms
import Wimi.Server.Confidentiality
import Wimi.Client.Convergence
import Wimi.Client.GapRepair
import Wimi.Gateway.DeliveryPath
import Wimi.Server.Relationships
import Wimi.Client.RequestQueue
import Wimi.Client.Reconnect
import Wimi.Server.IdenticalSends
import Wimi.Server.MysqlPool
import Wimi.Server.FileService
import Wimi.Server.ThreadPool
import Wimi.Gate.Verification
import Wimi.Gateway.StreamWriter
import Wimi.Gateway.ReliablePush
import Wimi.Gateway.Inflight
import Wimi.Gateway.RateWindow
import Wimi.Client.IncomingBatches
import Wimi.Client.RepositoryTables
import Wimi.Client.Timeline
import Wimi.Client.RequestReplies
import Wimi.Client.ListModels
