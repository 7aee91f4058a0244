import NetSessional.Lib.Runs
import NetSessional.FileServer.Utils
import NetSessional.FileServer.Chunking
import NetSessional.FileServer.Server
import NetSessional.FileServer.Handler
import NetSessional.FileServer.FileStore
import NetSessional.FileServer.LoginTable
import NetSessional.FileServer.RefusedLogin
import NetSessional.FileServer.Buffer
import NetSessional.FileServer.Upload
import NetSessional.FileServer.UploadRuns
import NetSessional.Vegas.Counter
import NetSessional.Vegas.LossWindow
import NetSessional.Vegas.Original
import NetSessional.Vegas.Reno
import NetSessional.Vegas.Uninitialised
import NetSessional.FileServer.Authorization
import NetSessional.FileServer.Integrity
import NetSessional.FileServer.Privacy
import NetSessional.Vegas.Agreement
import NetSessional.Vegas.Arithmetic
import NetSessional.Vegas.Cycle
import NetSessional.FileServer.Dialogue
import NetSessional.FileServer.Handshake
import NetSessional.FileServer.Rounds
import NetSessional.FileServer.Buffered
import NetSessional.FileServer.Completion
import NetSessional.Vegas.ModeSwitch
import NetSessional.Vegas.LinearMode
import NetSessional.Vegas.FlowStatistics
import NetSessional.Vegas.DupAcks
import NetSessional.FileServer.Admission
import NetSessional.FileServer.SavePaths
import NetSessional.FileServer.Exits
import NetSessional.FileServer.Requests
import NetSessional.Tcp.Lifecycle
import NetSessional.Tcp.ThreeWay
import NetSessional.Tcp.Backoff
import NetSessional.Tcp.Timeouts
import NetSessional.Tcp.Windows
import NetSessional.Tcp.Probes
import NetSessional.Tcp.DelayedAcks
import NetSessional.Tcp.Meeting
import NetSessional.Tcp.MyApp
