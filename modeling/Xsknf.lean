import Xsknf.Basic
import Xsknf.Codec
import Xsknf.Socket
import Xsknf.ParseArgs
import Xsknf.CompleteTx
import Xsknf.ProcessBatch
import Xsknf.Worker
import Xsknf.Frames
import Xsknf.Invariant
import Xsknf.Bytes
import Xsknf.Progress
import Xsknf.FastPath
import Xsknf.RetryLoop
import Xsknf.Payload
import Xsknf.Backlog
import Xsknf.Bookkeeping
import Xsknf.Lifecycle
import Xsknf.Pinning
import Xsknf.Cleanup
import Xsknf.Stop
import Xsknf.Liveness
import Xsknf.RingBounds
import Xsknf.Stats
import Xsknf.TcPrograms
