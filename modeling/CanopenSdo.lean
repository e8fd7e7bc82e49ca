import CanopenSdo.Asynch
import CanopenSdo.Stale
import CanopenSdo.Snapshot
import CanopenSdo.Reception
import CanopenSdo.DownloadStream
import CanopenSdo.UploadResult
import CanopenSdo.SharedBus
import CanopenSdo.Replies
import CanopenSdo.LifeCycle
import CanopenSdo.Wraparound
import CanopenSdo.Announced
import CanopenSdo.Ignored
import CanopenSdo.AbortDelivery
import CanopenSdo.Refusal
import CanopenSdo.AbortCodec
import CanopenSdo.NewRequest
import CanopenSdo.SizeLimit
import CanopenSdo.SizeSent
import CanopenSdo.CallOrder
import CanopenSdo.Lossless
import CanopenSdo.ObjectStore
import CanopenSdo.Recovery
import CanopenSdo.AsyncTransfer
import CanopenSdo.Lib.Retry
import CanopenSdo.Retry
import CanopenSdo.Stack
import CanopenSdo.StackCalls
import CanopenSdo.StackLossless
import CanopenSdo.StackStore
