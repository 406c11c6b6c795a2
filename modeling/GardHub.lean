import GardHub.Foundation.Lists
import GardHub.Foundation.Memory
import GardHub.Foundation.MachineInt
import GardHub.Foundation.Rounding
import GardHub.Foundation.StructLayout
import GardHub.Foundation.Port
import GardHub.Foundation.Runs
import GardHub.Foundation.Script
import GardHub.Foundation.Loop
import GardHub.Foundation.Simulation
import GardHub.Foundation.Queue
import GardHub.Foundation.OrderedMap
import GardHub.Foundation.ListObjects
import GardHub.Foundation.Ledger
import GardHub.Foundation.FormattedText
import GardHub.Foundation.Utf8
import GardHub.Foundation.ByteReader
import GardHub.Foundation.ChunkedStream
import GardHub.Foundation.SocketCalls
import GardHub.Interface.Wire
import GardHub.Interface.HmiMetadata
import GardHub.Dal
import GardHub.Dal.UartRead
import GardHub.Dal.UartBuffer
import GardHub.Dal.UartDevice
import GardHub.Dal.UartOpen
import GardHub.Hub.Gard
import GardHub.Hub.Discovery
import GardHub.Hub.DiscoveredGards
import GardHub.Hub.Rediscovery
import GardHub.Hub.RequestMachine
import GardHub.Hub.Exchange
import GardHub.Hub.Commands
import GardHub.Hub.BusSequence
import GardHub.Hub.RegisterCommands
import GardHub.Hub.AppLayer
import GardHub.Hub.Calls
import GardHub.Hub.LineSimulation
import GardHub.Hub.OverUart
import GardHub.Hub.Validation
import GardHub.Hub.SendData
import GardHub.Hub.PayloadBounds
import GardHub.Hub.FrameStream
import GardHub.Hub.RejectedFrame
import GardHub.Hub.RecvData
import GardHub.Hub.AppLayerRequest
import GardHub.Hub.AppResponse
import GardHub.Hub.RemoteGard
import GardHub.KtLib.BufFifo
import GardHub.KtLib.Metadata
import GardHub.KtLib.FifoRefinement
import GardHub.KtLib.Faces
import GardHub.KtLib.Callbacks
import GardHub.KtLib.Extends
import GardHub.KtLib.Reports
import GardHub.KtLib.CallbackSimulation
import GardHub.KtLib.BufferBalance
import GardHub.KtLib.OldFaceIds
import GardHub.KtLib.BufferBounds
import GardHub.KtLib.ReceivedBytes
import GardHub.KtLib.UnreceivedBytes
import GardHub.KtLib.Dispatcher
import GardHub.KtLib.SendDispatch
import GardHub.KtLib.HandlerRules
import GardHub.KtLib.Classification
import GardHub.KtLib.Operations
import GardHub.KtLib.Lifecycle
import GardHub.KtLib.Acknowledgements
import GardHub.KtLib.AppModule
import GardHub.KtLib.FixedPoint
import GardHub.KtApp.Commands
import GardHub.KtApp.FaceDb
import GardHub.KtApp.FaceDbSessions
import GardHub.KtApp.Mailbox
import GardHub.KtApp.Wire
import GardHub.KtApp.Responses
import GardHub.KtApp.AsyncReply
import GardHub.KtApp.PollLoop
import GardHub.KtApp.IpcDescriptors
import GardHub.KtApp.ProfileArrays
import GardHub.KtApp.ProfileUpdate
import GardHub.KtApp.FaceDbMap
import GardHub.KtApp.FaceDirectory
import GardHub.KtApp.DispatcherRun
import GardHub.KtApp.FreedContext
import GardHub.KtApp.ExecuteCmd
import GardHub.KtApp.StopRequests
import GardHub.KtApp.BufferPool
import GardHub.KtApp.AppReports
import GardHub.KtApp.RingRefinement
import GardHub.KtApp.BufferOwners
import GardHub.KtApp.RecordedLengths
import GardHub.KtApp.EventStream
import GardHub.KtApp.StreamedFaces
import GardHub.KtApp.SocketLoops
import GardHub.KtApp.BoxState
import GardHub.KtApp.DrawnBoxes
import GardHub.KtApp.Palette
import GardHub.KtApp.Camera
import GardHub.KtApp.VideoFeed
import GardHub.Foundation.Fetches
import GardHub.KtApp.PageScript
import GardHub.KtApp.WebPage
