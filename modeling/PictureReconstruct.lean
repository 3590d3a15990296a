import PictureReconstruct.Library.Bytes
import PictureReconstruct.Library.Codecs
import PictureReconstruct.Library.Csv
import PictureReconstruct.Library.Coverage
import PictureReconstruct.Library.DataParallel
import PictureReconstruct.Library.Ghost
import PictureReconstruct.Library.Greedy
import PictureReconstruct.Library.History
import PictureReconstruct.Library.Monitors
import PictureReconstruct.Library.Procedure
import PictureReconstruct.Library.Rounding
import PictureReconstruct.Library.Runs
import PictureReconstruct.Library.Streams
import PictureReconstruct.Library.Readers
import PictureReconstruct.Library.Text
import PictureReconstruct.Library.Views
import PictureReconstruct.Library.Wakeups
import PictureReconstruct.Common.Disk
import PictureReconstruct.Common.RawFrame
import PictureReconstruct.Common.BlockingQueue
import PictureReconstruct.Common.FrameBufferPool
import PictureReconstruct.Protocol.RawFrameProtocol
import PictureReconstruct.Protocol.HeaderCodecs
import PictureReconstruct.Protocol.ProtocolV2
import PictureReconstruct.Protocol.Messages
import PictureReconstruct.Protocol.ProcessingState
import PictureReconstruct.Protocol.ProcessingStateMachine
import PictureReconstruct.Protocol.StateFiles
import PictureReconstruct.Protocol.AbortedAttempts
import PictureReconstruct.Protocol.CrashAtomicity
import PictureReconstruct.Protocol.StateInvariants
import PictureReconstruct.Protocol.FlagCoherence
import PictureReconstruct.Protocol.CommittedLines
import PictureReconstruct.Protocol.SavedOperations
import PictureReconstruct.Protocol.TornFiles
import PictureReconstruct.Protocol.StateRegister
import PictureReconstruct.Server.ReceiveLoop
import PictureReconstruct.Server.BoundsSafety
import PictureReconstruct.Server.ReceiveTrace
import PictureReconstruct.Server.StoredFrames
import PictureReconstruct.Server.RejectedChunks
import PictureReconstruct.Storage.SenderSpool
import PictureReconstruct.Storage.SpoolRefinement
import PictureReconstruct.Storage.SpoolAccounting
import PictureReconstruct.Storage.SpoolFaults
import PictureReconstruct.Storage.CounterWrap
import PictureReconstruct.Common.SharedBuffers
import PictureReconstruct.Common.WaitingThreads
import PictureReconstruct.Network.RawFrameSender
import PictureReconstruct.Network.Fragmentation
import PictureReconstruct.Network.StreamRoundTrip
import PictureReconstruct.Network.ResumeSession
import PictureReconstruct.Network.ResumeRuns
import PictureReconstruct.Network.NoLoss
import PictureReconstruct.Network.ResumeDeletion
import PictureReconstruct.Network.FullSpool
import PictureReconstruct.Network.SingleTransmission
import PictureReconstruct.Network.DurableTransmission
import PictureReconstruct.Network.Handshake
import PictureReconstruct.Network.TransmissionOrder
import PictureReconstruct.Network.ResumeReconciliation
import PictureReconstruct.Network.SessionTruth
import PictureReconstruct.Network.BrokenStreams
import PictureReconstruct.Network.ResumeReceiver
import PictureReconstruct.App.CaptureToWire
import PictureReconstruct.App.BufferSharing
import PictureReconstruct.App.CaptureIntegrity
import PictureReconstruct.App.PoolCapacity
import PictureReconstruct.App.Restart
import PictureReconstruct.App.CameraThread
import PictureReconstruct.Server.ImageReads
import PictureReconstruct.Capture.CameraCapture
import PictureReconstruct.Reconstruct.Accumulation
import PictureReconstruct.Reconstruct.WeightedAverage
import PictureReconstruct.Reconstruct.CudaKernels
import PictureReconstruct.Reconstruct.Preprocessing
import PictureReconstruct.Reconstruct.Producer
import PictureReconstruct.Reconstruct.MockSender
import PictureReconstruct.Reconstruct.Pipeline
import PictureReconstruct.Reconstruct.InputFiles
import PictureReconstruct.Reconstruct.PipelineTermination
import PictureReconstruct.Reconstruct.StreamToImage
import PictureReconstruct.Reconstruct.SimulatedScan
import PictureReconstruct.Reconstruct.Deconvolution
import PictureReconstruct.Reconstruct.Postprocessing
import PictureReconstruct.Reconstruct.AsyncSender
import PictureReconstruct.Reconstruct.BoundedQueue
import PictureReconstruct.Reconstruct.QueueShutdown
import PictureReconstruct.Scan.ProcessController
import PictureReconstruct.Scan.CommandAccounting
import PictureReconstruct.Scan.SegmentStages
import PictureReconstruct.Scan.FsmLoop
import PictureReconstruct.Scan.ShutterSafety
import PictureReconstruct.Scan.ScanTermination
import PictureReconstruct.Scan.ScanCompletion
import PictureReconstruct.Scan.ShutterClosed
import PictureReconstruct.Scan.QueueWaits
import PictureReconstruct.PoolDemo.MemoryPool
import PictureReconstruct.PoolDemo.FrameDemo
import PictureReconstruct.PoolDemo.Termination
import PictureReconstruct.Exposure.RegionOrder
import PictureReconstruct.Exposure.SnakePath
import PictureReconstruct.Exposure.LaserPath
