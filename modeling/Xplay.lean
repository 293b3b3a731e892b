import Xplay.Lib.System
import Xplay.Lib.Monitor
import Xplay.Lib.Spurious
import Xplay.Lib.Window
import Xplay.Lib.KeptFifo
import Xplay.Lib.Backlog
import Xplay.Data.XData
import Xplay.Queue.Queue
import Xplay.Queue.QueueFifo
import Xplay.Queue.QueueShutdown
import Xplay.Queue.FrameQueue
import Xplay.Queue.FrameQueueFifo
import Xplay.Queue.FrameSlots
import Xplay.Queue.FrameQueueRing
import Xplay.Queue.FrameQueueGrant
import Xplay.Queue.FrameQueueFlush
import Xplay.Queue.PacketQueue
import Xplay.Decode.FrameOutput
import Xplay.Decode.TimeScale
import Xplay.Decode.DecodePacket
import Xplay.Queue.FrameQueueHandOff
import Xplay.Demux.ReadPacket
import Xplay.Decode.EndOfFile
import Xplay.Metadata.MediaMetadataRetriever
import Xplay.Metadata.Metadata
import Xplay.Metadata.CodecNames
import Xplay.Metadata.Rotation
import Xplay.Metadata.FrameImage
import Xplay.Sync.MediaClock
import Xplay.Sync.ClockSpeed
import Xplay.Sync.SyncBound
import Xplay.Player.Player
import Xplay.Player.PlayerStep
import Xplay.Player.PlayerSound
import Xplay.Player.PlayerAttended
import Xplay.Player.PlayerStop
import Xplay.Player.PlayerStuck
import Xplay.Player.PlayerStranded
import Xplay.Player.PlayerScreen
import Xplay.Player.PlayerFlow
import Xplay.Player.PlayerRests
import Xplay.Player.PlayerDeadlock
import Xplay.Player.PlayerStandstill
import Xplay.Audio.AudioPlay
import Xplay.Audio.AudioChain
import Xplay.Audio.PcmBytes
import Xplay.Audio.AudioShutdown
import Xplay.Audio.AudioBound
import Xplay.Lib.Locks
import Xplay.Handler.Looper
import Xplay.Handler.LooperFifo
import Xplay.Handler.LooperCalls
import Xplay.Handler.LooperStuck
import Xplay.Handler.LooperRelease
import Xplay.Handler.LooperDeadlock
import Xplay.Handler.LooperServes
import Xplay.Handler.SharedLooper
import Xplay.Handler.LooperManager
import Xplay.Handler.HandlerThread
import Xplay.Lib.Crew
import Xplay.Player.Workers
import Xplay.Sync.SyncShift
import Xplay.Sync.PauseLength
import Xplay.Player.MediaPlayer
import Xplay.Player.Lifecycle
import Xplay.Player.ExitFlags
import Xplay.Lib.Ownership
import Xplay.Decode.PacketOwnership
import Xplay.Player.Release
import Xplay.Player.ReleaseRest
import Xplay.Player.ReleaseUse
import Xplay.Player.ReleaseBusy
import Xplay.Lib.WaitFor
import Xplay.Lib.TwoRuns
import Xplay.Lib.Loop
import Xplay.Lib.LinkedList
import Xplay.Lib.FoldedDict
import Xplay.Player.UiCalls
import Xplay.Player.UiCallsStep
import Xplay.Player.UiCallsSound
import Xplay.Player.UiCallsClear
import Xplay.Player.UiDeadlock
import Xplay.Player.Rendering
import Xplay.Player.RenderCalls
import Xplay.Player.RelatedRuns
import Xplay.Player.Isolation
import Xplay.Video.Cropping
import Xplay.Video.LatestView
import Xplay.Lib.History
import Xplay.Lib.Fair
import Xplay.Player.PlayerEffort
import Xplay.Player.PlayerSchedule
import Xplay.Player.PlayerFair
import Xplay.Player.PlayerFairStop
import Xplay.Player.PlayerOrder
import Xplay.Player.PlayerHeard
import Xplay.Sync.SyncCatchUp
import Xplay.Audio.PcmOwnership
import Xplay.Lib.Fate
import Xplay.Player.ContextOwnership
import Xplay.Player.WindowReferences
import Xplay.Audio.StartPlay
import Xplay.Queue.PictureOwnership
import Xplay.Lib.Refinement
import Xplay.Metadata.RetrieverOwnership
import Xplay.Queue.BlockingQueue
import Xplay.Player.PlayerQueues
