import AudioReachPal.Ring.Reposition
import AudioReachPal.Ring.Fifo
import AudioReachPal.Devices.Attr
import AudioReachPal.Gsl.FrameBytes
import AudioReachPal.Gsl.Mmap
import AudioReachPal.Gsl.Transfer
import AudioReachPal.Gsl.EcRef
import AudioReachPal.Gsl.Detection
import AudioReachPal.Gsl.Exclusion
import AudioReachPal.Lib.Hoare
import AudioReachPal.StStream.Defs
import AudioReachPal.StStream.Handlers
import AudioReachPal.StStream.Api
import AudioReachPal.StStream.Frames
import AudioReachPal.StStream.WakeLock
import AudioReachPal.StStream.Ssr
import AudioReachPal.StStream.DeviceBalance
import AudioReachPal.STUtils.Defs
import AudioReachPal.STUtils.Mode
import AudioReachPal.STUtils.Pause
import AudioReachPal.STUtils.Deferred
import AudioReachPal.Ring.Overrun
import AudioReachPal.StStream.Total
import AudioReachPal.StStream.Client
import AudioReachPal.StStream.Switch
import AudioReachPal.StStream.Attached
import AudioReachPal.StStream.DelayedStop
import AudioReachPal.StStream.Timer
import AudioReachPal.Lib.Tlv
import AudioReachPal.Sva.Defs
import AudioReachPal.Sva.Event
import AudioReachPal.Sva.EventFormat
import AudioReachPal.Rm.Defs
import AudioReachPal.Rm.Sessions
import AudioReachPal.Lib.Channel
import AudioReachPal.Rm.SleepMonitor
import AudioReachPal.Rm.FrontEnd
import AudioReachPal.Rm.DevSwitch
import AudioReachPal.Lib.Leases
import AudioReachPal.Rm.InstanceIds
import AudioReachPal.Rm.UserCounter
import AudioReachPal.STUtils.CaptureProfile
import AudioReachPal.ContextManager.Ledger
import AudioReachPal.ContextManager.Usecases
import AudioReachPal.Gsl.SharedSession
import AudioReachPal.Lib.Tally
import AudioReachPal.Rm.EcRefMap
import AudioReachPal.Rm.EcRefCount
import AudioReachPal.Rm.EcRefRuns
import AudioReachPal.ContextManager.Refusals
import AudioReachPal.ContextManager.CommandLaw
import AudioReachPal.Lib.Account
import AudioReachPal.Streams.Defs
import AudioReachPal.Streams.Pcm
import AudioReachPal.Streams.Held
import AudioReachPal.Streams.PcmBalance
import AudioReachPal.Streams.Session
import AudioReachPal.Streams.PcmSsr
import AudioReachPal.Streams.Compress
import AudioReachPal.Streams.Paused
import AudioReachPal.Streams.CompressStages
import AudioReachPal.SessionAlsaCompress.Offload
import AudioReachPal.SessionAlsaCompress.Callbacks
import AudioReachPal.SessionAlsaCompress.Resources
import AudioReachPal.SessionAlsaCompress.Accounts
import AudioReachPal.SessionAlsaCompress.Backends
import AudioReachPal.SessionAlsaCompress.Balance
import AudioReachPal.Streams.Connect
import AudioReachPal.Streams.ConnectAtomic
import AudioReachPal.Streams.VolumeCache
import AudioReachPal.Gsl.Instances
import AudioReachPal.Plugins.PluginManager
import AudioReachPal.SoundDose.FrontEndIds
import AudioReachPal.Capi.KeywordDetection
import AudioReachPal.Capi.UserVerification
import AudioReachPal.Gsl.CopyTransfer
import AudioReachPal.ACD.Defs
import AudioReachPal.ACD.Events
import AudioReachPal.Lib.KeyedLoop
import AudioReachPal.ACD.EventInfo
import AudioReachPal.ACD.EventInfoSteps
import AudioReachPal.ACD.ContextNeed
import AudioReachPal.ACD.StrictestNeed
import AudioReachPal.ACD.Models
import AudioReachPal.ACD.ModelsNeeded
import AudioReachPal.ACD.ModelCounts
import AudioReachPal.ACD.ModelSession
import AudioReachPal.Lib.EraseLoop
import AudioReachPal.PayloadBuilder.Defs
import AudioReachPal.PayloadBuilder.KeySelection
import AudioReachPal.PayloadBuilder.Search
import AudioReachPal.PayloadBuilder.Repack
import AudioReachPal.PayloadBuilder.EffectParams
import AudioReachPal.Lib.Multimap
import AudioReachPal.Devices.StreamAttrs
import AudioReachPal.Lib.Scatter
import AudioReachPal.Lib.RangeErase
import AudioReachPal.Lib.Region
import AudioReachPal.Sva.ConfLevels
import AudioReachPal.Sva.EventLevels
import AudioReachPal.Sva.Names
import AudioReachPal.Sva.SoundModel
import AudioReachPal.Sva.Payload
import AudioReachPal.Sva.Detected
import AudioReachPal.Sva.RecognitionConfig
import AudioReachPal.Sva.ConfigLaw
import AudioReachPal.ContextManager.RegisterAck
import AudioReachPal.Lib.Observed
import AudioReachPal.Sva.EventView
import AudioReachPal.Sva.EventIds
import AudioReachPal.Sva.ConfigView
import AudioReachPal.Sva.ConfigCache
import AudioReachPal.Sva.EventIsolation
import AudioReachPal.Lib.Gathered
import AudioReachPal.Sva.MergedModel
import AudioReachPal.Sva.MergedEffect
import AudioReachPal.Sva.MergedUnion
import AudioReachPal.Lib.Stock
import AudioReachPal.Ipc.Server
import AudioReachPal.Ipc.Holdings
import AudioReachPal.Ipc.Owned
import AudioReachPal.Ipc.Streams
import AudioReachPal.Ipc.Fds
import AudioReachPal.Lib.Iterator
import AudioReachPal.Rm.SsrLoop
import AudioReachPal.Rm.SsrWalk
import AudioReachPal.Rm.SsrTold
import AudioReachPal.Bluetooth.Hfp
import AudioReachPal.Bluetooth.Feedback
import AudioReachPal.Bluetooth.Sco
import AudioReachPal.Bluetooth.ScoHost
import AudioReachPal.Bluetooth.FeedbackBooks
import AudioReachPal.Bluetooth.FeedbackStop
import AudioReachPal.Bluetooth.ScoFeedback
import AudioReachPal.Bluetooth.ScoCodec
