import Exosnap.Lib.StepRun
import Exosnap.Lib.StableInsert
import Exosnap.Lib.EventGroups
import Exosnap.Lib.KeyedReuse
import Exosnap.Lib.ByteFraming
import Exosnap.Lib.BitString
import Exosnap.Lib.SlotQueue
import Exosnap.Lib.TwoRuns
import Exosnap.Lib.Float32Sum
import Exosnap.Lib.PositionSums
import Exosnap.Engine.AvEpochAlign
import Exosnap.Engine.MatroskaStreamWriter
import Exosnap.Engine.ReorderWindow
import Exosnap.Engine.EmissionOrder
import Exosnap.Engine.ClusterLayout
import Exosnap.Engine.ClusterBounds
import Exosnap.Engine.AnnexB
import Exosnap.Engine.CodecPrivate
import Exosnap.Engine.Av1Syntax
import Exosnap.Engine.Av1Reads
import Exosnap.Engine.ObuScan
import Exosnap.Engine.Av1SequenceHeader
import Exosnap.Engine.AudioFrame
import Exosnap.Engine.EditAudioMix
import Exosnap.Engine.EditAudioPlacement
import Exosnap.Engine.EditAudioLag
import Exosnap.Engine.MixedAudioSrc
import Exosnap.Engine.MixTimeline
import Exosnap.Engine.OutputFormatAudioSrc
import Exosnap.Engine.MixMute
import Exosnap.Engine.AudioThread
import Exosnap.Engine.MuteRuns
import Exosnap.Engine.MuteNoninterference
import Exosnap.Engine.SessionTypes
import Exosnap.Engine.MuxThread
import Exosnap.Engine.MuxSteps
import Exosnap.Engine.MuxAudioPlacement
import Exosnap.Engine.MuxAudioAccounting
import Exosnap.Engine.MuxAudioOnly
import Exosnap.Engine.SplitRequest
import Exosnap.Engine.SplitCoordination
import Exosnap.Engine.SplitSteps
import Exosnap.Engine.SplitCoalescing
import Exosnap.Engine.SplitAttribution
import Exosnap.Engine.VisualGenerations
import Exosnap.Engine.FramePacing
import Exosnap.Engine.CfrLoop
import Exosnap.Engine.CfrReuse
import Exosnap.Engine.CfrTimeline
import Exosnap.Lib.RotatingRing
import Exosnap.Engine.PacingRing
import Exosnap.Engine.SilenceOutages
import Exosnap.Engine.SessionStop
import Exosnap.Engine.SessionStopSteps
import Exosnap.Engine.SessionStopIsolation
import Exosnap.Engine.SessionStopDelivery
import Exosnap.Engine.SessionReset
import Exosnap.Engine.SessionReuse
import Exosnap.Engine.Nvenc
import Exosnap.Engine.NvencSteps
import Exosnap.Engine.NvencOwnership
import Exosnap.Engine.NvencCaller
import Exosnap.Engine.NvencFailures
import Exosnap.Engine.NvencOrder
import Exosnap.Engine.NvencCadence
import Exosnap.Lib.WeightedQueue
import Exosnap.Lib.MarkedGroups
import Exosnap.Lib.Journaled
import Exosnap.Update.UpdateTypes
import Exosnap.Update.SwapEngine
import Exosnap.Update.SwapSteps
import Exosnap.Updater.UpdaterWorker
import Exosnap.Updater.SignalDiscipline
import Exosnap.Updater.WorkerRuns
import Exosnap.Updater.VerifiedPackages
import Exosnap.Engine.MuxQueue
import Exosnap.Engine.MuxSegments
import Exosnap.Engine.SplitSegments
import Exosnap.Capability.CapabilitySet
import Exosnap.Capability.CapabilityBuilder
import Exosnap.Capability.SettingsResolver
import Exosnap.Capability.ResolverSoundness
import Exosnap.Capability.ResolverNecessity
import Exosnap.Engine.EncoderDevice
import Exosnap.Capability.EncoderDeviceResolver
import Exosnap.Capability.AdapterCapability
import Exosnap.Capability.Translation
import Exosnap.Capability.EncoderDeviceChoice
import Exosnap.Services.CaptureHub
import Exosnap.Services.CaptureHubService
import Exosnap.Services.CaptureHubExclusion
import Exosnap.Lib.Trimming
import Exosnap.Settings.RecoveryManifestStore
import Exosnap.Settings.ManifestEntries
import Exosnap.Services.FilesystemPath
import Exosnap.Services.RecoveryService
import Exosnap.Services.RecoverySafety
import Exosnap.Lib.FirstFree
import Exosnap.Models.RecordingPreset
import Exosnap.Models.RecordingPresetRegistry
import Exosnap.Models.RegistrySessions
import Exosnap.Lib.FloatWidening
import Exosnap.Capability.OutputFormat
import Exosnap.Lib.OrderedTable
import Exosnap.Models.PresetConfig
import Exosnap.Models.PresetSanitizer
import Exosnap.Settings.PresetNames
import Exosnap.Settings.PresetToml
import Exosnap.Settings.PresetRoundTrip
import Exosnap.Models.RegistryReload
import Exosnap.Settings.RecordingPresetStore
import Exosnap.Settings.PresetRestart
import Exosnap.Recording.Coordinator
import Exosnap.Recording.CoordinatorRuns
import Exosnap.Recording.StateSettles
import Exosnap.Recording.CoordinatorHistory
import Exosnap.Recording.CoordinatorStarts
import Exosnap.Recording.CancelKept
import Exosnap.Recording.OneOutcome
import Exosnap.Split.SegmentPath
import Exosnap.Split.Session
import Exosnap.Split.SessionRuns
import Exosnap.Split.SegmentNames
import Exosnap.Split.ArtefactsCovered
import Exosnap.Split.SegmentsExported
import Exosnap.Markers.MarkerSidecar
import Exosnap.Markers.MarkersTravel
import Exosnap.Diagnostics.WindowCaptureStall
import Exosnap.Notifications.NotificationManager
import Exosnap.Notifications.ToastSet
import Exosnap.Diagnostics.AppLog
import Exosnap.Diagnostics.SessionLedger
import Exosnap.Diagnostics.LedgerRuns
import Exosnap.Split.DiskMonitor
import Exosnap.Update.UpdateService
import Exosnap.Control.Protocol
import Exosnap.Control.Session
import Exosnap.Control.ControlServer
import Exosnap.Control.ServerRuns
import Exosnap.Control.FatalHandshake
import Exosnap.Lib.SortedMap
import Exosnap.Envctl.EnvTypes
import Exosnap.Envctl.Journal
import Exosnap.Envctl.JournalText
import Exosnap.Engine.PacketQueue
import Exosnap.Engine.PacketQueueRuns
import Exosnap.Remux.Mp4Remuxer
import Exosnap.Remux.LosslessTrim
import Exosnap.Envctl.EnvTransaction
import Exosnap.Envctl.TransactionSafety
import Exosnap.Envctl.TransactionRuns
import Exosnap.Settings.PresetImport
import Exosnap.Output.OutputPathPolicy
import Exosnap.Output.FilenameSafety
import Exosnap.Output.FolderContainment
import Exosnap.Markers.MarkerExport
import Exosnap.Hotkeys.GlobalHotkeyService
import Exosnap.Hotkeys.HotkeyRuns
import Exosnap.Hotkeys.ResetAll
import Exosnap.Lib.LineCut
import Exosnap.Control.RequestFraming
import Exosnap.Control.RequestGrammar
import Exosnap.Markers.MarkerHistory
import Exosnap.Engine.AudioTrackModel
import Exosnap.Update.Handoff
import Exosnap.Engine.SilenceAccount
import Exosnap.Engine.AudioEncoderPts
import Exosnap.Engine.ObuReads
import Exosnap.Update.ZipExtract
import Exosnap.Update.ReleaseSelection
import Exosnap.Services.WgcDeviceRebuild
import Exosnap.Engine.RbspBits
import Exosnap.Engine.NalStream
import Exosnap.Engine.AvccRecord
import Exosnap.Engine.HvccRecord
import Exosnap.Engine.FinalizeJoinPolicy
import Exosnap.Engine.ClockSlaving
import Exosnap.Engine.RbspReader
import Exosnap.Update.UpdateRuns
import Exosnap.Update.HandedTransaction
import Exosnap.Surfaces.BlockingSurfaceArbiter
import Exosnap.Preview.PreviewUpdateScheduler
import Exosnap.Diagnostics.CrashScrubber
import Exosnap.Diagnostics.CrashSession
