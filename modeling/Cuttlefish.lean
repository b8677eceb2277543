import Cuttlefish.AssembleCvd.BootImageRoundTrip
import Cuttlefish.AssembleCvd.Clean
import Cuttlefish.AssembleCvd.DiskBuilder
import Cuttlefish.AssembleCvd.ExtractedPartition
import Cuttlefish.AssembleCvd.FileComparison
import Cuttlefish.AssembleCvd.FreshCompositeDisk
import Cuttlefish.AssembleCvd.Gem5BootImage
import Cuttlefish.AssembleCvd.HeaderTexts
import Cuttlefish.AssembleCvd.KernelRamdiskRepacker
import Cuttlefish.AssembleCvd.ModulesDep
import Cuttlefish.AssembleCvd.OwnVendorBoot
import Cuttlefish.AssembleCvd.RamdiskModules
import Cuttlefish.AssembleCvd.RollbackIndexLocations
import Cuttlefish.AssembleCvd.VendorBootImageRoundTrip
import Cuttlefish.AssembleCvd.VendorBootWindows
import Cuttlefish.Audio.CaptureRecovery
import Cuttlefish.Audio.CaptureStream
import Cuttlefish.Audio.MixedSamples
import Cuttlefish.Audio.ServerSafety
import Cuttlefish.CliParser.AppliedOverrides
import Cuttlefish.CliParser.CustomConfigs
import Cuttlefish.CliParser.FetchedBuilds
import Cuttlefish.CliParser.InstanceNames
import Cuttlefish.CliParser.LaunchTemplates
import Cuttlefish.Concurrency.Multiplexer
import Cuttlefish.Config.SerializedActions
import Cuttlefish.Confui.ReceiverSafety
import Cuttlefish.Confui.RoundTrip
import Cuttlefish.CvdSendSms.SenderAddress
import Cuttlefish.CvdSendSms.SeptetPacking
import Cuttlefish.Features.ReturningSetupFeature
import Cuttlefish.Features.RunSetup
import Cuttlefish.Features.TopologicalVisit
import Cuttlefish.Fetch.NumberOfBuilds
import Cuttlefish.Foundation.Action
import Cuttlefish.Foundation.FileTree
import Cuttlefish.Foundation.GreedyRegex
import Cuttlefish.Foundation.ListedTree
import Cuttlefish.Foundation.Schedule
import Cuttlefish.Foundation.SortedMap
import Cuttlefish.Foundation.Worklist
import Cuttlefish.Foundation.XmlWrite
import Cuttlefish.ImageAggregator.CompositeDiskSpec
import Cuttlefish.ImageAggregator.GptLayout
import Cuttlefish.ImageAggregator.PartitionTable
import Cuttlefish.ImageAggregator.SuperImage
import Cuttlefish.InputConnector.EventSinks
import Cuttlefish.InputConnector.TouchDevice
import Cuttlefish.InputConnector.TouchStream
import Cuttlefish.Instances.AllocatedLocks
import Cuttlefish.Instances.DataViewerProcesses
import Cuttlefish.Instances.DatabaseQueries
import Cuttlefish.Instances.DatabaseUniqueness
import Cuttlefish.Instances.InstanceLock
import Cuttlefish.Instances.InstanceSelector
import Cuttlefish.Instances.StartSelector
import Cuttlefish.Instances.UnreadableDatabase
import Cuttlefish.Io.Chroot
import Cuttlefish.Io.Combinators
import Cuttlefish.Io.Copy
import Cuttlefish.Io.CorruptMetadata
import Cuttlefish.Io.LazilyLoadedFile
import Cuttlefish.Io.Lz4BlockErrors
import Cuttlefish.Io.Lz4Legacy
import Cuttlefish.Io.RangeUnion
import Cuttlefish.Io.Streams
import Cuttlefish.KernelLogMonitor.EventDelivery
import Cuttlefish.ModemSimulator.CallTimers
import Cuttlefish.ModemSimulator.ChannelMonitor
import Cuttlefish.ModemSimulator.CommandSafety
import Cuttlefish.ModemSimulator.IccProfile
import Cuttlefish.ModemSimulator.PduFields
import Cuttlefish.ModemSimulator.PhoneNumberRoundTrip
import Cuttlefish.ModemSimulator.RemoteAnswer
import Cuttlefish.ModemSimulator.RemoteCallAgreement
import Cuttlefish.ModemSimulator.RemotePdu
import Cuttlefish.ModemSimulator.SimIoUpdates
import Cuttlefish.ModemSimulator.SimStatusAgreement
import Cuttlefish.Orchestrator.ImageDirectories
import Cuttlefish.RunCvd.BootStateMachine
import Cuttlefish.SecureEnv.EncryptedView
import Cuttlefish.SecureEnv.ProtectedJson
import Cuttlefish.SecureEnv.SoftGateKeeper
import Cuttlefish.SecureEnv.TpmStorage
import Cuttlefish.UserArtifacts.ChunkBookkeeping
import Cuttlefish.UserArtifacts.Extraction
import Cuttlefish.UserArtifacts.PublishedArtifacts
import Cuttlefish.UserArtifacts.UploadCompletion
import Cuttlefish.Utils.AbsolutePath
import Cuttlefish.Utils.Directories
import Cuttlefish.Utils.FlagOrder
import Cuttlefish.Utils.FlagSpelling
import Cuttlefish.Utils.KeyEqualsValue
import Cuttlefish.Utils.RefusedFlags
import Cuttlefish.Utils.SparseFile
import Cuttlefish.Web.BuildStatus
import Cuttlefish.Web.BuildStringGrammar
import Cuttlefish.Web.CasDownloader
import Cuttlefish.Web.DirectoryBuild
import Cuttlefish.Web.HttpFile
import Cuttlefish.Web.ScrubSecrets
import Cuttlefish.Web.ScrubbedLines
import Cuttlefish.Web.SecretIndependence
import Cuttlefish.Web.SecretWords
import Cuttlefish.Web.TransparentCache
import Cuttlefish.Webrtc.LatestFrame
import Cuttlefish.Webrtc.SharedSlots
import Cuttlefish.Webrtc.SurfaceCommits
import Cuttlefish.Zip.BufferedZipSource
import Cuttlefish.Zip.ProviderFailures
import Cuttlefish.Zip.RemoteReads
import Cuttlefish.Zip.SourceSeeks
