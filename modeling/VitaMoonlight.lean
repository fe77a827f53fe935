import VitaMoonlight.Library.Machine
import VitaMoonlight.Library.CText
import VitaMoonlight.Library.CoalescingQueue
import VitaMoonlight.Library.Ring
import VitaMoonlight.App.ForegroundCompletion
import VitaMoonlight.Backend.StoreResolution
import VitaMoonlight.Backend.StorageNames
import VitaMoonlight.Backend.SavedHostRoundTrip
import VitaMoonlight.GameStream.ServerIdentity
import VitaMoonlight.GameStream.PairingCommit
import VitaMoonlight.Api.DisconnectAdmission
import VitaMoonlight.Services.QuitContract
import VitaMoonlight.Input.FingerReports
import VitaMoonlight.Input.OverlayRelease
import VitaMoonlight.Input.PsButtonPulse
import VitaMoonlight.GameStream.ApplicationList
import VitaMoonlight.GameStream.ActionAnswer
import VitaMoonlight.Backend.DiscoveryExpiry
import VitaMoonlight.Backend.DiscoveryLease
import VitaMoonlight.Services.DiscoveryPublication
import VitaMoonlight.Services.AvailabilitySoundness
import VitaMoonlight.GameStream.StatusReaders
import VitaMoonlight.GameStream.ResponseChunks
import VitaMoonlight.GameStream.XmlLookup
import VitaMoonlight.GameStream.ServerInfoFailure
import VitaMoonlight.Backend.DnsNames
import VitaMoonlight.Backend.RecordGroups
import VitaMoonlight.Backend.AdapterMirror
import VitaMoonlight.Backend.PacketWalk
import VitaMoonlight.Backend.AdvertisementReport
import VitaMoonlight.Backend.HostIdentities
import VitaMoonlight.Backend.HostAddition
import VitaMoonlight.Pages.RowTokens
import VitaMoonlight.Pages.CellEdits
import VitaMoonlight.Video.FrameOwnership
import VitaMoonlight.Stream.StatsGeneration
import VitaMoonlight.Video.CodecArena
import VitaMoonlight.Video.CodecResources
import VitaMoonlight.Video.CentreCrop
import VitaMoonlight.Pages.HostAddress
import VitaMoonlight.Input.MotionRates
import VitaMoonlight.Stream.FrameGaps
import VitaMoonlight.App.HeapTraceMap
import VitaMoonlight.Input.PsTaps
import VitaMoonlight.Api.ApplicationCache
import VitaMoonlight.Audio.AudioPlayback
import VitaMoonlight.GameStream.PinnedCertificates
import VitaMoonlight.Pages.DeletionConsent
import VitaMoonlight.Stream.ControllerLightOrder
import VitaMoonlight.Video.DecodeUnit
import VitaMoonlight.Video.PresentationOrder
import VitaMoonlight.Services.PairingAttempts
import VitaMoonlight.Input.MappingFile
