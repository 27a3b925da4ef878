import JetKvm.AtxDebounce
import JetKvm.AudioOutput
import JetKvm.AudioRecovery
import JetKvm.AudioStep
import JetKvm.BrowserHidReports
import JetKvm.BrowserLegacyKeyboard
import JetKvm.BufferStores
import JetKvm.CloudRegistration
import JetKvm.ConcurrentLogins
import JetKvm.ConfigDurability
import JetKvm.ConfigJson
import JetKvm.ConfigNormaliser
import JetKvm.ConfigOutcomes
import JetKvm.ConfigParser
import JetKvm.ConfigReload
import JetKvm.ConfigSoundness
import JetKvm.ConfigStructs
import JetKvm.ConsoleBroker
import JetKvm.ConsoleChunks
import JetKvm.ConsoleEcho
import JetKvm.ConsoleLabelling
import JetKvm.ConsoleLabels
import JetKvm.ConsoleLines
import JetKvm.ConsoleNormalizer
import JetKvm.ConsolePause
import JetKvm.ConsolePieces
import JetKvm.ConsoleText
import JetKvm.ConsoleTokens
import JetKvm.CrashTriples
import JetKvm.CutLines
import JetKvm.DefaultRoutes
import JetKvm.DhcpAnswers
import JetKvm.DhcpClients
import JetKvm.DhcpLedger
import JetKvm.DhcpLifecycle
import JetKvm.DhcpRenewal
import JetKvm.DisplayBacklight
import JetKvm.EdidHex
import JetKvm.EncoderRate
import JetKvm.EtcHosts
import JetKvm.EventStream
import JetKvm.FallibleCalls
import JetKvm.FileTree
import JetKvm.FileTreeOperations
import JetKvm.FramedStream
import JetKvm.GamepadIsolation
import JetKvm.GamepadPolling
import JetKvm.GamepadSessions
import JetKvm.GamepadSlots
import JetKvm.GoChannels
import JetKvm.GoFilepath
import JetKvm.GoFloat64
import JetKvm.GoIpParse
import JetKvm.GoIpText
import JetKvm.GoSlices
import JetKvm.GpgReleaseKey
import JetKvm.GuestRevocation
import JetKvm.HidDescriptor
import JetKvm.HidMinors
import JetKvm.HidReportDelivery
import JetKvm.HidRpcDispatch
import JetKvm.HidRpcMacroLength
import JetKvm.HidRpcMessage
import JetKvm.HidRpcRoundTrip
import JetKvm.HostReports
import JetKvm.IceCandidateRouting
import JetKvm.ImagePaths
import JetKvm.ImageUploads
import JetKvm.ImagesFolder
import JetKvm.InterchangedWords
import JetKvm.InterfaceManager
import JetKvm.JigglerInactivity
import JetKvm.JigglerSchedule
import JetKvm.JsonDecoding
import JetKvm.JsonFraming
import JetKvm.KeepAliveTiming
import JetKvm.KeyboardMacroCancellation
import JetKvm.KeyboardMacroQueues
import JetKvm.KeyboardMacroReports
import JetKvm.KeypressKeepAlive
import JetKvm.LabelledRuns
import JetKvm.LinkReconcile
import JetKvm.LocalAuth
import JetKvm.MqttUpdateProgress
import JetKvm.NativeEvents
import JetKvm.NativeHandshake
import JetKvm.NativeSupervisor
import JetKvm.Netlink
import JetKvm.NetworkConfig
import JetKvm.NetworkSettings
import JetKvm.NewestFitting
import JetKvm.Noninterference
import JetKvm.OrderedVisits
import JetKvm.OtaAvailability
import JetKvm.OtaInstall
import JetKvm.OtaRunHistory
import JetKvm.OtaStatus
import JetKvm.OtaStatusTruth
import JetKvm.OtaUpdateRun
import JetKvm.PaddedBuffer
import JetKvm.PasswordGuessing
import JetKvm.PasswordRateLimiter
import JetKvm.PendingStages
import JetKvm.RateLimiterCleanup
import JetKvm.RateLimiterLockouts
import JetKvm.ResolvConf
import JetKvm.ResolvConfOrder
import JetKvm.RpcArguments
import JetKvm.RpcIntegers
import JetKvm.SerialReaders
import JetKvm.SerialSettingsFile
import JetKvm.SessionDataChannels
import JetKvm.SessionRegistry
import JetKvm.SessionTeardown
import JetKvm.SharingAuth
import JetKvm.SlidingWindow
import JetKvm.SortedListings
import JetKvm.StaticAddresses
import JetKvm.StoredKeyboardMacros
import JetKvm.StreamingStatus
import JetKvm.StreamingThread
import JetKvm.TimeSyncQueries
import JetKvm.TimeSyncSelection
import JetKvm.TimeSyncServers
import JetKvm.TunnelStatus
import JetKvm.UdhcpcLease
import JetKvm.UdhcpcUnmarshal
import JetKvm.UsbChangeOrder
import JetKvm.UsbChangeRounds
import JetKvm.UsbChangeSet
import JetKvm.UsbChangeSetIdempotence
import JetKvm.UsbChangeSetLasting
import JetKvm.UsbChangeSetResolver
import JetKvm.UsbFileChange
import JetKvm.UsbGadgetConfig
import JetKvm.UsbGadgetTransaction
import JetKvm.UsbKeyboardAutoRelease
import JetKvm.UsbKeyboardHeldKeys
import JetKvm.UsbKeyboardHostAgreement
import JetKvm.UsbKeyboardKeysDown
import JetKvm.UsbKeyboardReleases
import JetKvm.UsbKeyboardTimers
import JetKvm.UsbLayout
import JetKvm.UsbRecovery
import JetKvm.UsbSettings
import JetKvm.UsbSymlinkOrder
import JetKvm.UsbTransactionRuns
import JetKvm.VideoCapture
import JetKvm.VideoCodecs
import JetKvm.VideoFrameStream
import JetKvm.VideoStreaming
import JetKvm.VirtualMedia
import JetKvm.VirtualMediaReads
import JetKvm.WebSecureCertificates
import JetKvm.WebSecureServer
