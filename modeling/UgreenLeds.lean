import UgreenLeds.PartialRun
import UgreenLeds.LocalFold
import UgreenLeds.RetryLoop
import UgreenLeds.ShadowedRegister
import UgreenLeds.Types
import UgreenLeds.Mcu
import UgreenLeds.McuRegisters
import UgreenLeds.LedController
import UgreenLeds.LedControllerSlice
import UgreenLeds.LedControllerCoherence
import UgreenLeds.LedControllerDelivery
import UgreenLeds.KernelDriver
import UgreenLeds.KernelDriverSlice
import UgreenLeds.KernelDriverCoherence
import UgreenLeds.KernelDriverRuns
import UgreenLeds.Config
import UgreenLeds.Timerfd
import UgreenLeds.DiskLed
import UgreenLeds.DiskLedCallbacks
import UgreenLeds.DiskLedTimer
import UgreenLeds.DiskLedBays
import UgreenLeds.DiskLedStranding
import UgreenLeds.CreditRounding
import UgreenLeds.Scheduler
import UgreenLeds.NetworkLed
import UgreenLeds.NetworkLedPulse
import UgreenLeds.NetworkLedStranding
import UgreenLeds.Collectors
import UgreenLeds.DeadlineGate
import UgreenLeds.CollectorSteps
import UgreenLeds.CollectorRateLimit
import UgreenLeds.TrafficConservation
import UgreenLeds.BpfRuntime
import UgreenLeds.DiskTargets
import UgreenLeds.KernelDriverAttributes
import UgreenLeds.KernelDriverColor
import UgreenLeds.RunningSum
import UgreenLeds.CliLeds
import UgreenLeds.WireFormat
import UgreenLeds.StatusDecoders
import UgreenLeds.CString
import UgreenLeds.GetoptLong
import UgreenLeds.ConfigData
import UgreenLeds.ConfigFile
import UgreenLeds.ConfigOptions
import UgreenLeds.PowerLed
import UgreenLeds.ConfigRanges
import UgreenLeds.LastWrite
import UgreenLeds.ConfigSettings
import UgreenLeds.ConfigPrecedence
import UgreenLeds.ConfigScans
import UgreenLeds.ShellWords
import UgreenLeds.StandbyArguments
import UgreenLeds.DiskMonitors
import UgreenLeds.Footprint
import UgreenLeds.DiskUevent
import UgreenLeds.EventLoop
import UgreenLeds.LedFootprint
import UgreenLeds.Ownership
import UgreenLeds.DiskLedRescan
import UgreenLeds.LedControllerFailure
import UgreenLeds.KernelDriverBlink
import UgreenLeds.UeventDrain
import UgreenLeds.OrderedTasks
import UgreenLeds.CliArguments
import UgreenLeds.CliMain
import UgreenLeds.CliRuns
import UgreenLeds.CliTimings
import UgreenLeds.ConfigQuoting
import UgreenLeds.Numerals
import UgreenLeds.TextWords
import UgreenLeds.ConfigNumerals
import UgreenLeds.PowerGrammar
import UgreenLeds.Holdings
import UgreenLeds.BpfLifecycle
import UgreenLeds.BpfAllOrNothing
import UgreenLeds.PerDiskColors
import UgreenLeds.CliGrammar
import UgreenLeds.CliParsing
import UgreenLeds.Decimals
import UgreenLeds.TextSearch
import UgreenLeds.DiskLayout
import UgreenLeds.DiskSerials
import UgreenLeds.BufferReads
import UgreenLeds.UeventScan
import UgreenLeds.LedPictures
import UgreenLeds.DiskLedPanel
import UgreenLeds.NetworkLedPanel
import UgreenLeds.PanelCalls
import UgreenLeds.Panel
import UgreenLeds.CliMeaning
import UgreenLeds.FirstWins
import UgreenLeds.DiskDiscovery
import UgreenLeds.DiskHotplug
import UgreenLeds.HotplugRuns
import UgreenLeds.Countdown
import UgreenLeds.Unrest
import UgreenLeds.Quiescence
import UgreenLeds.Handles
import UgreenLeds.MainProgram
import UgreenLeds.MainAccounts
import UgreenLeds.MainLifecycle
import UgreenLeds.KernelDriverEffects
import UgreenLeds.PowerFrontEnds
import UgreenLeds.ActivityPath
import UgreenLeds.SteadyBlink
import UgreenLeds.ActivityCoverage
