import Understudy.Decimal.Fixed
import Understudy.Decimal.Read
import Understudy.Text.Quoted
import Understudy.Text.Lowercase
import Understudy.OrderedMap
import Understudy.Table
import Understudy.Value.Number
import Understudy.Value.Key
import Understudy.Value.Text
import Understudy.Settings.Location
import Understudy.Settings.Source
import Understudy.Settings.Options
import Understudy.Fault
import Understudy.Logging
import Understudy.Registry
import Understudy.Component
import Understudy.Timeline
import Understudy.World
import Understudy.Contents
import Understudy.Attributes
import Understudy.Description
import Understudy.Asking
import Understudy.Operation
import Understudy.Installation
import Understudy.Daily
import Understudy.Bootstrap
import Understudy.Calls
import Understudy.Scenario.Expression
import Understudy.Scenario
import Understudy.Scenario.State
import Understudy.Main
import Understudy.Proofs.Looking
import Understudy.Proofs.Serving
import Understudy.Proofs.RegistryRequests
import Understudy.Proofs.Dealing
import Understudy.Proofs.CaptureOnce
import Understudy.Proofs.LastInstall
import Understudy.Proofs.DailyCycle
import Understudy.Proofs.Lifetime
import Understudy.Proofs.OneTimer
import Understudy.Proofs.PassingTime
import Understudy.Proofs.SessionShutdown
import Understudy.Proofs.LastTimer
import Understudy.Proofs.Layers
import Understudy.Proofs.RegistryQueries
import Understudy.Proofs.LastWrite
import Understudy.Proofs.RecorderHooks
import Understudy.Proofs.RecordedSession
import Understudy.Proofs.Firing
import Understudy.Proofs.RecordedCycles
import Understudy.Proofs.Fallbacks
import Understudy.Proofs.Bootstrapping
import Understudy.Proofs.ContextHost
import Understudy.Proofs.Keeping
import Understudy.Proofs.LeftAlone
import Understudy.Proofs.DrivenSessions
import Understudy.Proofs.HostStandIns
import Understudy.Proofs.BootstrapSucceeds
import Understudy.Proofs.ContextParts
import Understudy.Proofs.ContextAtRest
import Understudy.Proofs.SharedRegistry
import Understudy.Proofs.SessionReports
import Understudy.Proofs.DisguisedSessions
import Understudy.Proofs.DormantBanks
import Understudy.Proofs.DormantContexts
import Understudy.Proofs.SetUpFails
import Understudy.Proofs.Annotating
import Understudy.Proofs.HookPairs
import Understudy.Proofs.StartFails
import Understudy.Proofs.ContextShutdown
import Understudy.Proofs.Guises
import Understudy.Proofs.Mirrors
import Understudy.Proofs.Tallying
import Understudy.Proofs.MirroredRegistries
import Understudy.Proofs.MirroredServices
import Understudy.Proofs.MirroredInstallers
import Understudy.Proofs.MirroredComponents
import Understudy.Proofs.MirroredTimers
import Understudy.Proofs.MirroredSessions
import Understudy.Proofs.MirroredTimelines
import Understudy.Proofs.MirroredCreations
import Understudy.Proofs.MirroredAppeals
import Understudy.Proofs.Doubles
import Understudy.Proofs.UnknownTimers
import Understudy.Proofs.Disabling
import Understudy.Proofs.Midnights
import Understudy.Proofs.BankHistory
import Understudy.Proofs.BankTimers
import Understudy.Proofs.Lasting
import Understudy.Proofs.LastingOperations
import Understudy.Proofs.LastingServices
import Understudy.Proofs.LastingCalls
import Understudy.Proofs.Delegating
import Understudy.Proofs.Logbook
import Understudy.Proofs.JsonReader
import Understudy.Proofs.JsonLines
import Understudy.Proofs.JsonEchoes
import Understudy.Proofs.DueTimers
import Understudy.Proofs.FailedInstalls
import Understudy.Proofs.OverlayRemarks
import Understudy.Proofs.SetUpOnce
import Understudy.Proofs.Floats
import Understudy.Proofs.Numerals
import Understudy.Proofs.AcceptedSettings
import Understudy.Proofs.JudgedSettings
import Understudy.Proofs.JsonWriter
import Understudy.Proofs.Printing
import Understudy.Proofs.CollectionLog
import Understudy.Proofs.Precedence
import Understudy.Proofs.LogSetups
import Understudy.Proofs.BootstrapFails
