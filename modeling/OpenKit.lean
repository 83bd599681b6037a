import OpenKit.Library.Program
import OpenKit.Library.RelyGuarantee
import OpenKit.Caching.BeaconCacheEntry
import OpenKit.Library.GuardedRun
import OpenKit.Library.LastWrite
import OpenKit.Library.Total
import OpenKit.Caching.BeaconCache
import OpenKit.Caching.Accounting
import OpenKit.Caching.SpaceEvictionStrategy
import OpenKit.Configuration.BeaconConfiguration
import OpenKit.Protocol.StatusResponse
import OpenKit.Communication.BeaconSendingContext
import OpenKit.Objects.Session
import OpenKit.Communication.BeaconSend
import OpenKit.Communication.SendProgress
import OpenKit.Communication.SendReturns
import OpenKit.Communication.Delivery
import OpenKit.Communication.CaptureOnState
import OpenKit.Communication.SendFrame
import OpenKit.Communication.FinishedSessions
import OpenKit.Protocol.EventData
import OpenKit.Communication.Ledger
import OpenKit.Communication.NoLoss
import OpenKit.Communication.FailedTransmission
import OpenKit.Communication.LastAnswer
import OpenKit.Protocol.BeaconReports
import OpenKit.Objects.SessionCalls
import OpenKit.Communication.ApplicationCalls
import OpenKit.Communication.CaptureDisabled
import OpenKit.Communication.ContextCalls
import OpenKit.Communication.NewSessionConfiguration
import OpenKit.Communication.StatusRequests
import OpenKit.Communication.FlushSessionsState
import OpenKit.Communication.StateSteps
import OpenKit.Communication.StateGraph
import OpenKit.Communication.StatusChecks
import OpenKit.Communication.FlushedSessions
import OpenKit.Communication.FlushReturns
import OpenKit.Caching.SharedCache
import OpenKit.Caching.CacheThreads
import OpenKit.Library.Heap
import OpenKit.Library.Outcome
import OpenKit.Library.RegularText
import OpenKit.Objects.SessionCreator
import OpenKit.Objects.SessionProxy
import OpenKit.Objects.InstanceCalls
import OpenKit.Objects.ProxySteps
import OpenKit.Objects.InstanceSteps
import OpenKit.Objects.InstanceRuns
import OpenKit.Objects.NullConfiguration
import OpenKit.Objects.SessionStart
import OpenKit.Objects.SplitConfiguration
import OpenKit.Objects.WebRequestTag
import OpenKit.Objects.ServerIds
import OpenKit.Objects.SessionEnds
import OpenKit.Objects.SessionRuns
import OpenKit.Objects.ProxyRuns
import OpenKit.Objects.ProxyMoves
import OpenKit.Objects.CallMoves
import OpenKit.Objects.SessionEndEvents
import OpenKit.Objects.MoveEvents
import OpenKit.Objects.SessionPlaces
import OpenKit.Objects.TidyMoves
import OpenKit.Objects.NoLeaks
import OpenKit.Objects.EventLimit
import OpenKit.Objects.ReTagging
import OpenKit.Objects.TimeSplits
import OpenKit.Library.Deadlines
import OpenKit.Objects.WatchdogRounds
import OpenKit.Objects.ObjectHeap
import OpenKit.Library.Forest
import OpenKit.Objects.ClosingObjects
import OpenKit.Objects.ObjectTree
import OpenKit.Objects.ClosingTrees
import OpenKit.Objects.ObjectEffects
import OpenKit.Objects.TreeCompletion
import OpenKit.Protocol.NumberTexts
import OpenKit.Protocol.RecordPairs
import OpenKit.Protocol.ReportNumbers
import OpenKit.Core.Utf8Characters
import OpenKit.Core.Substring
import OpenKit.Core.Validation
import OpenKit.Core.IndexOf
import OpenKit.Core.BrokenStrings
import OpenKit.Objects.WebRequestSizes
import OpenKit.Protocol.Framing
import OpenKit.Protocol.StackTraces
import OpenKit.Protocol.BeaconCalls
import OpenKit.Objects.BasicBeaconData
import OpenKit.Caching.CachedTexts
import OpenKit.Communication.WholePayload
import OpenKit.Json.ResettableReader
import OpenKit.Json.JsonLexer
import OpenKit.Json.JsonGrammar
import OpenKit.Json.NumberPattern
import OpenKit.Json.LiteralTokens
import OpenKit.Json.EscapeSequences
import OpenKit.Json.StringTokens
import OpenKit.Json.LexerTokens
import OpenKit.Json.JsonParser
import OpenKit.Json.JsonTrees
import OpenKit.Json.TokenSequences
import OpenKit.Json.ParserStates
import OpenKit.Json.Beginnings
import OpenKit.Json.ParserRuns
import OpenKit.Json.JsonTexts
import OpenKit.Json.ParserErrors
import OpenKit.Json.JsonWriter
import OpenKit.Json.RoundTrip
import OpenKit.Objects.WebRequestUrl
import OpenKit.Core.InetAddressValidator
import OpenKit.Core.InetAddresses
import OpenKit.Core.AddressValidation
import OpenKit.Communication.ClientAddress
import OpenKit.Json.DecodedStrings
import OpenKit.Objects.TagFields
import OpenKit.Json.NoHoles
import OpenKit.Protocol.JsonResponseParser
import OpenKit.Protocol.KeyValueResponseParser
import OpenKit.Library.Fallible
import OpenKit.Protocol.ResponseParser
import OpenKit.Protocol.GivenAttributes
import OpenKit.Protocol.GivenByResponses
import OpenKit.Json.DecimalValues
import OpenKit.Protocol.NumberConversions
import OpenKit.Protocol.KeyValuePairs
import OpenKit.Protocol.UnitConversion
import OpenKit.Json.AsciiTexts
import OpenKit.Protocol.ResponseFormats
import OpenKit.Caching.OldestRecords
import OpenKit.Protocol.StringUtil
import OpenKit.Library.UnorderedMap
import OpenKit.Protocol.HttpHeaders
import OpenKit.Protocol.HTTPResponseParser
import OpenKit.Objects.AttributePrecedence
import OpenKit.Objects.ProxyExceptions
import OpenKit.Library.WrappingCounter
import OpenKit.Objects.BeaconIdentity
import OpenKit.Objects.ObjectNumbers
import OpenKit.Objects.SequenceNumbers
import OpenKit.Library.Noninterference
import OpenKit.Communication.HiddenCalls
import OpenKit.Protocol.RequestUrls
import OpenKit.Protocol.HTTPClient
import OpenKit.Core.ThreadSynchronization
import OpenKit.Caching.BeaconCacheEvictor
import OpenKit.Communication.EvictedDelivery
import OpenKit.Caching.CoveredBytes
import OpenKit.Library.Preservation
import OpenKit.Communication.StockedCache
import OpenKit.Communication.CycleStarts
import OpenKit.Communication.SendOutcome
import OpenKit.Communication.OpenSessions
