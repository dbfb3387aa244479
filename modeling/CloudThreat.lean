import CloudThreat.Api
import CloudThreat.ApiRequest
import CloudThreat.Blank
import CloudThreat.Catalogue
import CloudThreat.CatalogueLoading
import CloudThreat.CharProperty
import CloudThreat.CharPropertyData
import CloudThreat.CharSet
import CloudThreat.CodeRange
import CloudThreat.Condition
import CloudThreat.Cut
import CloudThreat.DataClassification
import CloudThreat.DataFlow
import CloudThreat.DecimalNumeral
import CloudThreat.Diagram
import CloudThreat.DiagramLevels
import CloudThreat.Double
import CloudThreat.EnvFile
import CloudThreat.Exposure
import CloudThreat.FileTree
import CloudThreat.Hexadecimal
import CloudThreat.HttpExchange
import CloudThreat.Json
import CloudThreat.JsonComparison
import CloudThreat.JsonParser
import CloudThreat.JsonPrinter
import CloudThreat.JsonReading
import CloudThreat.LetterCase
import CloudThreat.LetterCaseData
import CloudThreat.LogicGroup
import CloudThreat.Main
import CloudThreat.Matching
import CloudThreat.MediaType
import CloudThreat.ModelApi
import CloudThreat.ModelClient
import CloudThreat.ModelProvider
import CloudThreat.Narrator
import CloudThreat.NodeId
import CloudThreat.NodeType
import CloudThreat.Path
import CloudThreat.Pattern
import CloudThreat.PatternParser
import CloudThreat.Prompt
import CloudThreat.Proofs.AnchoredPatterns
import CloudThreat.Proofs.BlockForms
import CloudThreat.Proofs.CacheAnswers
import CloudThreat.Proofs.CacheEntries
import CloudThreat.Proofs.CacheHistory
import CloudThreat.Proofs.CacheQueries
import CloudThreat.Proofs.CatalogueCounts
import CloudThreat.Proofs.CatalogueEntries
import CloudThreat.Proofs.CodeGraph
import CloudThreat.Proofs.CodeKinds
import CloudThreat.Proofs.ComponentFlows
import CloudThreat.Proofs.ComponentNodes
import CloudThreat.Proofs.CutTexts
import CloudThreat.Proofs.DatabaseTypes
import CloudThreat.Proofs.DescendingSort
import CloudThreat.Proofs.DetectedFlows
import CloudThreat.Proofs.DistinctKeys
import CloudThreat.Proofs.DoubleOrder
import CloudThreat.Proofs.EdgeRedirection
import CloudThreat.Proofs.ExactRisk
import CloudThreat.Proofs.ExposingChanges
import CloudThreat.Proofs.ExposureRules
import CloudThreat.Proofs.FaultIsolation
import CloudThreat.Proofs.FileNames
import CloudThreat.Proofs.FirstOccurrences
import CloudThreat.Proofs.FlowEnds
import CloudThreat.Proofs.FlowOrder
import CloudThreat.Proofs.FlowTargets
import CloudThreat.Proofs.GroupTails
import CloudThreat.Proofs.HashedTexts
import CloudThreat.Proofs.IndexLookups
import CloudThreat.Proofs.IntegerComparison
import CloudThreat.Proofs.JsonContainment
import CloudThreat.Proofs.JsonEquality
import CloudThreat.Proofs.JsonNumbers
import CloudThreat.Proofs.JsonValues
import CloudThreat.Proofs.LeastRecentlyUsed
import CloudThreat.Proofs.MatchCounts
import CloudThreat.Proofs.MatchOrder
import CloudThreat.Proofs.MatchPlaces
import CloudThreat.Proofs.MatchRecord
import CloudThreat.Proofs.NarrationRequests
import CloudThreat.Proofs.NarratorRuns
import CloudThreat.Proofs.NearestDouble
import CloudThreat.Proofs.NodeNames
import CloudThreat.Proofs.OperatorAgreement
import CloudThreat.Proofs.PathPositions
import CloudThreat.Proofs.PathResolution
import CloudThreat.Proofs.PatternGroups
import CloudThreat.Proofs.PatternMatches
import CloudThreat.Proofs.PatternTails
import CloudThreat.Proofs.PropertyChanges
import CloudThreat.Proofs.ProviderAttempts
import CloudThreat.Proofs.ProviderCalls
import CloudThreat.Proofs.ProviderFallback
import CloudThreat.Proofs.PublicAddresses
import CloudThreat.Proofs.RawResources
import CloudThreat.Proofs.RecentKeys
import CloudThreat.Proofs.RecordReading
import CloudThreat.Proofs.RecordedService
import CloudThreat.Proofs.RequestLog
import CloudThreat.Proofs.ResourceNodes
import CloudThreat.Proofs.ResourceReading
import CloudThreat.Proofs.RuleDuality
import CloudThreat.Proofs.RuleEvaluation
import CloudThreat.Proofs.RuleRewriting
import CloudThreat.Proofs.ServiceDiagram
import CloudThreat.Proofs.SetTails
import CloudThreat.Proofs.Tallies
import CloudThreat.Proofs.TextBytes
import CloudThreat.Proofs.ThreatListing
import CloudThreat.Proofs.ThreatReading
import CloudThreat.Proofs.TokenCounts
import CloudThreat.Proofs.TokenTotals
import CloudThreat.Proofs.ZoneGroups
import CloudThreat.Quoted
import CloudThreat.ReplyCache
import CloudThreat.Resource
import CloudThreat.ScriptData
import CloudThreat.Settings
import CloudThreat.Severity
import CloudThreat.Sha256
import CloudThreat.ShortestDecimal
import CloudThreat.Tally
import CloudThreat.TextRequest
import CloudThreat.Threat
import CloudThreat.ThreatFile
import CloudThreat.TrustBoundary
import CloudThreat.Uri
import CloudThreat.Utf8
import CloudThreat.Vocabulary
import CloudThreat.WordSize
import CloudThreat.YamlCursor
import CloudThreat.YamlNode
import CloudThreat.YamlScalar
import CloudThreat.YamlToken
import CloudThreat.YamlValue
