import FederatedSearch.Document.Reading
import FederatedSearch.Document.Writing
import FederatedSearch.Error.Codec
import FederatedSearch.Federation.Search
import FederatedSearch.Node.Holdings
import FederatedSearch.Proofs.AddressForm
import FederatedSearch.Proofs.Addresses
import FederatedSearch.Proofs.ArrivalOrder
import FederatedSearch.Proofs.CivilDates
import FederatedSearch.Proofs.ConfiguredWeights
import FederatedSearch.Proofs.ConjunctiveQuery
import FederatedSearch.Proofs.DeMorgan
import FederatedSearch.Proofs.Degradation
import FederatedSearch.Proofs.Directions
import FederatedSearch.Proofs.DoubleNegation
import FederatedSearch.Proofs.EngineQuery
import FederatedSearch.Proofs.EqualityComparison
import FederatedSearch.Proofs.Evidence
import FederatedSearch.Proofs.Exclusion
import FederatedSearch.Proofs.FailFast
import FederatedSearch.Proofs.FieldPaths
import FederatedSearch.Proofs.FiniteWeights
import FederatedSearch.Proofs.Gathering
import FederatedSearch.Proofs.Grouping
import FederatedSearch.Proofs.Halving
import FederatedSearch.Proofs.IgnoredChildren
import FederatedSearch.Proofs.IndexRuns
import FederatedSearch.Proofs.IndexSelection
import FederatedSearch.Proofs.InstantTexts
import FederatedSearch.Proofs.MetadataOrder
import FederatedSearch.Proofs.NamedFailures
import FederatedSearch.Proofs.NearestRounding
import FederatedSearch.Proofs.NegatedLeaves
import FederatedSearch.Proofs.NodeEngines
import FederatedSearch.Proofs.NodeSelection
import FederatedSearch.Proofs.NumberTexts
import FederatedSearch.Proofs.OrderComparison
import FederatedSearch.Proofs.OrdinaryScores
import FederatedSearch.Proofs.PartialFailure
import FederatedSearch.Proofs.QueryDocuments
import FederatedSearch.Proofs.QueryFaults
import FederatedSearch.Proofs.QueryReading
import FederatedSearch.Proofs.Ranking
import FederatedSearch.Proofs.RecordLookups
import FederatedSearch.Proofs.Relaxation
import FederatedSearch.Proofs.Response
import FederatedSearch.Proofs.ResultCap
import FederatedSearch.Proofs.RoundedOperations
import FederatedSearch.Proofs.ScanLimit
import FederatedSearch.Proofs.ScoreArithmetic
import FederatedSearch.Proofs.ScoreOrder
import FederatedSearch.Proofs.Selection
import FederatedSearch.Proofs.ShortestDecimals
import FederatedSearch.Proofs.StructuredFilter
import FederatedSearch.Proofs.TextConditions
import FederatedSearch.Proofs.UnitVectors
import FederatedSearch.Proofs.VectorBytes
import FederatedSearch.Proofs.VerbatimText
import FederatedSearch.Query.Codec
import FederatedSearch.Settings.Layers
import FederatedSearch.Vector.Embedding
