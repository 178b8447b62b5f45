import AtlasOfUs.Agent.Events
import AtlasOfUs.GraphApi.LevelAlignment
import AtlasOfUs.GraphApi.Storage
import AtlasOfUs.GraphApi.Progress
import AtlasOfUs.Worker.Acknowledgement
import AtlasOfUs.Worker.Redelivery
import AtlasOfUs.Editor.RemovedNodes
import AtlasOfUs.Editor.KeptNodes
import AtlasOfUs.Editor.RoundTrip
import AtlasOfUs.Agent.LevelResolution
import AtlasOfUs.Agent.ReuseDecisions
import AtlasOfUs.Agent.ExistenceCheck
import AtlasOfUs.GraphApi.AddressedWrites
import AtlasOfUs.GraphApi.SpliceNames
import AtlasOfUs.GraphApi.PublicSearch
import AtlasOfUs.Thresholds
import AtlasOfUs.Agent.DomainNames
import AtlasOfUs.Editor.NodeFetch
import AtlasOfUs.Auth.Overlap
import AtlasOfUs.Agent.EventStream
import AtlasOfUs.Agent.Record
import AtlasOfUs.Agent.Bracketing
import AtlasOfUs.Agent.Books
import AtlasOfUs.Agent.Bookkeeping
import AtlasOfUs.Agent.Accounts
import AtlasOfUs.Library.GraphLinks
import AtlasOfUs.Agent.PrerequisiteCycles
import AtlasOfUs.Library.Tally
import AtlasOfUs.Agent.Supplies
import AtlasOfUs.Agent.Listing
import AtlasOfUs.Library.Ledger
import AtlasOfUs.Agent.Groundwork
import AtlasOfUs.GraphApi.RelationshipWrites
import AtlasOfUs.Agent.RequirementList
import AtlasOfUs.Agent.RequirementLedger
import AtlasOfUs.Agent.Slices
import AtlasOfUs.Library.Requests
import AtlasOfUs.Library.LatestWins
import AtlasOfUs.Editor.NodeSearchPanel
import AtlasOfUs.Editor.NameCheck
import AtlasOfUs.Viewer.ForceGraph
import AtlasOfUs.DecisionEngines
import AtlasOfUs.Library.ParallelEdges
import AtlasOfUs.GraphApi.RequirementClashes
import AtlasOfUs.Worker.Stages
import AtlasOfUs.DuplicateEdges
import AtlasOfUs.Agent.DomainStorage
import AtlasOfUs.Agent.Queueing
import AtlasOfUs.Agent.Acceptance
import AtlasOfUs.JobMessages
import AtlasOfUs.Library.GraphInvariants
import AtlasOfUs.Worker.Placement
import AtlasOfUs.Pipeline
import AtlasOfUs.GraphApi.NodeCreation
import AtlasOfUs.Worker.Creation
import AtlasOfUs.Embeddings
import AtlasOfUs.LevelReplacement
import AtlasOfUs.TextWrapping
import AtlasOfUs.ReplyTexts
import AtlasOfUs.Worker.Decisions
import AtlasOfUs.Library.OrderedMap
import AtlasOfUs.Viewer.NodeTree
import AtlasOfUs.Viewer.Generalizations
import AtlasOfUs.Library.Buffered
import AtlasOfUs.Agent.Alignment
import AtlasOfUs.Agent.MissingTargets
import AtlasOfUs.Agent.Confirmations
import AtlasOfUs.Agent.GeneralizationLinks
import AtlasOfUs.Numerals
import AtlasOfUs.Agent.TraitScores
import AtlasOfUs.Library.Discs
import AtlasOfUs.Library.DistinctRows
import AtlasOfUs.Library.Interning
import AtlasOfUs.Library.Grid
import AtlasOfUs.Viewer.Layout
import AtlasOfUs.Viewer.CanvasIds
import AtlasOfUs.Viewer.HitTest
import AtlasOfUs.Editor.CreatorCanvas
import AtlasOfUs.Viewer.Camera
import AtlasOfUs.Editor.MappedRows
import AtlasOfUs.GraphApi.WriteEffects
import AtlasOfUs.GraphApi.FaithfulView
import AtlasOfUs.GraphApi.CreatedNodes
import AtlasOfUs.Agent.Deduplication
import AtlasOfUs.Agent.AvatarKeys
import AtlasOfUs.Library.Outstanding
import AtlasOfUs.Agent.Filing
import AtlasOfUs.Agent.FailureReport
import AtlasOfUs.Library.PercentEncoding
import AtlasOfUs.Library.UrlPath
import AtlasOfUs.Viewer.UserProfile
import AtlasOfUs.Viewer.ProgressPage
import AtlasOfUs.Viewer.ProgressActions
import AtlasOfUs.Viewer.ProgressRuns
import AtlasOfUs.Library.Channel
import AtlasOfUs.Agent.Verdict
import AtlasOfUs.Agent.Streaming
import AtlasOfUs.Agent.GeneratorPage
import AtlasOfUs.Auth.Tokens
import AtlasOfUs.Auth.Persons
import AtlasOfUs.GraphApi.TextSearch
import AtlasOfUs.Editor.SearchResults
import AtlasOfUs.Router.Requests
import AtlasOfUs.Router.Persons
import AtlasOfUs.Router.Accounts
import AtlasOfUs.Router.Access
import AtlasOfUs.Library.UrlQuery
import AtlasOfUs.ObjectStore
import AtlasOfUs.Viewer.Attachments
import AtlasOfUs.Library.Shelf
import AtlasOfUs.WikiToGraph
import AtlasOfUs.ImageGen
