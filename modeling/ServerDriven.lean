import ServerDriven.Action.Basic
import ServerDriven.Action.Parser
import ServerDriven.Codec.Basic
import ServerDriven.Codec.Dictionary
import ServerDriven.Codec.Error
import ServerDriven.Codec.Record
import ServerDriven.CommandLine
import ServerDriven.Config
import ServerDriven.Context.Basic
import ServerDriven.Context.Codec
import ServerDriven.Dispatch.Basic
import ServerDriven.Dispatch.Error
import ServerDriven.Duration
import ServerDriven.Entries
import ServerDriven.Http.Exchange
import ServerDriven.Http.Screens
import ServerDriven.Http.Status
import ServerDriven.Http.Wire
import ServerDriven.Http.Workflow
import ServerDriven.Json.Basic
import ServerDriven.Json.Printer
import ServerDriven.Json.Written
import ServerDriven.Main
import ServerDriven.Number.Binary64
import ServerDriven.Number.Shortest
import ServerDriven.Proofs.Action.Batches
import ServerDriven.Proofs.Action.Grammar
import ServerDriven.Proofs.Codec.AlikeValues
import ServerDriven.Proofs.Codec.KeptObjects
import ServerDriven.Proofs.Codec.MemberOrder
import ServerDriven.Proofs.Codec.RecordReading
import ServerDriven.Proofs.Codec.Restored
import ServerDriven.Proofs.Codec.Structures
import ServerDriven.Proofs.Context.Conversion
import ServerDriven.Proofs.Dispatch.LeavesInTurn
import ServerDriven.Proofs.Dispatch.Performance
import ServerDriven.Proofs.Json.ReadBack
import ServerDriven.Proofs.Number.Exact
import ServerDriven.Proofs.Number.Nearest
import ServerDriven.Proofs.Retry.Doubling
import ServerDriven.Proofs.Retry.FirstFinal
import ServerDriven.Proofs.Run
import ServerDriven.Proofs.Schema.ContainedFaults
import ServerDriven.Proofs.Schema.Reencoded
import ServerDriven.Proofs.Schema.WalkOrder
import ServerDriven.Proofs.Screen.ActionsInTurn
import ServerDriven.Proofs.Screen.AtRest
import ServerDriven.Proofs.Screen.CacheRun
import ServerDriven.Proofs.Screen.FetchAttempts
import ServerDriven.Proofs.Screen.FetchAudit
import ServerDriven.Proofs.Screen.FetchTraffic
import ServerDriven.Proofs.Screen.FirstVisit
import ServerDriven.Proofs.Screen.Independence
import ServerDriven.Proofs.Screen.LatestRefresh
import ServerDriven.Proofs.Screen.OwnAddress
import ServerDriven.Proofs.Screen.OwnScreen
import ServerDriven.Proofs.Screen.SurfaceRun
import ServerDriven.Proofs.Screen.WayBack
import ServerDriven.Proofs.Screen.WorkerRun
import ServerDriven.Proofs.Session.Kept
import ServerDriven.Proofs.Storage.FileHistory
import ServerDriven.Proofs.Storage.Reopened
import ServerDriven.Proofs.Url.Continued
import ServerDriven.Proofs.Url.Endpoints
import ServerDriven.Proofs.Url.OneSegment
import ServerDriven.Proofs.Url.PathText
import ServerDriven.Proofs.Url.PercentCoding
import ServerDriven.Proofs.Workflow.CommandRun
import ServerDriven.Proofs.Workflow.Conversation
import ServerDriven.Proofs.Workflow.EndedSession
import ServerDriven.Proofs.Workflow.FailedCall
import ServerDriven.Proofs.Workflow.FoldedView
import ServerDriven.Proofs.Workflow.HiddenDetails
import ServerDriven.Proofs.Workflow.IntentRun
import ServerDriven.Proofs.Workflow.KeptIds
import ServerDriven.Proofs.Workflow.KnownSession
import ServerDriven.Proofs.Workflow.LineRun
import ServerDriven.Proofs.Workflow.OneSession
import ServerDriven.Proofs.Workflow.OverlappingCalls
import ServerDriven.Proofs.Workflow.PublishedStates
import ServerDriven.Proofs.Workflow.SentOnce
import ServerDriven.Proofs.Workflow.Service
import ServerDriven.Proofs.Workflow.Turns
import ServerDriven.Proofs.Workflow.WireForm
import ServerDriven.Rehearsal.Agenda
import ServerDriven.Rehearsal.Attempts
import ServerDriven.Rehearsal.Clock
import ServerDriven.Rehearsal.Host
import ServerDriven.Rehearsal.Screens
import ServerDriven.Rehearsal.Script
import ServerDriven.Rehearsal.Server
import ServerDriven.Rehearsal.Workflow
import ServerDriven.Retry.Policy
import ServerDriven.Retry.Run
import ServerDriven.Schema.Basic
import ServerDriven.Schema.Codec
import ServerDriven.Screen.Address
import ServerDriven.Screen.Cache
import ServerDriven.Screen.Controller
import ServerDriven.Screen.Error
import ServerDriven.Screen.Library
import ServerDriven.Screen.Outline
import ServerDriven.Screen.Surface
import ServerDriven.Session.Store
import ServerDriven.Session.Token
import ServerDriven.Storage.Basic
import ServerDriven.Storage.File
import ServerDriven.Text.Blank
import ServerDriven.Text.CodeTable
import ServerDriven.Text.CombiningClass
import ServerDriven.Text.Mark
import ServerDriven.Text.Quoted
import ServerDriven.Text.Unprinted
import ServerDriven.Text.Uppercase
import ServerDriven.Url.Basic
import ServerDriven.Url.Domain
import ServerDriven.Url.Domain.Composite
import ServerDriven.Url.Domain.Direction
import ServerDriven.Url.Domain.Joining
import ServerDriven.Url.Domain.Kept
import ServerDriven.Url.Domain.Replacement
import ServerDriven.Url.Host
import ServerDriven.Url.Parser
import ServerDriven.Url.Percent
import ServerDriven.Url.Punycode
import ServerDriven.Watched
import ServerDriven.Workflow.Api
import ServerDriven.Workflow.Controller
import ServerDriven.Workflow.Definition
import ServerDriven.Workflow.Error
import ServerDriven.Workflow.Line
import ServerDriven.Workflow.Message
import ServerDriven.Workflow.ScreenData
import ServerDriven.Workflow.Session
import ServerDriven.Workflow.State
import ServerDriven.Workflow.View
