import Stencil.Action
import Stencil.Assignment
import Stencil.Builtin
import Stencil.Catalog
import Stencil.Channel
import Stencil.Command.Arguments
import Stencil.Command.Basic
import Stencil.Command.Run
import Stencil.Context
import Stencil.DataFile
import Stencil.DataFormat
import Stencil.Diagnosis
import Stencil.Dialog
import Stencil.Engine
import Stencil.Factory
import Stencil.Fault
import Stencil.FileTree
import Stencil.FileTree.Disk
import Stencil.Inspect
import Stencil.Json
import Stencil.Main
import Stencil.Markup
import Stencil.Markup.Check
import Stencil.Markup.Evaluation
import Stencil.Markup.Filter
import Stencil.Markup.Grammar
import Stencil.Markup.Pointer
import Stencil.Markup.Print
import Stencil.Markup.Scope
import Stencil.Markup.Syntax
import Stencil.Markup.Trim
import Stencil.Number
import Stencil.Number.Binary64
import Stencil.Number.Decimal
import Stencil.Number.Shortest
import Stencil.Path
import Stencil.Proofs.Account
import Stencil.Proofs.Agreement
import Stencil.Proofs.BuiltinFailure
import Stencil.Proofs.ByteOrder
import Stencil.Proofs.CaptureDiscipline
import Stencil.Proofs.Channel
import Stencil.Proofs.ContextShape
import Stencil.Proofs.DistinctKeys
import Stencil.Proofs.EditDistance
import Stencil.Proofs.EscapedText
import Stencil.Proofs.Exchange
import Stencil.Proofs.FailedLookup
import Stencil.Proofs.FailedOutput
import Stencil.Proofs.FailedRender
import Stencil.Proofs.FaultSearch
import Stencil.Proofs.FaultStory
import Stencil.Proofs.FileChange
import Stencil.Proofs.FirstFault
import Stencil.Proofs.History
import Stencil.Proofs.Inquiry
import Stencil.Proofs.JoinedText
import Stencil.Proofs.JsonReading
import Stencil.Proofs.JsonToken
import Stencil.Proofs.LastingFault
import Stencil.Proofs.LayeredDiagnosis
import Stencil.Proofs.LiteralReading
import Stencil.Proofs.LockStep
import Stencil.Proofs.MadeRegistry
import Stencil.Proofs.MergedContext
import Stencil.Proofs.MissingDirectory
import Stencil.Proofs.NearestNames
import Stencil.Proofs.PageCare
import Stencil.Proofs.PageConditions
import Stencil.Proofs.PageEvaluation
import Stencil.Proofs.PageFailure
import Stencil.Proofs.PageLikeness
import Stencil.Proofs.PageOutput
import Stencil.Proofs.PageParts
import Stencil.Proofs.PageReading
import Stencil.Proofs.PageSteps
import Stencil.Proofs.PathNames
import Stencil.Proofs.PieceAgreement
import Stencil.Proofs.Pieces
import Stencil.Proofs.PlainFault
import Stencil.Proofs.ProperFault
import Stencil.Proofs.RefusedRequest
import Stencil.Proofs.RegistryHistory
import Stencil.Proofs.RenderCommand
import Stencil.Proofs.RenderFailure
import Stencil.Proofs.Rendering
import Stencil.Proofs.RepeatedSearch
import Stencil.Proofs.SearchReach
import Stencil.Proofs.StageFault
import Stencil.Proofs.SupersededCapture
import Stencil.Proofs.TagEvaluation
import Stencil.Proofs.TagReading
import Stencil.Proofs.Telling
import Stencil.Proofs.TwoSettings
import Stencil.Proofs.VisitedRenders
import Stencil.Registry
import Stencil.Render
import Stencil.Report
import Stencil.Settings
import Stencil.Settings.Source
import Stencil.Suggestion
import Stencil.Toml
import Stencil.Toml.Scalar
import Stencil.Toml.Table
import Stencil.Unicode.Blank
import Stencil.Unicode.Case
import Stencil.Unicode.CaseTable
import Stencil.Unicode.Code
import Stencil.Unicode.Grapheme
import Stencil.Unicode.GraphemeTable
import Stencil.Unicode.Unprintable
import Stencil.Value.Basic
import Stencil.Value.Inspect
import Stencil.Value.Text
import Stencil.Yaml
import Stencil.Yaml.Cursor
import Stencil.Yaml.Event
import Stencil.Yaml.Scalar
import Stencil.Yaml.Schema
import Stencil.Yaml.Token
