import CodeSmells.Analysis.Analyzer
import CodeSmells.Analysis.Outcome
import CodeSmells.Analysis.Run
import CodeSmells.Catalog
import CodeSmells.CommandLine.Arguments
import CodeSmells.CommandLine.Session
import CodeSmells.Config.Document
import CodeSmells.Config.Error
import CodeSmells.Config.Key
import CodeSmells.Config.Load
import CodeSmells.Config.Settings
import CodeSmells.Config.Toml.Number
import CodeSmells.Config.Toml.Reader
import CodeSmells.Config.Toml.Text
import CodeSmells.Config.Toml.Writer
import CodeSmells.Console.Layout
import CodeSmells.Console.Markup
import CodeSmells.Console.Picture
import CodeSmells.Console.PictureData
import CodeSmells.Console.Style
import CodeSmells.Console.Width
import CodeSmells.Console.WidthData
import CodeSmells.Detector.Comments
import CodeSmells.Detector.DataClass
import CodeSmells.Detector.DataClumps
import CodeSmells.Detector.DivergentChange
import CodeSmells.Detector.DuplicateCode
import CodeSmells.Detector.FeatureEnvy
import CodeSmells.Detector.GlobalState
import CodeSmells.Detector.InappropriateIntimacy
import CodeSmells.Detector.LargeClass
import CodeSmells.Detector.LazyClass
import CodeSmells.Detector.LongMethod
import CodeSmells.Detector.LongParameterList
import CodeSmells.Detector.MessageChains
import CodeSmells.Detector.MiddleMan
import CodeSmells.Detector.PrimitiveObsession
import CodeSmells.Detector.RefusedBequest
import CodeSmells.Detector.ShotgunSurgery
import CodeSmells.Detector.SpeculativeGenerality
import CodeSmells.Detector.SwitchStatements
import CodeSmells.Detector.TemporaryField
import CodeSmells.File.Path
import CodeSmells.File.Tree
import CodeSmells.Grouping
import CodeSmells.Keyed
import CodeSmells.Main
import CodeSmells.Metric.Block
import CodeSmells.Metric.Cohesion
import CodeSmells.Metric.Coupling
import CodeSmells.Metric.Lines
import CodeSmells.Metric.Similarity
import CodeSmells.Model.Class
import CodeSmells.Model.Draft
import CodeSmells.Model.Edge
import CodeSmells.Model.Error
import CodeSmells.Model.Method
import CodeSmells.Model.Name
import CodeSmells.Model.NameSet
import CodeSmells.Model.Parameter
import CodeSmells.Model.Project
import CodeSmells.Model.SourceLine
import CodeSmells.Number.Binary
import CodeSmells.Number.Decimal
import CodeSmells.Number.Limit
import CodeSmells.Number.Quantity
import CodeSmells.Number.Shortest
import CodeSmells.Report.FileName
import CodeSmells.Report.Files
import CodeSmells.Report.Html
import CodeSmells.Report.Plain
import CodeSmells.Report.Sections
import CodeSmells.Script.Body
import CodeSmells.Script.Classes
import CodeSmells.Script.Cursor
import CodeSmells.Script.Edges
import CodeSmells.Script.Folder
import CodeSmells.Script.Grammar
import CodeSmells.Script.Headers
import CodeSmells.Script.Naming
import CodeSmells.Script.Outline
import CodeSmells.Script.ProjectFile
import CodeSmells.Script.Scene
import CodeSmells.Script.Syntax
import CodeSmells.Script.Token
import CodeSmells.Script.Tree
import CodeSmells.Smell.Detector
import CodeSmells.Smell.Location
import CodeSmells.Smell.Result
import CodeSmells.Smell.Severity
import CodeSmells.Text.Alphanumeric
import CodeSmells.Text.Blank
import CodeSmells.Text.Case
import CodeSmells.Text.CaseData
import CodeSmells.Text.Lines
import CodeSmells.Text.Literal
import CodeSmells.Text.Mention
import CodeSmells.Text.Printable
import CodeSmells.Text.Quoted
import CodeSmells.Text.Ranges
import CodeSmells.Text.Scan
import CodeSmells.Text.Word
import CodeSmells.Value.Basic
import CodeSmells.Value.Json
import CodeSmells.Value.Moment
import CodeSmells.Proofs.Analysis.Isolation
import CodeSmells.Proofs.Grouping
import CodeSmells.Proofs.Report.Names
import CodeSmells.Proofs.Report.Saving
import CodeSmells.Proofs.Config.Thresholds
import CodeSmells.Proofs.Detector.Totality
import CodeSmells.Proofs.Config.Refusal
import CodeSmells.Proofs.Config.RoundTrip
import CodeSmells.Proofs.Model.Description
import CodeSmells.Proofs.Model.Arrangement
import CodeSmells.Proofs.Analysis.Determinism
import CodeSmells.Proofs.Detector.ClassOrder
import CodeSmells.Proofs.Detector.Clumps
import CodeSmells.Proofs.Analysis.ClassOrder
import CodeSmells.Proofs.Detector.Comparison
import CodeSmells.Proofs.Detector.Growth
import CodeSmells.Proofs.Detector.Limits
import CodeSmells.Proofs.Detector.Scopes
import CodeSmells.Proofs.Report.Aggregation
import CodeSmells.Proofs.Metric.InertLines
import CodeSmells.Proofs.Report.Markup
import CodeSmells.Proofs.Script.Reading
import CodeSmells.Proofs.Script.ProjectFile
import CodeSmells.Proofs.Metric.Resolution
import CodeSmells.Proofs.Metric.Coupling
import CodeSmells.Proofs.Detector.ClumpGroups
import CodeSmells.Proofs.Text.Blank
import CodeSmells.Proofs.Text.Literal
import CodeSmells.Proofs.Text.Scan
import CodeSmells.Proofs.Metric.TrailingComments
import CodeSmells.Proofs.Detector.Duplicates
import CodeSmells.Proofs.Script.Edges
import CodeSmells.Proofs.Detector.Surgeries
import CodeSmells.Proofs.Detector.Branches
import CodeSmells.Proofs.Detector.ConditionalReads
import CodeSmells.Proofs.Script.SceneTree
import CodeSmells.Proofs.Detector.Reasons
import CodeSmells.Proofs.Script.Parameters
import CodeSmells.Proofs.File.Tree
import CodeSmells.Proofs.Report.Confinement
import CodeSmells.Proofs.Config.Spellings
import CodeSmells.Proofs.Metric.Lookup
import CodeSmells.Proofs.Metric.Blocks
import CodeSmells.Proofs.Detector.AffectedFields
import CodeSmells.Proofs.Detector.CallChains
import CodeSmells.Proofs.Metric.Similarity
import CodeSmells.Proofs.Metric.Cohesion
import CodeSmells.Proofs.Script.Body
