import VisualNovel.Command.Arguments
import VisualNovel.Command.Run
import VisualNovel.Config.Default
import VisualNovel.Config.LogFilter
import VisualNovel.Config.Section
import VisualNovel.Config.Store
import VisualNovel.Dialogue.Markup
import VisualNovel.Dialogue.Run
import VisualNovel.Dialogue.Runs
import VisualNovel.Files.Path
import VisualNovel.Files.Tree
import VisualNovel.Json.Basic
import VisualNovel.Json.Decode
import VisualNovel.Json.Direct
import VisualNovel.Json.Encode
import VisualNovel.Json.Fault
import VisualNovel.Json.Parser
import VisualNovel.Json.Printer
import VisualNovel.Language
import VisualNovel.Library.Basic
import VisualNovel.Library.Content
import VisualNovel.Library.Error
import VisualNovel.Main
import VisualNovel.Number.Decimal
import VisualNovel.Number.Rounding
import VisualNovel.Number.Shortest
import VisualNovel.Numeral
import VisualNovel.Pattern.Automaton
import VisualNovel.Pattern.Basic
import VisualNovel.Pattern.Bracket
import VisualNovel.Pattern.Check
import VisualNovel.Pattern.Cursor
import VisualNovel.Pattern.Escape
import VisualNovel.Pattern.Fault
import VisualNovel.Pattern.Form
import VisualNovel.Pattern.Form.OfPattern
import VisualNovel.Pattern.Members
import VisualNovel.Pattern.Mode
import VisualNovel.Pattern.Parser
import VisualNovel.Pattern.Place
import VisualNovel.Pattern.Property
import VisualNovel.Pattern.Property.Names
import VisualNovel.Pattern.Size
import VisualNovel.Playback.Preload
import VisualNovel.Playback.Stage
import VisualNovel.Playback.Timeline
import VisualNovel.Proofs.Command.Arguments
import VisualNovel.Proofs.Command.Run
import VisualNovel.Proofs.Config.Store
import VisualNovel.Proofs.Decimal
import VisualNovel.Proofs.Dialogue.Colors
import VisualNovel.Proofs.Dialogue.Pauses
import VisualNovel.Proofs.Dialogue.PlainText
import VisualNovel.Proofs.Dialogue.Runs
import VisualNovel.Proofs.Dialogue.Source
import VisualNovel.Proofs.Dialogue.Stretches
import VisualNovel.Proofs.Dialogue.Style
import VisualNovel.Proofs.Dialogue.Tags
import VisualNovel.Proofs.Dialogue.TornTags
import VisualNovel.Proofs.Entries
import VisualNovel.Proofs.Files.Change
import VisualNovel.Proofs.Files.Path
import VisualNovel.Proofs.Files.Walk
import VisualNovel.Proofs.Json.ReadBack
import VisualNovel.Proofs.Library.Absent
import VisualNovel.Proofs.Library.Content
import VisualNovel.Proofs.Library.Load
import VisualNovel.Proofs.Library.Project
import VisualNovel.Proofs.Library.Run
import VisualNovel.Proofs.Library.Tables
import VisualNovel.Proofs.Numeral
import VisualNovel.Proofs.Pattern.Check
import VisualNovel.Proofs.Playback.Playthrough
import VisualNovel.Proofs.Playback.Preload
import VisualNovel.Proofs.Playback.Reading
import VisualNovel.Proofs.Playback.Route
import VisualNovel.Proofs.Playback.Stage
import VisualNovel.Proofs.Reference.Tables
import VisualNovel.Proofs.Resource
import VisualNovel.Proofs.Script.Consumption
import VisualNovel.Proofs.Script.Exclusion
import VisualNovel.Proofs.Script.Integers
import VisualNovel.Proofs.Script.Lines
import VisualNovel.Proofs.Script.Matched
import VisualNovel.Proofs.Script.Readers
import VisualNovel.Proofs.Script.Spelling
import VisualNovel.Proofs.Staging.Answers
import VisualNovel.Proofs.Staging.Calls
import VisualNovel.Proofs.Staging.Cast
import VisualNovel.Proofs.Staging.Dialogue
import VisualNovel.Proofs.Staging.Extension
import VisualNovel.Proofs.Staging.Failure
import VisualNovel.Proofs.Staging.History
import VisualNovel.Proofs.Staging.Kind
import VisualNovel.Proofs.Staging.Light
import VisualNovel.Proofs.Staging.Numbers
import VisualNovel.Proofs.Staging.Outline
import VisualNovel.Proofs.Staging.Player
import VisualNovel.Proofs.Staging.Recovery
import VisualNovel.Proofs.Staging.Registry
import VisualNovel.Proofs.Staging.Reports
import VisualNovel.Proofs.Staging.Run
import VisualNovel.Proofs.Staging.WellFormed
import VisualNovel.Proofs.Staging.Wording
import VisualNovel.Proofs.Story.Codec
import VisualNovel.Proofs.Text.Keyword
import VisualNovel.Proofs.Text.Lowercase
import VisualNovel.Proofs.Toml.Keys
import VisualNovel.Reference.Character
import VisualNovel.Reference.Scenery
import VisualNovel.Reference.Tables
import VisualNovel.Resource
import VisualNovel.Script.Consumption
import VisualNovel.Script.Directive
import VisualNovel.Script.Grammar
import VisualNovel.Script.Parameter
import VisualNovel.Script.Segment
import VisualNovel.Staging.Cast
import VisualNovel.Staging.Choices
import VisualNovel.Staging.Directive
import VisualNovel.Staging.Error
import VisualNovel.Staging.Opening
import VisualNovel.Staging.Scene
import VisualNovel.Staging.Settings
import VisualNovel.Staging.Speech
import VisualNovel.Staging.Story
import VisualNovel.Story.Codec.Stage
import VisualNovel.Story.Codec.Text
import VisualNovel.Story.Codec.Unit
import VisualNovel.Story.Row
import VisualNovel.Story.Unit
import VisualNovel.Text.Age
import VisualNovel.Text.Age.Table
import VisualNovel.Text.Blank
import VisualNovel.Text.ByteRange
import VisualNovel.Text.CaseFolding
import VisualNovel.Text.CaseFolding.Table
import VisualNovel.Text.Category
import VisualNovel.Text.Category.Table
import VisualNovel.Text.CharClass
import VisualNovel.Text.DecimalDigit
import VisualNovel.Text.Folding
import VisualNovel.Text.Letter
import VisualNovel.Text.Letter.Table
import VisualNovel.Text.Lowercase
import VisualNovel.Text.Lowercase.Table
import VisualNovel.Text.Quoted
import VisualNovel.Text.Quoted.Table
import VisualNovel.Text.RangeTable
import VisualNovel.Text.RangeTable.Algebra
import VisualNovel.Text.Reader
import VisualNovel.Text.Segmentation
import VisualNovel.Text.Trait
import VisualNovel.Text.Trait.Table
import VisualNovel.Text.WritingSystem
import VisualNovel.Text.WritingSystem.Shared
import VisualNovel.Text.WritingSystem.Table
import VisualNovel.Toml.Basic
import VisualNovel.Toml.Document
import VisualNovel.Toml.Moment
import VisualNovel.Toml.MomentTable
import VisualNovel.Toml.Parser
import VisualNovel.Toml.Printer
import VisualNovel.Toml.Scalar
