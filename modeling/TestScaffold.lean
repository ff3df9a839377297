import TestScaffold.CommandLine.Arguments
import TestScaffold.CommandLine.Console
import TestScaffold.CommandLine.Directory
import TestScaffold.CommandLine.Session
import TestScaffold.Config.Basic
import TestScaffold.Config.Decode
import TestScaffold.Decimal.Binary
import TestScaffold.Decimal.Field
import TestScaffold.Decimal.Reading
import TestScaffold.Decimal.Shortest
import TestScaffold.Entries
import TestScaffold.Escalation
import TestScaffold.Extraction
import TestScaffold.Fact
import TestScaffold.Json.Decode
import TestScaffold.Json.Display
import TestScaffold.Json.Reader
import TestScaffold.Json.Value
import TestScaffold.Log
import TestScaffold.Main
import TestScaffold.Model
import TestScaffold.Model.Decode
import TestScaffold.Pattern.Basic
import TestScaffold.Pattern.Scan
import TestScaffold.Pipeline
import TestScaffold.Problem
import TestScaffold.Prompt.Decode
import TestScaffold.Prompt.Requests
import TestScaffold.Prompt.Template
import TestScaffold.Proofs.Escalation.Bodies
import TestScaffold.Proofs.Escalation.Calls
import TestScaffold.Proofs.Escalation.LocalOutcome
import TestScaffold.Proofs.Escalation.Outcomes
import TestScaffold.Proofs.Escalation.VerbatimCode
import TestScaffold.Proofs.Extraction.Canonical
import TestScaffold.Proofs.Extraction.Identifiers
import TestScaffold.Proofs.Extraction.KnownElements
import TestScaffold.Proofs.Extraction.Listing
import TestScaffold.Proofs.Extraction.Merging
import TestScaffold.Proofs.Extraction.Positions
import TestScaffold.Proofs.Extraction.Units
import TestScaffold.Proofs.Extraction.Windows
import TestScaffold.Proofs.Json.Grammar
import TestScaffold.Proofs.Json.Tokens
import TestScaffold.Proofs.Model.Variables
import TestScaffold.Proofs.Pattern.Captures
import TestScaffold.Proofs.Pattern.Cuts
import TestScaffold.Proofs.Pattern.Scanning
import TestScaffold.Proofs.Pattern.Takes
import TestScaffold.Proofs.Pattern.Ways
import TestScaffold.Proofs.Pipeline.Reports
import TestScaffold.Proofs.Prompt.Rendering
import TestScaffold.Proofs.Prompt.Verbatim
import TestScaffold.Proofs.Render.CallArguments
import TestScaffold.Proofs.Render.Closed
import TestScaffold.Proofs.Render.CommentLines
import TestScaffold.Proofs.Render.Forms
import TestScaffold.Proofs.Render.FreshNames
import TestScaffold.Proofs.Render.Naming
import TestScaffold.Proofs.Render.Options
import TestScaffold.Proofs.Render.ParameterLists
import TestScaffold.Proofs.Render.Sections
import TestScaffold.Proofs.Render.SecureFields
import TestScaffold.Proofs.Render.StringLiterals
import TestScaffold.Proofs.Render.Suggestions
import TestScaffold.Proofs.Render.SuppliedBodies
import TestScaffold.Proofs.Render.TestNames
import TestScaffold.Proofs.Reply.Blocks
import TestScaffold.Proofs.Reply.CodeOrJson
import TestScaffold.Proofs.Reply.Fences
import TestScaffold.Proofs.Reply.Messages
import TestScaffold.Proofs.Reply.ReportedModels
import TestScaffold.Proofs.Reply.VariableForms
import TestScaffold.Proofs.Service.BrokenReplies
import TestScaffold.Proofs.Service.Completions
import TestScaffold.Proofs.Service.ConnectionChecks
import TestScaffold.Proofs.Service.Exchanges
import TestScaffold.Proofs.Service.Runs
import TestScaffold.Proofs.Swift.Attachments
import TestScaffold.Proofs.Swift.Body
import TestScaffold.Proofs.Swift.BodyGrammar
import TestScaffold.Proofs.Swift.Calls
import TestScaffold.Proofs.Swift.ControlForms
import TestScaffold.Proofs.Swift.CutAttachments
import TestScaffold.Proofs.Swift.Declared
import TestScaffold.Proofs.Swift.DeclaredNames
import TestScaffold.Proofs.Swift.ElementPasses
import TestScaffold.Proofs.Swift.FoundCalls
import TestScaffold.Proofs.Swift.Lexemes
import TestScaffold.Proofs.Swift.LineForms
import TestScaffold.Proofs.Swift.LiteralTypes
import TestScaffold.Proofs.Swift.Literals
import TestScaffold.Proofs.Swift.MemberPasses
import TestScaffold.Proofs.Swift.NestedParameters
import TestScaffold.Proofs.Swift.PrintedDeclarations
import TestScaffold.Proofs.Swift.PrintedElements
import TestScaffold.Proofs.Swift.PrintedMembers
import TestScaffold.Proofs.Swift.PrintedView
import TestScaffold.Proofs.Swift.StateVariables
import TestScaffold.Proofs.Swift.ViewNames
import TestScaffold.Proofs.Text.Marks
import TestScaffold.Proofs.Text.Words
import TestScaffold.Render.Insertion
import TestScaffold.Render.InterfaceTests
import TestScaffold.Render.Naming
import TestScaffold.Render.Options
import TestScaffold.Render.Parameters
import TestScaffold.Render.UnitTests
import TestScaffold.Reply.Fence
import TestScaffold.Reply.Payload
import TestScaffold.Service.Address
import TestScaffold.Service.Agent
import TestScaffold.Service.Client
import TestScaffold.Service.Exchange
import TestScaffold.Service.Trace
import TestScaffold.Swift.Body
import TestScaffold.Swift.Declarations
import TestScaffold.Swift.Elements
import TestScaffold.Swift.Grammar
import TestScaffold.Swift.View
import TestScaffold.Text.Blank
import TestScaffold.Text.Casing
import TestScaffold.Text.Casing.Table
import TestScaffold.Text.Digest
import TestScaffold.Text.Emoji
import TestScaffold.Text.Emoji.Table
import TestScaffold.Text.Lines
import TestScaffold.Text.Markup
import TestScaffold.Text.Markup.Handler
import TestScaffold.Text.Markup.Style
import TestScaffold.Text.Printable
import TestScaffold.Text.Quoted
import TestScaffold.Text.Ranges
import TestScaffold.Text.Screen
import TestScaffold.Text.Search
import TestScaffold.Text.Word
import TestScaffold.Url.Basic
import TestScaffold.Url.Host
import TestScaffold.Url.Host.Composition
import TestScaffold.Url.Host.Composition.Table
import TestScaffold.Url.Host.Context
import TestScaffold.Url.Host.Direction
import TestScaffold.Url.Host.Marks
import TestScaffold.Url.Host.Table
import TestScaffold.Url.Punycode
import TestScaffold.Url.Quoted
