import Namebook.Text.Blank
import Namebook.Digits
import Namebook.PublicId
import Namebook.PublicId.Machine
import Namebook.Uuid
import Namebook.NameKind
import Namebook.Document
import Namebook.Json
import Namebook.Integer
import Namebook.NameList
import Namebook.Config
import Namebook.Wire
import Namebook.Log
import Namebook.Text.Redaction
import Namebook.Text.Utf8
import Namebook.Store.Error
import Namebook.Repository.Error
import Namebook.Store.Tables
import Namebook.Store.Change
import Namebook.Service.Error
import Namebook.Store.Database
import Namebook.Repository.Rows
import Namebook.Repository.Transaction
import Namebook.Repository.Request
import Namebook.Repository.Answer
import Namebook.Repository.Script
import Namebook.Service.Dialogue
import Namebook.Service.Call
import Namebook.Service.AliasService
import Namebook.Service.DocumentService
import Namebook.Json.Printer
import Namebook.Json.Reader
import Namebook.About
import Namebook.Logging.Crash
import Namebook.Files.Path
import Namebook.Logging.Setup
import Namebook.Files.Tree
import Namebook.Logging.Session
import Namebook.Schema.Catalog
import Namebook.Schema.Definition
import Namebook.Schema.Migration
import Namebook.Schema.Readiness
import Namebook.Schema.Alteration
import Namebook.Schema.Opening
import Namebook.Text.Hidden
import Namebook.Text.Quoted
import Namebook.CommandLine.Diagnostic
import Namebook.CommandLine.Arguments
import Namebook.CommandLine.Run
import Namebook.Store.Snapshot
import Namebook.Main
import Namebook.Proofs.Store.Statement
import Namebook.Proofs.Store.Index
import Namebook.Proofs.Store.RowChange
import Namebook.Proofs.Repository.Transaction
import Namebook.Proofs.Service.Transcript
import Namebook.Proofs.Service.Steps
import Namebook.Proofs.Service.Settled
import Namebook.Proofs.Service.Client
import Namebook.Proofs.Service.Proper
import Namebook.Proofs.History
import Namebook.Proofs.Repository.Effect
import Namebook.Proofs.Namespace
import Namebook.Proofs.Repository.Loading
import Namebook.Proofs.Identity
import Namebook.Proofs.Book
import Namebook.Proofs.Repository.Grant
import Namebook.Proofs.Repository.Reply
import Namebook.Proofs.Service.Check
import Namebook.Proofs.Refinement
import Namebook.Proofs.Service.Conclusion
import Namebook.Proofs.Service.Alone
import Namebook.Proofs.Concurrency
import Namebook.Proofs.Repository.Refusal
import Namebook.Proofs.Service.Grounds
import Namebook.Proofs.Rejection
import Namebook.Proofs.Repository.Faithful
import Namebook.Proofs.Repository.Damage
import Namebook.Proofs.Damage
import Namebook.Proofs.Repository.Addressing
import Namebook.Proofs.Addressing
import Namebook.Proofs.Repository.Frame
import Namebook.Proofs.Version
import Namebook.Proofs.Repository.Paired
import Namebook.Proofs.Service.Paired
import Namebook.Proofs.Repository.Alike
import Namebook.Proofs.Repository.Mirror
import Namebook.Proofs.Service.Sides
import Namebook.Proofs.Repository.Renaming
import Namebook.Proofs.Commutation
import Namebook.Proofs.Discretion
import Namebook.Proofs.View
import Namebook.Proofs.Service.Creation
import Namebook.Proofs.Drawing
import Namebook.Proofs.Change
import Namebook.Proofs.TwoWays
import Namebook.Proofs.Repository.Reversal
import Namebook.Proofs.Reversal
import Namebook.Proofs.Repository.Counters
import Namebook.Proofs.Counters
import Namebook.Proofs.PublicId
import Namebook.Proofs.Redaction
import Namebook.Proofs.Service.Reporting
import Namebook.Proofs.Reporting
import Namebook.Proofs.Schema.Definition
import Namebook.Proofs.Schema.Migration
import Namebook.Proofs.Opening
import Namebook.Proofs.SetUp
import Namebook.Proofs.NameList
import Namebook.Proofs.Service.Forbidding
import Namebook.Proofs.Configuration
import Namebook.Proofs.Uuid
import Namebook.Proofs.Wire
import Namebook.Proofs.Spans
import Namebook.Proofs.Validation
import Namebook.Proofs.Service.Attempts
import Namebook.Proofs.Promotion
