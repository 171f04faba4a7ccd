import IdentityLifecycle.Basic
import IdentityLifecycle.Binary64
import IdentityLifecycle.Binary64.Decimal
import IdentityLifecycle.Binary64.Numeral
import IdentityLifecycle.Cache
import IdentityLifecycle.Command
import IdentityLifecycle.Command.Arguments
import IdentityLifecycle.Command.Run
import IdentityLifecycle.Environment
import IdentityLifecycle.Hash.Argon2id
import IdentityLifecycle.Hash.Blake2b
import IdentityLifecycle.Hasher
import IdentityLifecycle.Json.Print
import IdentityLifecycle.Json.Read
import IdentityLifecycle.Json.Scan
import IdentityLifecycle.Json.Value
import IdentityLifecycle.Log
import IdentityLifecycle.Log.Directive
import IdentityLifecycle.Log.Filter
import IdentityLifecycle.Log.Line
import IdentityLifecycle.Log.Pattern
import IdentityLifecycle.Mail
import IdentityLifecycle.Mail.Mailer
import IdentityLifecycle.Mail.Site
import IdentityLifecycle.Main
import IdentityLifecycle.Service
import IdentityLifecycle.Service.Call
import IdentityLifecycle.Service.Error
import IdentityLifecycle.Service.Procedure
import IdentityLifecycle.Settings
import IdentityLifecycle.Settings.Decode
import IdentityLifecycle.Settings.Load
import IdentityLifecycle.Settings.Node
import IdentityLifecycle.Startup
import IdentityLifecycle.Step
import IdentityLifecycle.Store
import IdentityLifecycle.Store.Cell
import IdentityLifecycle.Store.Database
import IdentityLifecycle.Store.Error
import IdentityLifecycle.Store.Folder
import IdentityLifecycle.Store.Lexeme
import IdentityLifecycle.Store.Location
import IdentityLifecycle.Store.Migration
import IdentityLifecycle.Store.Query
import IdentityLifecycle.Store.Row
import IdentityLifecycle.Store.Schema
import IdentityLifecycle.Store.Snapshot
import IdentityLifecycle.Store.Statement
import IdentityLifecycle.Store.Url
import IdentityLifecycle.Text.Basic
import IdentityLifecycle.Text.Case
import IdentityLifecycle.Text.CaseTable
import IdentityLifecycle.Text.Quoted
import IdentityLifecycle.Text.Similarity
import IdentityLifecycle.Text.Utf8
import IdentityLifecycle.Text.WordTable
import IdentityLifecycle.Token
import IdentityLifecycle.Token.Ledger
import IdentityLifecycle.User
import IdentityLifecycle.User.Json
import IdentityLifecycle.User.Validation
import IdentityLifecycle.Proofs.Carries
import IdentityLifecycle.Proofs.Orderly
import IdentityLifecycle.Proofs.Failure
import IdentityLifecycle.Proofs.Settling
import IdentityLifecycle.Proofs.Statements
import IdentityLifecycle.Proofs.Tables
import IdentityLifecycle.Proofs.Work
import IdentityLifecycle.Proofs.Units
import IdentityLifecycle.Proofs.Ending
import IdentityLifecycle.Proofs.Canonical
import IdentityLifecycle.Proofs.Effects
import IdentityLifecycle.Proofs.Run
import IdentityLifecycle.Proofs.Chronicle
import IdentityLifecycle.Proofs.Sound
import IdentityLifecycle.Proofs.Credentials
import IdentityLifecycle.Proofs.Expiry
import IdentityLifecycle.Proofs.Links
import IdentityLifecycle.Proofs.Redemption
import IdentityLifecycle.Proofs.Reachable
import IdentityLifecycle.Proofs.Disclosure
import IdentityLifecycle.Proofs.TokenValue
import IdentityLifecycle.Proofs.Mailing
import IdentityLifecycle.Proofs.CacheEntries
import IdentityLifecycle.Proofs.KnownUsers
import IdentityLifecycle.Proofs.Alike
import IdentityLifecycle.Proofs.Transparency
import IdentityLifecycle.Proofs.Filing
import IdentityLifecycle.Proofs.Sweep
import IdentityLifecycle.Proofs.Lookup
import IdentityLifecycle.Proofs.Layers
import IdentityLifecycle.Proofs.Maintenance
import IdentityLifecycle.Proofs.Serving
import IdentityLifecycle.Proofs.Tidy
import IdentityLifecycle.Proofs.Envelope
import IdentityLifecycle.Proofs.Account
import IdentityLifecycle.Proofs.Interference
import IdentityLifecycle.Proofs.Reporting
import IdentityLifecycle.Proofs.Masking
import IdentityLifecycle.Proofs.Secrecy
import IdentityLifecycle.Proofs.Upkeep
import IdentityLifecycle.Proofs.Records
import IdentityLifecycle.Proofs.Migrating
import IdentityLifecycle.Proofs.Comparing
import IdentityLifecycle.Proofs.Holders
import IdentityLifecycle.Proofs.Redeeming
import IdentityLifecycle.Proofs.ResetGate
import IdentityLifecycle.Proofs.RowStatements
import IdentityLifecycle.Proofs.Transactions
import IdentityLifecycle.Proofs.Issuing
import IdentityLifecycle.Proofs.UniqueKeys
import IdentityLifecycle.Proofs.EmailGrammar
import IdentityLifecycle.Proofs.LogBlind
import IdentityLifecycle.Proofs.Spelling
import IdentityLifecycle.Proofs.Stamping
import IdentityLifecycle.Proofs.StoredUsers
import IdentityLifecycle.Proofs.Refreshing
import IdentityLifecycle.Proofs.Trimming
import IdentityLifecycle.Proofs.SiteUrls
import IdentityLifecycle.Proofs.TokenLinks
import IdentityLifecycle.Proofs.Remembering
import IdentityLifecycle.Proofs.JsonGrammar
import IdentityLifecycle.Proofs.JsonForms
import IdentityLifecycle.Proofs.PublicUserTexts
import IdentityLifecycle.Proofs.KnownSettings
import IdentityLifecycle.Proofs.SettingLayers
import IdentityLifecycle.Proofs.SettingSources
import IdentityLifecycle.Proofs.IntegerSettings
