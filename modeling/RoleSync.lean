import RoleSync.Text.Blank
import RoleSync.Text.Letter
import RoleSync.Text.Json
import RoleSync.Host
import RoleSync.Role
import RoleSync.Rule.Error
import RoleSync.Rule.Script
import RoleSync.Rule.Basic
import RoleSync.Rule.Execute
import RoleSync.Rulebook
import RoleSync.Community
import RoleSync.Outcome
import RoleSync.Notice
import RoleSync.Relevance
import RoleSync.Sql.Double
import RoleSync.Sql.Value
import RoleSync.Sql.Token
import RoleSync.Sql.Syntax
import RoleSync.Sql.Parser
import RoleSync.Sql.Script
import RoleSync.Sql.Catalog
import RoleSync.Sql.Operator
import RoleSync.Sql.Json
import RoleSync.Sql.JsonBinary
import RoleSync.Sql.JsonPath
import RoleSync.Sql.JsonCall
import RoleSync.Sql.Printf
import RoleSync.Sql.DateTime
import RoleSync.Sql.Function
import RoleSync.Sql.Eval
import RoleSync.Sql.Execute
import RoleSync.Sql.Client
import RoleSync.Sql.Call
import RoleSync.Cache.Error
import RoleSync.Cache.Memory
import RoleSync.Cache.Database
import RoleSync.Cache.LocalEngine
import RoleSync.Cache.Store
import RoleSync.Cache.RuleCache
import RoleSync.Cache.Session
import RoleSync.Manager.World
import RoleSync.Manager.Schedule
import RoleSync.Manager.FanOut
import RoleSync.Manager.Reconcile
import RoleSync.Manager.Basic
import RoleSync.Manager.Resolve
import RoleSync.Manager.Session
import RoleSync.Toml.Value
import RoleSync.Toml.Scalar
import RoleSync.Toml.Document
import RoleSync.LogFilter.Pattern
import RoleSync.LogFilter.Directive
import RoleSync.Settings.Basic
import RoleSync.Settings.Decode
import RoleSync.Settings.Validate
import RoleSync.Settings.Report
import RoleSync.Settings.Load
import RoleSync.Proofs.Rulebook
import RoleSync.Proofs.CacheStore
import RoleSync.Proofs.CacheModel
import RoleSync.Proofs.CacheRefinement
import RoleSync.Proofs.CacheConcurrency
import RoleSync.Proofs.CacheFaults
import RoleSync.Proofs.CacheIsolation
import RoleSync.Proofs.CacheContents
import RoleSync.Proofs.JsonStrings
import RoleSync.Proofs.DocumentedEngine
import RoleSync.Proofs.BackendEquivalence
import RoleSync.Proofs.ConfigCheck
import RoleSync.Proofs.Reconcile
import RoleSync.Proofs.FanOut
import RoleSync.Proofs.Resolution
import RoleSync.Proofs.StrongRules
import RoleSync.Proofs.StandardRoles
import RoleSync.Proofs.SyncProtocol
import RoleSync.Proofs.Reload
import RoleSync.Proofs.FanOutProgress
import RoleSync.Proofs.BranchAccounts
import RoleSync.Proofs.RoleComputation
import RoleSync.Proofs.Relevance
import RoleSync.Proofs.ReconcileOutcome
import RoleSync.Proofs.IdentityDisclosure
import RoleSync.Proofs.Deadlines
import RoleSync.Proofs.RuleExecution
import RoleSync.Proofs.SettingsValidation
