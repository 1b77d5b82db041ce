import RealmSetup.Flow.MemoryServer
import RealmSetup.Inspection
import RealmSetup.Scenario.Run
import RealmSetup.Web.Prepared
import RealmSetup.Proofs.Effect.Evaluation
import RealmSetup.Proofs.Store.Contents
import RealmSetup.Proofs.Scenario.Ledger
import RealmSetup.Proofs.Scenario.Seeds
import RealmSetup.Proofs.Scenario.Completion
import RealmSetup.Proofs.Effect.Courses
import RealmSetup.Proofs.Flow.Changes
import RealmSetup.Proofs.Flow.Construction
import RealmSetup.Proofs.Flow.Copying
import RealmSetup.Proofs.Flow.Growth
import RealmSetup.Proofs.Flow.Likeness
import RealmSetup.Proofs.Scenario.Frame
import RealmSetup.Proofs.Flow.Circles
import RealmSetup.Proofs.Flow.Names
import RealmSetup.Proofs.Flow.EntryPoints
import RealmSetup.Proofs.Flow.Attribution
import RealmSetup.Proofs.Flow.Operations
import RealmSetup.Proofs.Flow.Visiting
import RealmSetup.Proofs.Scenario.Binding
import RealmSetup.Proofs.Scenario.StepRecords
import RealmSetup.Proofs.Flow.CopyListings
import RealmSetup.Proofs.Json.Reading
import RealmSetup.Proofs.Store.FileText
import RealmSetup.Proofs.Store.Disk
import RealmSetup.Proofs.Store.Sessions
import RealmSetup.Proofs.Store.Trouble
import RealmSetup.Proofs.Wire.Documents
import RealmSetup.Proofs.Admin.Revisions
import RealmSetup.Proofs.Admin.Rounds
import RealmSetup.Proofs.Scenario.Secrecy
import RealmSetup.Proofs.Poll.Vigils
import RealmSetup.Proofs.Poll.Deadlines
import RealmSetup.Proofs.Scenario.Injection
import RealmSetup.Proofs.Mail.Words
import RealmSetup.Proofs.Auth.Expiries
import RealmSetup.Proofs.Url.Percent
import RealmSetup.Proofs.Admin.Addresses
import RealmSetup.Proofs.Json.Prefixes
import RealmSetup.Proofs.Wire.Bodies
import RealmSetup.Proofs.Flow.Issuing
import RealmSetup.Proofs.Flow.Moving
import RealmSetup.Proofs.Scenario.Settings
import RealmSetup.Proofs.Store.Neighbours
import RealmSetup.Proofs.Flow.Branches
