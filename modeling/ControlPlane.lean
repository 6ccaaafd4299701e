import ControlPlane.Bytes
import ControlPlane.Cluster.Call
import ControlPlane.Cluster.Schedule
import ControlPlane.Failure
import ControlPlane.Http.Api
import ControlPlane.Http.Percent
import ControlPlane.Http.Response
import ControlPlane.Http.Route
import ControlPlane.Http.Target
import ControlPlane.Json.Document
import ControlPlane.Json.Error
import ControlPlane.Json.Reader
import ControlPlane.Json.Shape
import ControlPlane.Json.Token
import ControlPlane.Launch.Address
import ControlPlane.Launch.Arguments
import ControlPlane.Launch.Folder
import ControlPlane.Launch.Start
import ControlPlane.Main
import ControlPlane.Proofs.Text.Decimal
import ControlPlane.Proofs.Time.Calendar
import ControlPlane.Records.JujuUser
import ControlPlane.Records.Lock
import ControlPlane.Records.Manifest
import ControlPlane.Records.Node
import ControlPlane.Registry.ConfigItems
import ControlPlane.Registry.JujuUsers
import ControlPlane.Registry.Manifests
import ControlPlane.Registry.Nodes
import ControlPlane.Registry.Plans
import ControlPlane.Row.Codec
import ControlPlane.Settings.Environment
import ControlPlane.Settings.Load
import ControlPlane.Settings.Tree
import ControlPlane.Settings.Variable
import ControlPlane.Store.Action
import ControlPlane.Store.Database
import ControlPlane.Store.KeyMap
import ControlPlane.Store.Store
import ControlPlane.Store.Table
import ControlPlane.Store.WriteSet
import ControlPlane.Text.Blank
import ControlPlane.Text.Digits
import ControlPlane.Text.Hidden
import ControlPlane.Text.Quoted
import ControlPlane.Text.Reader
import ControlPlane.Text.Split
import ControlPlane.Text.Utf8
import ControlPlane.Time.Calendar
import ControlPlane.Time.DateTime
import ControlPlane.Time.Reader
import ControlPlane.Toml.Document
import ControlPlane.Toml.Number
import ControlPlane.Toml.Quoted
import ControlPlane.Toml.Table
import ControlPlane.Toml.Value
import ControlPlane.Proofs.Time.WrittenDates
import ControlPlane.Proofs.Json.QuotedText
import ControlPlane.Proofs.Json.WrittenNumbers
import ControlPlane.Proofs.Json.WrittenTokens
import ControlPlane.Proofs.Json.WrittenRecords
import ControlPlane.Proofs.Json.ValueTexts
import ControlPlane.Proofs.Json.PassedValues
import ControlPlane.Proofs.Json.ObjectTexts
import ControlPlane.Proofs.Records.WrittenLocks
import ControlPlane.Proofs.Store.Footprint
import ControlPlane.Proofs.Store.KeyRanges
import ControlPlane.Proofs.Store.OverlaidRows
import ControlPlane.Proofs.Store.PlainTables
import ControlPlane.Proofs.Store.AcceptedWrites
import ControlPlane.Proofs.Registry.ConfigTexts
import ControlPlane.Proofs.Registry.PlanRows
import ControlPlane.Proofs.Registry.PlanMachine
import ControlPlane.Proofs.Registry.StandingLock
import ControlPlane.Proofs.Cluster.CallFootprint
import ControlPlane.Proofs.Cluster.Serving
import ControlPlane.Proofs.Cluster.LockHistory
import ControlPlane.Proofs.Cluster.Refusals
import ControlPlane.Proofs.Http.CarriedValues
import ControlPlane.Proofs.Http.RequestOutcomes
import ControlPlane.Proofs.Cluster.Clients
import ControlPlane.Proofs.Cluster.SerialOrder
import ControlPlane.Proofs.Cluster.SoundRows
import ControlPlane.Proofs.Cluster.SoundCalls
import ControlPlane.Proofs.Cluster.CallReads
import ControlPlane.Proofs.Store.Engines
import ControlPlane.Proofs.Cluster.Restarts
import ControlPlane.Proofs.Cluster.SoundRuns
import ControlPlane.Proofs.Cluster.TimedRuns
import ControlPlane.Proofs.Cluster.Registers
import ControlPlane.Proofs.Cluster.RegisterRows
import ControlPlane.Proofs.Cluster.RegisterCalls
import ControlPlane.Proofs.Cluster.RegisterRuns
import ControlPlane.Proofs.Cluster.ManifestLog
import ControlPlane.Proofs.Http.NamedTargets
import ControlPlane.Proofs.Http.RequestRuns
import ControlPlane.Proofs.Http.ReadAnswers
import ControlPlane.Proofs.Http.ItemPlans
import ControlPlane.Proofs.Http.KeptTexts
import ControlPlane.Proofs.Cluster.StoredLocks
import ControlPlane.Proofs.Http.LockDocuments
import ControlPlane.Proofs.Row.SelfDelimiting
import ControlPlane.Proofs.Registry.StoredRows
import ControlPlane.Proofs.Time.WrittenInstants
import ControlPlane.Proofs.Records.SentRecords
import ControlPlane.Proofs.Http.RecordAnswers
import ControlPlane.Proofs.Cluster.DisjointCalls
import ControlPlane.Proofs.Registry.OwnedRows
import ControlPlane.Proofs.Cluster.MirroredRows
import ControlPlane.Proofs.Http.HiddenOwners
import ControlPlane.Proofs.Store.CleanFailures
import ControlPlane.Proofs.Cluster.FailedOperations
import ControlPlane.Proofs.Registry.RowIds
import ControlPlane.Proofs.Registry.WrittenRoles
import ControlPlane.Proofs.Cluster.ReachedNodes
import ControlPlane.Proofs.Cluster.RoleFilter
import ControlPlane.Proofs.Cluster.RoleSets
import ControlPlane.Proofs.Cluster.NodeUpdates
import ControlPlane.Proofs.Cluster.RecordedManifests
import ControlPlane.Proofs.Registry.KnownMembers
import ControlPlane.Proofs.Settings.VariableNames
import ControlPlane.Proofs.Settings.VariableSettings
import ControlPlane.Proofs.Settings.LayeredSections
import ControlPlane.Proofs.Settings.LatestSources
