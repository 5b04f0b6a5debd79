import XdpFirewall.Lib.KeyedStore
import XdpFirewall.Lib.LongestPrefix
import XdpFirewall.Lib.FirstWins
import XdpFirewall.Lib.Cover
import XdpFirewall.Lib.Paging
import XdpFirewall.Lib.Reorder
import XdpFirewall.Lib.TokenBucket
import XdpFirewall.Net.IpNet
import XdpFirewall.Policy.Model
import XdpFirewall.Policy.Compile
import XdpFirewall.DataPlane.Encoding
import XdpFirewall.DataPlane.Local
import XdpFirewall.Lib.Focus
import XdpFirewall.Lib.Guard
import XdpFirewall.DataPlane.Maps
import XdpFirewall.DataPlane.Pending
import XdpFirewall.DataPlane.Apply
import XdpFirewall.DataPlane.ApplyRun
import XdpFirewall.DataPlane.ApplyContent
import XdpFirewall.DataPlane.ApplyExact
import XdpFirewall.DataPlane.ApplyOrder
import XdpFirewall.DataPlane.Capacity
import XdpFirewall.Bpf.HandlePacket
import XdpFirewall.Bpf.ParsePacket
import XdpFirewall.Bpf.HeaderWalk
import XdpFirewall.Bpf.Fragments
import XdpFirewall.Bpf.KeyAgreement
import XdpFirewall.Bpf.Lookup
import XdpFirewall.Bpf.RateLimit
import XdpFirewall.Bpf.BucketRun
import XdpFirewall.Bpf.RefillExact
import XdpFirewall.Bpf.FloodBlock
import XdpFirewall.Bpf.StaleClock
import XdpFirewall.Enforcement.Counters
import XdpFirewall.Agent.DropEvents
import XdpFirewall.Agent.ControlTrust
import XdpFirewall.Agent.NetlinkAck
import XdpFirewall.Enforcement.DecisionOrder
import XdpFirewall.Enforcement.EnabledLimits
import XdpFirewall.Enforcement.RuleMap
import XdpFirewall.Enforcement.RulePrecedence
import XdpFirewall.Enforcement.TempBans
import XdpFirewall.DataPlane.ApplyCapacity
import XdpFirewall.DataPlane.GuardedApply
import XdpFirewall.Lib.Transition
import XdpFirewall.Lib.Traverse
import XdpFirewall.ControlPlane.Tables
import XdpFirewall.ControlPlane.LoadPolicy
import XdpFirewall.ControlPlane.GeoPages
import XdpFirewall.ControlPlane.ActiveRows
import XdpFirewall.ControlPlane.RuntimeCidrs
import XdpFirewall.ControlPlane.RowOrder
import XdpFirewall.ControlPlane.Sync
import XdpFirewall.ControlPlane.SyncInvariant
import XdpFirewall.ControlPlane.SyncRun
import XdpFirewall.ControlPlane.Convergence
import XdpFirewall.ControlPlane.Revocation
import XdpFirewall.ControlPlane.MonitorAgreement
import XdpFirewall.ControlPlane.PolicyVersion
import XdpFirewall.ControlPlane.DropRegistry
import XdpFirewall.ControlPlane.TokenAuth
import XdpFirewall.Agent.Host
import XdpFirewall.Agent.Attach
import XdpFirewall.Agent.Resize
import XdpFirewall.Agent.Runtime
import XdpFirewall.Agent.OfflineRules
import XdpFirewall.Agent.DropMonitor
import XdpFirewall.Lib.Lease
import XdpFirewall.Intelligence.LockTable
import XdpFirewall.Intelligence.RefreshLock
import XdpFirewall.Intelligence.ThreatRefresh
import XdpFirewall.Intelligence.ThreatOwnership
import XdpFirewall.Intelligence.HttpLimited
import XdpFirewall.Api.Validation
import XdpFirewall.Api.Tables
import XdpFirewall.Api.Transaction
import XdpFirewall.Api.Resources
import XdpFirewall.Api.Writes
import XdpFirewall.Api.ConcurrentRules
import XdpFirewall.Api.VersionBumps
import XdpFirewall.ControlPlane.GeoFetch
import XdpFirewall.Enforcement.Whitelist
import XdpFirewall.Enforcement.Ties
import XdpFirewall.Enforcement.RowOrder
import XdpFirewall.Enforcement.LocalSafety
import XdpFirewall.Enforcement.IcmpFamilies
import XdpFirewall.Lib.Mealy
import XdpFirewall.Lib.FirstLongest
import XdpFirewall.Enforcement.PolicyVerdict
import XdpFirewall.Kubernetes.Discover
import XdpFirewall.Kubernetes.WatchLoop
import XdpFirewall.Kubernetes.WatchRun
import XdpFirewall.Migrations.Migrate
import XdpFirewall.Migrations.Upgrade
import XdpFirewall.Migrations.Restart
import XdpFirewall.Standby.ReadOnly
import XdpFirewall.BtmpMonitor.Protection
import XdpFirewall.BtmpMonitor.AttemptLog
import XdpFirewall.BtmpMonitor.Blame
import XdpFirewall.BtmpMonitor.BanListing
import XdpFirewall.Intelligence.ThreatLists
import XdpFirewall.Intelligence.ThreatLookup
import XdpFirewall.Intelligence.ThreatIsolation
import XdpFirewall.Intelligence.GeoRefresh
import XdpFirewall.Api.Delivery
import XdpFirewall.Enforcement.Accounted
import XdpFirewall.Lib.JsonText
import XdpFirewall.Lib.Slices
import XdpFirewall.Lib.KeyedRows
import XdpFirewall.Lib.Stamped
import XdpFirewall.Lib.Flights
import XdpFirewall.Intelligence.GeoTables
import XdpFirewall.Intelligence.GeoRefreshAll
import XdpFirewall.Api.Seed
import XdpFirewall.Api.Writers
import XdpFirewall.Standby.Effects
import XdpFirewall.Api.RefreshLimiter
import XdpFirewall.ControlPlane.TempBanCleanup
import XdpFirewall.ControlPlane.BackgroundRefresh
import XdpFirewall.ControlPlane.NodeRegistry
import XdpFirewall.ControlPlane.NodeSync
