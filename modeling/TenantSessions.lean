import TenantSessions.Key
import TenantSessions.Lifetime
import TenantSessions.Fields
import TenantSessions.Text.Cut
import TenantSessions.Text.Quoted
import TenantSessions.Record
import TenantSessions.Glob
import TenantSessions.Registrar
import TenantSessions.Cache.Memory
import TenantSessions.Cache.Isolation
import TenantSessions.Settings
import TenantSessions.Expression
import TenantSessions.Log.Filter
import TenantSessions.Main
import TenantSessions.Proofs.Ledger.Refinement
import TenantSessions.Proofs.Residue
import TenantSessions.Proofs.Outage
import TenantSessions.Proofs.TimeBound
import TenantSessions.Proofs.Permanence
import TenantSessions.Proofs.Session.Written
import TenantSessions.Proofs.Provenance
import TenantSessions.Proofs.Confinement
import TenantSessions.Proofs.Retry
import TenantSessions.Proofs.OrgRevocation
import TenantSessions.Proofs.Orderly
import TenantSessions.Proofs.Delivery
import TenantSessions.Proofs.Scrutiny
import TenantSessions.Proofs.Cache.Calls
import TenantSessions.Proofs.Faithful
import TenantSessions.Proofs.Secrecy
import TenantSessions.Proofs.Refusal
import TenantSessions.Proofs.Independence
import TenantSessions.Proofs.Cache.Bare
import TenantSessions.Proofs.Settings
import TenantSessions.Proofs.Cache.Expiry
import TenantSessions.Proofs.Identity
import TenantSessions.Proofs.CommandLine
import TenantSessions.Proofs.Glob.Places
