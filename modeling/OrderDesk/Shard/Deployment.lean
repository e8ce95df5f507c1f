import OrderDesk.Settings
import OrderDesk.Shard.Router

/-!
# Deployments

Opening the databases of a topology. A primary has to answer before the desk opens; a replica is
only prepared, as reading falls back to the primary when the replica cannot be had later. How a
database is opened is the caller's.
-/

namespace OrderDesk

/-- Why a topology of databases does not come up. -/
inductive DeploymentError where
  /-- A database of the shard could not be opened. -/
  | connectionFailed (shard : ShardIndex)
  | topology (error : StorageError)
  deriving DecidableEq, Repr

/-- The wording of a deployment error. -/
def DeploymentError.message : DeploymentError → String
  | connectionFailed shard => s!"failed to create postgres connection pool for shard {shard}"
  | topology error => error.message

namespace Deployment

variable {m : Type → Type} [Monad m] {σ : Type}

/-- How databases are opened. -/
structure Opener (m : Type → Type) (σ : Type) where
  /-- Opens a database and waits for its answer. -/
  reach : DatabaseSettings → m (Option σ)
  /-- Prepares a database that is opened on first use. -/
  prepare : DatabaseSettings → Option σ

/-- The replica of a shard, if it has one. The outer option is nothing if it cannot be
    prepared. -/
def openReplica (opener : Opener m σ) : Option DatabaseSettings → Option (Option σ)
  | none => some none
  | some replica => (opener.prepare replica).map some

/-- Opens the databases of shards from the given index on, up to the first that fails. -/
def openFrom (opener : Opener m σ) (first : Nat) :
    List ShardSettings → m (Except DeploymentError (List (Site σ)))
  | [] => pure (.ok [])
  | shard :: rest => do
    match ← opener.reach shard.primary with
    | none => pure (.error (.connectionFailed ⟨first⟩))
    | some primary =>
      match openReplica opener shard.replica with
      | none => pure (.error (.connectionFailed ⟨first⟩))
      | some replica =>
        match ← openFrom opener (first + 1) rest with
        | .error error => pure (.error error)
        | .ok sites => pure (.ok (⟨primary, replica⟩ :: sites))

/-- Opens a topology. -/
def connect (opener : Opener m σ) (shards : List ShardSettings) :
    m (Except DeploymentError (Router σ)) := do
  match ← openFrom opener 0 shards with
  | .error error => pure (.error error)
  | .ok sites =>
    match Router.ofSites sites with
    | .error error => pure (.error (.topology error))
    | .ok router => pure (.ok router)

end Deployment

end OrderDesk
