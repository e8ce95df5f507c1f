import OrderDesk.Shard.Router
import OrderDesk.Store.Tables

/-!
# The cluster

A cluster is a topology of shards with their tables. A replica shares the tables of its primary;
what it has of its own are switches that make it fail. Every shard stamps its events by a clock:
the reading for its n-th event is whatever the clock says for n.
-/

namespace OrderDesk

/-- The switches that make a database fail. -/
structure Faults where
  /-- No connection can be acquired. -/
  unavailable : Bool
  /-- Work on an acquired connection fails. -/
  failing : Bool
  deriving DecidableEq, Repr

/-- A database without faults. -/
def Faults.none : Faults := ⟨false, false⟩

/-- A shard: its tables and the switches of its databases. -/
structure Shard where
  tables : Tables
  clock : Nat → Timestamp
  primary : Faults
  replica : Option Faults

/-- A topology of shards with their tables. -/
structure Cluster where
  shards : List Shard
  pos : 0 < shards.length
  le_max : shards.length ≤ ShardIndex.maxShards

/-- A database of a cluster, as the router sees it. -/
structure Member where
  shard : ShardIndex
  role : Role
  faults : Faults
  deriving DecidableEq, Repr

namespace Shard

/-- A shard that stores nothing and has no faults. -/
def empty (clock : Nat → Timestamp) (hasReplica : Bool) : Shard where
  tables := .empty
  clock := clock
  primary := .none
  replica := if hasReplica then some .none else none

/-- The databases of a shard. -/
def site (index : Nat) (shard : Shard) : Site Member where
  primary := ⟨⟨index⟩, .primary, shard.primary⟩
  replica := shard.replica.map fun faults => ⟨⟨index⟩, .replica, faults⟩

/-- What the clock says for the next event. -/
def now (shard : Shard) : Timestamp := shard.clock shard.tables.outboxSequence

end Shard

namespace Member

/-- A connection to a database, unless it is unavailable. -/
def acquire (member : Member) : Except StorageError Member :=
  if member.faults.unavailable then .error (.failure .acquire .unavailable) else .ok member

/-- Whether an open connection takes up an operation. -/
def permit (member : Member) (operation : Operation) : Except StorageError Unit :=
  if member.faults.failing then .error (.failure operation .refused) else .ok ()

end Member

namespace Cluster

/-- A cluster of so many shards that store nothing. -/
def create (count : Nat) (hasReplicas : Bool) (clock : ShardIndex → Nat → Timestamp) :
    Except StorageError Cluster :=
  if empty : count = 0 then .error (.invalidTopology .noShards)
  else if fits : count ≤ ShardIndex.maxShards then
    .ok ⟨(List.range count).map fun i => Shard.empty (clock ⟨i⟩) hasReplicas,
      by simp; omega, by simpa using fits⟩
  else .error (.invalidTopology (.tooManyShards count))

/-- The topology of a cluster. -/
def router (cluster : Cluster) : Router Member where
  sites := cluster.shards.mapIdx Shard.site
  pos := by simpa using cluster.pos
  le_max := by simpa using cluster.le_max

/-- The tables of a shard; a shard that does not exist stores nothing. -/
def tables (cluster : Cluster) (shard : ShardIndex) : Tables :=
  match cluster.shards[shard.num]? with
  | none => .empty
  | some shard => shard.tables

/-- What the clock of a shard says for its next event. -/
def now (cluster : Cluster) (shard : ShardIndex) : Timestamp :=
  match cluster.shards[shard.num]? with
  | none => ⟨0⟩
  | some shard => shard.now

/-- Changes a shard, if it exists. -/
def modifyShard (cluster : Cluster) (shard : ShardIndex) (change : Shard → Shard) : Cluster where
  shards := cluster.shards.modify shard.num change
  pos := by simpa using cluster.pos
  le_max := by simpa using cluster.le_max

/-- Replaces the tables of a shard, if it exists. -/
def setTables (cluster : Cluster) (shard : ShardIndex) (tables : Tables) : Cluster :=
  cluster.modifyShard shard fun stored => { stored with tables := tables }

/-- Replaces the switches of a primary, if its shard exists. -/
def setPrimary (cluster : Cluster) (shard : ShardIndex) (faults : Faults) : Cluster :=
  cluster.modifyShard shard fun stored => { stored with primary := faults }

/-- Replaces the switches of a replica, if there is one. -/
def setReplica (cluster : Cluster) (shard : ShardIndex) (faults : Faults) : Cluster :=
  cluster.modifyShard shard fun stored =>
    { stored with replica := stored.replica.map fun _ => faults }

/-- The binding of a connection to a shard. -/
def bind (cluster : Cluster) (shard : ShardIndex) (intent : Intent) :
    Except StorageError (Binding Member) :=
  Id.run (cluster.router.pickShard (m := Id) Member.acquire shard intent)

/-- Permission of the primary of a shard for an operation that may write. -/
def permitWrite (cluster : Cluster) (shard : ShardIndex) (operation : Operation) :
    Except StorageError Unit :=
  match cluster.bind shard .write with
  | .error error => .error error
  | .ok binding => binding.primary.permit operation

/-- A value read from the tables that a binding leads to, on the replica first if it is bound. -/
def read {α : Type} (cluster : Cluster) (operation : Operation) (look : Tables → α)
    (binding : Binding Member) : Except StorageError α :=
  Id.run (binding.run (m := Id) fun member =>
    match member.permit operation with
    | .error error => .error error
    | .ok () => .ok (look (cluster.tables member.shard)))

/-- What is read comes from the tables of some shard. -/
theorem exists_of_read {α : Type} {cluster : Cluster} {operation : Operation} {look : Tables → α}
    {binding : Binding Member} {value : α}
    (h : cluster.read operation look binding = .ok value) :
    ∃ shard, value = look (cluster.tables shard) := by
  rcases binding with ⟨_, current, fallback⟩
  rcases first : current.permit operation with _ | _
  · rcases fallback with _ | primary
    · simp only [read, Binding.run, first, Id.run] at h
      cases h
    · rcases second : primary.permit operation with _ | _
      · simp only [read, Binding.run, first, second, Id.run] at h
        cases h
      · simp only [read, Binding.run, first, second, Id.run] at h
        cases h
        exact ⟨primary.shard, rfl⟩
  · simp only [read, Binding.run, first, Id.run] at h
    cases h
    exact ⟨current.shard, rfl⟩

end Cluster

end OrderDesk
