import OrderDesk.Digest.Murmur3
import OrderDesk.Error
import OrderDesk.Text.Utf8

/-!
# Routing to shards

Data is spread over shards; each has a primary database and may have a replica for reading. The
router says which shard a key belongs to and binds a connection to a shard: always to the
primary, and for reading to the replica as well, if it can be had. Work on a replica that fails
is done once more on the primary.

Sources of connections, and what an operation on a connection does, are the caller's: both run
in a monad of its choice.
-/

namespace OrderDesk

/-- What a connection is wanted for. -/
inductive Intent where
  /-- A replica may serve it. -/
  | read
  /-- Only the primary may serve it. -/
  | write
  deriving DecidableEq, Repr

/-- The part that a database plays in its shard. -/
inductive Role where
  | primary
  | replica
  deriving DecidableEq, Repr

/-- The sources of connections of one shard. -/
structure Site (σ : Type) where
  primary : σ
  replica : Option σ
  deriving DecidableEq, Repr

/-- A topology: the sources of every shard, in the order of their indices. -/
structure Router (σ : Type) where
  sites : List (Site σ)
  pos : 0 < sites.length
  le_max : sites.length ≤ ShardIndex.maxShards

/-- A connection bound to a shard. Where work runs on a replica first, the connection to the
    primary is held back for a second try. -/
structure Binding (κ : Type) where
  shard : ShardIndex
  current : κ
  fallback : Option κ
  deriving DecidableEq, Repr

namespace Site

variable {σ : Type}

/-- The replica that may serve an intent. -/
def replicaFor (site : Site σ) : Intent → Option σ
  | .read => site.replica
  | .write => none

end Site

namespace Binding

variable {m : Type → Type} [Monad m] {κ ε α : Type}

/-- A connection to a primary alone. -/
def direct (shard : ShardIndex) (primary : κ) : Binding κ := ⟨shard, primary, none⟩

/-- A connection to a replica, with the primary held back. -/
def withFallback (shard : ShardIndex) (replica primary : κ) : Binding κ :=
  ⟨shard, replica, some primary⟩

/-- Whether work runs on a replica first. -/
def onReplica (binding : Binding κ) : Bool := binding.fallback.isSome

/-- The connection to the primary. -/
def primary (binding : Binding κ) : κ := binding.fallback.getD binding.current

/-- Does work on the bound connection. If it fails there and the primary was held back, it is
    done once more on the primary, whatever the failure was. -/
def run (work : κ → m (Except ε α)) (binding : Binding κ) : m (Except ε α) := do
  match ← work binding.current with
  | .ok value => pure (.ok value)
  | .error error =>
    match binding.fallback with
    | none => pure (.error error)
    | some primary => work primary

/-- How a binding is shown to operators. -/
def describe (binding : Binding κ) : String :=
  "FallbackConnection \x7b shard: ShardIndex(" ++ toString binding.shard ++ "), on_replica: " ++
    toString binding.onReplica ++ " \x7d"

end Binding

/-- The hash of a key, on which its shard depends. -/
def keyHash (key : String) : UInt32 := Murmur3.hash (Utf8.encode key) 0

namespace Router

variable {m : Type → Type} [Monad m] {σ κ : Type}

/-- The router over the given shards, if they form a topology. -/
def ofSites (sites : List (Site σ)) : Except StorageError (Router σ) :=
  if empty : sites.length = 0 then .error (.invalidTopology .noShards)
  else if fits : sites.length ≤ ShardIndex.maxShards then .ok ⟨sites, by omega, fits⟩
  else .error (.invalidTopology (.tooManyShards sites.length))

/-- The number of shards. -/
def size (router : Router σ) : Nat := router.sites.length

/-- Every shard, in order. -/
def indices (router : Router σ) : List ShardIndex := (List.range router.size).map ShardIndex.mk

/-- The sources of a shard. -/
def site (router : Router σ) (shard : ShardIndex) : Except StorageError (Site σ) :=
  match router.sites[shard.num]? with
  | none => .error (.unknownShard shard router.size)
  | some site => .ok site

/-- The shard that a key belongs to. -/
def shardForKey (router : Router σ) (key : String) : ShardIndex :=
  ⟨(keyHash key).toNat % router.size⟩

/-- The shard that holds the orders of a user. -/
def shardForUser (router : Router σ) (user : UserId) : ShardIndex :=
  router.shardForKey (toString user)

/-- The shard that an order's number encodes, if there is one. -/
def shardForOrder (router : Router σ) (id : OrderId) : Except StorageError ShardIndex :=
  (router.site id.shard).map fun _ => id.shard

/-- Binds a connection to a shard. The primary is acquired first and always; a replica that
    cannot be acquired is done without. -/
def pickShard (router : Router σ) (acquire : σ → m (Except StorageError κ)) (shard : ShardIndex)
    (intent : Intent) : m (Except StorageError (Binding κ)) :=
  match router.site shard with
  | .error error => pure (.error error)
  | .ok site => do
    match ← acquire site.primary with
    | .error error => pure (.error error)
    | .ok primary =>
      match site.replicaFor intent with
      | none => pure (.ok (.direct shard primary))
      | some replica =>
        match ← acquire replica with
        | .error _ => pure (.ok (.direct shard primary))
        | .ok connection => pure (.ok (.withFallback shard connection primary))

/-- Binds a connection to the shard of a key. -/
def pick (router : Router σ) (acquire : σ → m (Except StorageError κ)) (key : String)
    (intent : Intent) : m (Except StorageError (Binding κ)) :=
  router.pickShard acquire (router.shardForKey key) intent

/-- Binds a connection to the shard of an order. -/
def pickOrder (router : Router σ) (acquire : σ → m (Except StorageError κ)) (id : OrderId)
    (intent : Intent) : m (Except StorageError (Binding κ)) :=
  match router.shardForOrder id with
  | .error error => pure (.error error)
  | .ok shard => router.pickShard acquire shard intent

/-- Binds a connection to the shard that holds the stock. -/
def pickInventory (router : Router σ) (acquire : σ → m (Except StorageError κ))
    (intent : Intent) : m (Except StorageError (Binding κ)) :=
  router.pickShard acquire .inventory intent

/-- Binds a connection to each of the given shards, up to the first that cannot be had. -/
def pickEach (router : Router σ) (acquire : σ → m (Except StorageError κ)) (intent : Intent) :
    List ShardIndex → m (Except StorageError (List (Binding κ)))
  | [] => pure (.ok [])
  | shard :: rest => do
    match ← router.pickShard acquire shard intent with
    | .error error => pure (.error error)
    | .ok binding =>
      match ← router.pickEach acquire intent rest with
      | .error error => pure (.error error)
      | .ok bindings => pure (.ok (binding :: bindings))

/-- Binds a connection to every shard, in order. -/
def pickAll (router : Router σ) (acquire : σ → m (Except StorageError κ)) (intent : Intent) :
    m (Except StorageError (List (Binding κ))) :=
  router.pickEach acquire intent router.indices

end Router

end OrderDesk
