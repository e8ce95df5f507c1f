import Mathlib.Data.List.Nodup
import OrderDesk.Proofs.Cluster
import OrderDesk.Store.Transaction

/-!
# Transactions on outboxes

What opening, marking and committing do, each said once. The transactions of a tick are on
different shards, each sees the outbox of its shard as it is stored, and what one of them commits
no other sees change.
-/

namespace OrderDesk

namespace Transaction

theorem eq_of_mark {transaction marked : Transaction} {event : EventId}
    (h : transaction.mark event = .ok marked) :
    marked = { transaction with staged := transaction.staged ++ [event] } := by
  unfold mark at h
  split at h
  · exact (Except.ok.inj h).symm
  · cases h

/-- An event that waits in the tables can be marked. -/
theorem mark_of_mem {transaction : Transaction} {event : Event}
    (stored : event ∈ transaction.outbox) (waits : event.processed = false) :
    ∃ marked, transaction.mark event.id = .ok marked := by
  unfold mark
  rw [if_pos]
  · exact ⟨_, rfl⟩
  · rw [List.any_eq_true]
    exact ⟨event, stored, by simp [waits]⟩

end Transaction

/-- What waits to be sent is stored and has not been sent. -/
theorem Tables.of_mem_pending {outbox : List Event} {staged : List EventId} {limit : Nat}
    {event : Event} (member : event ∈ pending outbox staged limit) :
    event ∈ outbox ∧ event.processed = false := by
  have waits : event ∈ unsent outbox staged := List.mem_mergeSort.1 (List.mem_of_mem_take member)
  obtain ⟨stored, unsent⟩ := List.mem_filter.1 waits
  simp only [Bool.and_eq_true, Bool.not_eq_true'] at unsent
  exact ⟨stored, unsent.1⟩

theorem Router.nodup_indices {σ : Type} (router : Router σ) : router.indices.Nodup :=
  List.nodup_range.map fun _ _ equal => congrArg ShardIndex.num equal

namespace Cluster

variable {cluster : Cluster}

/-- A transaction begins on a healthy primary, with the outbox of its shard and without marks. -/
theorem begin_eq_ok_iff {shard : ShardIndex} {transaction : Transaction} :
    cluster.begin shard = .ok transaction ↔
      cluster.Healthy shard ∧ transaction = ⟨shard, (cluster.tables shard).outbox, []⟩ := by
  have permitted : cluster.permitWrite shard .beginTransaction = .ok () ↔ cluster.Healthy shard :=
    permitWrite_eq_ok_iff
  rw [← permitted, begin]
  cases cluster.permitWrite shard .beginTransaction with
  | error error => simp
  | ok => simp [eq_comm]

theorem beginEach_eq_ok {shards : List ShardIndex} {transactions : List Transaction}
    (h : cluster.beginEach shards = .ok transactions) :
    transactions = shards.map (fun shard => ⟨shard, (cluster.tables shard).outbox, []⟩) ∧
      ∀ shard ∈ shards, cluster.Healthy shard := by
  induction shards generalizing transactions with
  | nil =>
    cases h
    exact ⟨rfl, fun _ member => (nomatch member)⟩
  | cons shard rest ih =>
    rcases first : cluster.begin shard with error | transaction
    · simp [beginEach, first] at h
    · rcases others : cluster.beginEach rest with error | opened
      · simp [beginEach, first, others] at h
      · simp only [beginEach, first, others, Except.ok.injEq] at h
        obtain ⟨healthy, rfl⟩ := begin_eq_ok_iff.1 first
        obtain ⟨rfl, fine⟩ := ih others
        exact ⟨h.symm, List.forall_mem_cons.2 ⟨healthy, fine⟩⟩

/-- The transactions of a tick are on different shards, each with the outbox of its shard and
    without marks. -/
theorem beginAll_eq_ok {transactions : List Transaction} (h : cluster.beginAll = .ok transactions) :
    (transactions.map Transaction.shard).Nodup ∧ ∀ transaction ∈ transactions,
      cluster.Has transaction.shard ∧
        transaction.outbox = (cluster.tables transaction.shard).outbox ∧
        transaction.staged = [] := by
  obtain ⟨rfl, healthy⟩ := beginEach_eq_ok h
  refine ⟨?_, ?_⟩
  · rw [List.map_map]
    have same : (Transaction.shard ∘ fun shard => ⟨shard, (cluster.tables shard).outbox, []⟩) =
        (id : ShardIndex → ShardIndex) := rfl
    rw [same, List.map_id]
    exact cluster.router.nodup_indices
  · intro transaction member
    obtain ⟨shard, listed, rfl⟩ := List.mem_map.1 member
    exact ⟨(healthy shard listed).has, rfl, rfl⟩

/-- A commit changes the tables of its shard alone, and those only by marks. -/
theorem tables_commit (cluster : Cluster) (transaction : Transaction) (shard : ShardIndex) :
    (cluster.commit transaction).tables shard =
      if transaction.shard = shard then
        { cluster.tables shard with
          outbox := Tables.markSent transaction.staged (cluster.tables shard).outbox }
      else cluster.tables shard := by
  unfold commit
  by_cases present : cluster.Has transaction.shard
  · rw [tables_setTables present]
    split
    · rename_i same
      rw [same]
    · rfl
  · rw [tables_setTables_of_not_has present]
    split
    · rename_i same
      rw [← same, tables_of_not_has present]
      rfl
    · rfl

theorem outbox_commit (cluster : Cluster) (transaction : Transaction) (shard : ShardIndex) :
    ((cluster.commit transaction).tables shard).outbox =
      if transaction.shard = shard then
        Tables.markSent transaction.staged (cluster.tables shard).outbox
      else (cluster.tables shard).outbox := by
  rw [tables_commit]
  split <;> rfl

@[simp] theorem has_commit {transaction : Transaction} {shard : ShardIndex} :
    (cluster.commit transaction).Has shard ↔ cluster.Has shard := by
  unfold commit Has setTables
  rw [length_modifyShard]

end Cluster

end OrderDesk
