import OrderDesk.Proofs.Encoding
import OrderDesk.Proofs.Filing
import OrderDesk.Publisher.Partitioned

/-!
# Every key has its partition

The hash of a key is read as a signed word. Its remainder has the sign of the hash, and the
magnitude of the remainder is the partition: the remainder of the magnitude, which is one partition
among those there are. All of this fits into words, even for the least one. The key of a message is
the number of its order, so the messages of one order go to one partition.
-/

namespace OrderDesk

namespace Fnv1a

variable {word : UInt32} {count : Nat}

/-- The hash is worked out modulo 2^32. -/
theorem toNat_hash (bytes : List UInt8) :
    (hash bytes).toNat =
      bytes.foldl (fun state byte => (state ^^^ byte.toNat) * 0x01000193 % 2 ^ 32) 0x811c9dc5 := by
  suffices from_ : ∀ start : UInt32,
      (bytes.foldl (fun state byte => (state ^^^ byte.toUInt32) * 0x01000193) start).toNat =
        bytes.foldl (fun state byte =>
          (state ^^^ byte.toNat) * 0x01000193 % 2 ^ 32) start.toNat from
    from_ 0x811c9dc5
  induction bytes with
  | nil => exact fun _ => rfl
  | cons byte rest ih =>
    intro start
    rw [List.foldl_cons, List.foldl_cons, ih, UInt32.toNat_mul, UInt32.toNat_xor,
      UInt8.toNat_toUInt32]
    rfl

theorem toInt_toInt32 (word : UInt32) : word.toInt32.toInt =
    if word.toNat < 2 ^ 31 then (word.toNat : Int) else word.toNat - (2 ^ 32 : Nat) := by
  have same : word.toBitVec.toNat = word.toNat := rfl
  rw [← Int32.toInt_toBitVec, UInt32.toBitVec_toInt32, BitVec.toInt_eq_toNat_cond, same]
  split <;> split <;> omega

/-- The magnitude of a word that is read as a signed one. -/
theorem natAbs_toInt32 (word : UInt32) : word.toInt32.toInt.natAbs =
    if word.toNat < 2 ^ 31 then word.toNat else 2 ^ 32 - word.toNat := by
  have bound := word.toNat_lt
  rw [toInt_toInt32]
  split <;> omega

theorem partition_eq (pos : 0 < count) (fits : count < 2 ^ 31) :
    partition word count = word.toInt32.toInt.natAbs % count := by
  have most : Int32.maxValue.toInt = 2147483647 := rfl
  have few : ¬(count = 0 ∨ Int32.maxValue.toInt < count) := by omega
  rw [partition, if_neg few, Int.natAbs_tmod, Int.natAbs_natCast]

theorem partition_of_unfit (unfit : count = 0 ∨ 2 ^ 31 ≤ count) : partition word count = 0 := by
  have most : Int32.maxValue.toInt = 2147483647 := rfl
  exact if_pos (by omega)

theorem toNat_abs (signed : Int32) : signed.abs.toUInt32.toNat = signed.toInt.natAbs := by
  have word : signed.abs.toUInt32.toNat = signed.toBitVec.abs.toNat := rfl
  have bound := signed.toBitVec.isLt
  rw [word, BitVec.toNat_abs, ← Int32.toInt_toBitVec, BitVec.toInt_eq_msb_cond]
  split <;> omega

/-- A partition is chosen for a hash among so many. Worked out in signed words, the count and the
    remainder are what they are as numbers, and the remainder has a magnitude in words, too. -/
structure Chosen (word : UInt32) (count place : Nat) : Prop where
  inRange : place < count
  magnitude : place =
    if word.toNat < 2 ^ 31 then word.toNat % count else (2 ^ 32 - word.toNat) % count
  divisor : (Int32.ofNat count).toInt = count
  remainder : (word.toInt32 % Int32.ofNat count).toInt = word.toInt32.toInt.tmod count
  notLeast : (word.toInt32 % Int32.ofNat count) ≠ Int32.minValue
  words : (word.toInt32 % Int32.ofNat count).abs.toUInt32.toNat = place

theorem chosen_partition (word : UInt32) (pos : 0 < count) (fits : count < 2 ^ 31) :
    Chosen word count (partition word count) := by
  have divisor : (Int32.ofNat count).toInt = count := Int32.toInt_ofNat_of_lt fits
  have remainder : (word.toInt32 % Int32.ofNat count).toInt = word.toInt32.toInt.tmod count := by
    rw [Int32.toInt_mod, divisor]
  have place := @partition_eq word count pos fits
  have natAbs : (word.toInt32.toInt.tmod count).natAbs = partition word count := by
    rw [place, Int.natAbs_tmod, Int.natAbs_natCast]
  have inRange : partition word count < count := by
    rw [place]
    exact Nat.mod_lt _ pos
  refine ⟨inRange, ?_, divisor, remainder, ?_, ?_⟩
  · rw [place, natAbs_toInt32]
    split <;> rfl
  · intro least
    rw [least] at remainder
    rw [← remainder] at natAbs
    have most : Int32.minValue.toInt.natAbs = 2147483648 := rfl
    omega
  · rw [toNat_abs, remainder, natAbs]

end Fnv1a

namespace Producer

open Fnv1a

variable {κ : Type}

/-- A producer that is offered a message of its topic hands it to the client of the partition. -/
theorem exists_clientFor {producer : Producer κ} {message : Message}
    (own : message.topic = producer.topic) (present : 0 < producer.clients.length)
    (fits : producer.clients.length < 2 ^ 31) :
    ∃ client, producer.clientFor message = .ok client ∧
      producer.clients[partitionFor (Utf8.encode message.key) producer.clients.length]? =
        some client := by
  have inside : partitionFor (Utf8.encode message.key) producer.clients.length <
      producer.clients.length := (chosen_partition _ present fits).inRange
  refine ⟨producer.clients[_], ?_, List.getElem?_eq_getElem inside⟩
  simp only [clientFor, own, if_true, List.getElem?_eq_getElem inside]

/-- Of a message, only its topic and its key say which client takes it. -/
theorem clientFor_congr (producer : Producer κ) {a b : Message} (topics : a.topic = b.topic)
    (keys : a.key = b.key) : producer.clientFor a = producer.clientFor b := by
  unfold clientFor PublishError.ofMessage
  rw [topics, keys]

/-- Messages have the same key exactly if they are about the same order. -/
theorem key_ofEvent_eq_iff {topic other : String} {a b : Event} :
    (Message.ofEvent topic a).key = (Message.ofEvent other b).key ↔ a.order = b.order :=
  OrderId.toString_injective.eq_iff

/-- Every key has its partition, and the messages of an order share theirs. The hash of a key is the
    published one. Among up to 2^31 - 1 partitions one is chosen that there is, without any step
    leaving the words, for every hash; among none, or more, the first is. So a producer with a
    client for each partition finds one for every message of its topic. Messages have the same key
    exactly if they are about the same order, and then the same partition and the same client. -/
theorem keys_have_partitions (producer : Producer κ) (key : List UInt8) (word : UInt32)
    (count : Nat) :
    (Fnv1a.hash key).toNat =
      key.foldl (fun state byte => (state ^^^ byte.toNat) * 0x01000193 % 2 ^ 32) 0x811c9dc5 ∧
    (0 < count → count < 2 ^ 31 → Chosen (Fnv1a.hash key) count (partitionFor key count) ∧
      Chosen word count (partition word count)) ∧
    (count = 0 ∨ 2 ^ 31 ≤ count → partitionFor key count = 0) ∧
    (∀ message, message.topic = producer.topic → 0 < producer.clients.length →
      producer.clients.length < 2 ^ 31 → ∃ client, producer.clientFor message = .ok client ∧
        producer.clients[partitionFor (Utf8.encode message.key) producer.clients.length]? =
          some client) ∧
    ∀ (topic other : String) (a b : Event),
      ((Message.ofEvent topic a).key = (Message.ofEvent other b).key ↔ a.order = b.order) ∧
      ((Record.ofMessage (.ofEvent topic a)).key = (Record.ofMessage (.ofEvent other b)).key ↔
        a.order = b.order) ∧
      (a.order = b.order → ∀ count,
        partitionFor (Record.ofMessage (.ofEvent topic a)).key count =
          partitionFor (Record.ofMessage (.ofEvent other b)).key count) ∧
      (a.order = b.order →
        producer.clientFor (.ofEvent topic a) = producer.clientFor (.ofEvent topic b)) := by
  refine ⟨toNat_hash key, ?_, partition_of_unfit, fun _ => exists_clientFor, ?_⟩
  · intro pos fits
    exact ⟨chosen_partition (Fnv1a.hash key) pos fits, chosen_partition word pos fits⟩
  · intro topic other a b
    have keys := @key_ofEvent_eq_iff topic other a b
    refine ⟨keys, Utf8.encode_injective.eq_iff.trans keys, ?_, ?_⟩
    · intro same count
      have bytes := Utf8.encode_injective.eq_iff.2 (keys.2 same)
      exact congrArg (partitionFor · count) bytes
    · exact fun same => producer.clientFor_congr rfl (key_ofEvent_eq_iff.2 same)

/-- The least word among the most partitions, no partition at all, and a producer with twelve
    clients that is offered two events of order 42003 and one of order 1000. -/
theorem keys_have_partitions_leastWord :
    let producer : Producer Nat := ⟨"orders", List.range 12⟩
    let event (id : OrderId) (payload : String) : Event := ⟨⟨1⟩, id, payload, ⟨0⟩, false⟩
    let message (id : OrderId) (payload : String) : Message := .ofEvent "orders" (event id payload)
    let order : OrderId := ⟨42003, by decide, by decide⟩
    let other : OrderId := ⟨1000, by decide, by decide⟩
    partition 0x80000000 2147483647 = 1 ∧ Chosen 0x80000000 2147483647 1 ∧
      partitionFor [] 0 = 0 ∧
      (∃ client, producer.clientFor (message order "new") = .ok client ∧
        producer.clients[8]? = some client) ∧
      producer.clientFor (message order "new") = producer.clientFor (message order "paid") ∧
      (message order "new").key ≠ (message other "new").key := by
  intro producer event message order other
  obtain ⟨-, chosen, -⟩ := keys_have_partitions producer [] 0x80000000 2147483647
  obtain ⟨-, -, none, found, keys⟩ := keys_have_partitions producer [] 0 0
  have least := (chosen (by decide) (by decide)).2
  have first : partition 0x80000000 2147483647 = 1 := least.magnitude.trans (by decide)
  have eighth :
      partitionFor (Utf8.encode (message order "new").key) producer.clients.length = 8 := by
    decide +kernel
  have sought := found (message order "new") rfl (by decide) (by decide)
  rw [eighth] at sought
  obtain ⟨-, -, -, same⟩ := keys "orders" "orders" (event order "new") (event order "paid")
  obtain ⟨apart, -⟩ := keys "orders" "orders" (event order "new") (event other "new")
  exact ⟨first, first ▸ least, none (.inl rfl), sought, same rfl, mt apart.1 (by decide)⟩

end Producer

end OrderDesk
