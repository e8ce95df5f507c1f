/-!
# FNV-1a, 32 bits, and the partition that it chooses

The hash that spreads message keys over the partitions of a topic.
-/

namespace OrderDesk.Fnv1a

/-- The hash of a byte string; arithmetic is modulo 2^32. -/
def hash (bytes : List UInt8) : UInt32 :=
  bytes.foldl (fun state byte => (state ^^^ byte.toUInt32) * 0x01000193) 0x811c9dc5

/-- The partition of a hash among `partitions`: the hash is read as a signed word and the
    magnitude of its remainder is taken, where the remainder has the sign of the hash. A count
    that is zero or no signed word leaves only partition zero. -/
def partition (hash : UInt32) (partitions : Nat) : Nat :=
  if partitions = 0 ∨ Int32.maxValue.toInt < partitions then 0
  else (hash.toInt32.toInt.tmod partitions).natAbs

/-- The partition of a key. -/
def partitionFor (key : List UInt8) (partitions : Nat) : Nat := partition (hash key) partitions

end OrderDesk.Fnv1a
