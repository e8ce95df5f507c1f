/-!
# MurmurHash3, x86, 32 bits

The hash that places a key on a shard. Bytes are taken four at a time as little-endian words;
what is left over at the end is one shorter word. All arithmetic is modulo 2^32.
-/

namespace OrderDesk.Murmur3

/-- The bits of a word moved up by so many places, the top ones coming in at the bottom. -/
def rotateLeft (word places : UInt32) : UInt32 := (word <<< places) ||| (word >>> (32 - places))

/-- What a word is turned into before it meets the state. -/
def scramble (word : UInt32) : UInt32 := rotateLeft (word * 0xcc9e2d51) 15 * 0x1b873593

/-- One word enters the state. -/
def mix (state word : UInt32) : UInt32 :=
  rotateLeft (state ^^^ scramble word) 13 * 5 + 0xe6546b64

/-- The last step, which spreads every bit of the state over all of it. -/
def finalize (state : UInt32) : UInt32 :=
  let state := (state ^^^ (state >>> 16)) * 0x85ebca6b
  let state := (state ^^^ (state >>> 13)) * 0xc2b2ae35
  state ^^^ (state >>> 16)

/-- The word whose bytes these are, the lowest first. -/
def littleEndian (bytes : List UInt8) : UInt32 :=
  bytes.foldr (fun byte word => (word <<< 8) ||| byte.toUInt32) 0

/-- The state after all bytes: whole words are mixed in, the shorter word at the end is only
    scrambled in. -/
def absorb (state : UInt32) : List UInt8 → UInt32
  | a :: b :: c :: d :: rest => absorb (mix state (littleEndian [a, b, c, d])) rest
  | [] => state
  | last => state ^^^ scramble (littleEndian last)

/-- The hash of a byte string under a seed. -/
def hash (bytes : List UInt8) (seed : UInt32) : UInt32 :=
  finalize (absorb seed bytes ^^^ UInt32.ofNat bytes.length)

end OrderDesk.Murmur3
