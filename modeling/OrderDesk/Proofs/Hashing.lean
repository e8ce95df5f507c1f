import Mathlib.Data.Nat.Digits.Lemmas
import OrderDesk.Digest.Murmur3
import OrderDesk.Text.Utf8

/-!
# The hash of a byte string is the published one

The hash that places keys is published as a loop over indices: word by word from the front, each
read where it stands, then the bytes behind the last word, gathered by cases of which each goes on
with the next, then the length. Here it stands in that form and on natural numbers, and whatever
could leave the words is taken modulo 2^32. To take the bytes off the list in fours, and to shift
what is left over together from its end, comes to the same for byte strings of every length.
-/

namespace OrderDesk.Murmur3

namespace Published

/-- A word with its bits moved up by so many places, the top ones coming in at the bottom. -/
def rotated (word places : Nat) : Nat := (word <<< places % 2 ^ 32) ||| (word >>> (32 - places))

/-- What is xor-ed into the state for a word. -/
def scrambled (word : Nat) : Nat := rotated (word * 0xcc9e2d51 % 2 ^ 32) 15 * 0x1b873593 % 2 ^ 32

/-- The state after one more word. -/
def mixed (state word : Nat) : Nat :=
  (rotated (state ^^^ scrambled word) 13 * 5 + 0xe6546b64) % 2 ^ 32

/-- The finalizer. -/
def finalized (state : Nat) : Nat :=
  let state := (state ^^^ (state >>> 16)) * 0x85ebca6b % 2 ^ 32
  let state := (state ^^^ (state >>> 13)) * 0xc2b2ae35 % 2 ^ 32
  state ^^^ (state >>> 16)

/-- The little-endian word at an index. -/
def wordAt (bytes : List UInt8) (index : Nat) (inside : index + 4 ≤ bytes.length) : Nat :=
  bytes[index].toNat + bytes[index + 1].toNat * 2 ^ 8 + bytes[index + 2].toNat * 2 ^ 16 +
    bytes[index + 3].toNat * 2 ^ 24

/-- The state after the first so many words. -/
def body (bytes : List UInt8) (seed count : Nat) (inside : 4 * count ≤ bytes.length) : Nat :=
  count.fold (fun i _ state => mixed state (wordAt bytes (4 * i) (by omega))) seed

/-- The word of the bytes behind the last whole word: three cases, of which each goes on with the
    next. -/
def tailWord (bytes : List UInt8) : Nat :=
  let start := 4 * (bytes.length / 4)
  let word := 0
  let word := if _ : 3 ≤ bytes.length % 4 then word ^^^ (bytes[start + 2].toNat <<< 16) else word
  let word := if _ : 2 ≤ bytes.length % 4 then word ^^^ (bytes[start + 1].toNat <<< 8) else word
  if _ : 1 ≤ bytes.length % 4 then word ^^^ bytes[start].toNat else word

/-- The state after all bytes. -/
def absorbed (bytes : List UInt8) (seed : Nat) : Nat :=
  let state := body bytes seed (bytes.length / 4) (by omega)
  if bytes.length % 4 = 0 then state else state ^^^ scrambled (tailWord bytes)

/-- The hash of a byte string under a seed. -/
def hash (bytes : List UInt8) (seed : Nat) : Nat :=
  finalized (absorbed bytes seed ^^^ (bytes.length % 2 ^ 32))

end Published

open Published (rotated scrambled mixed finalized wordAt body tailWord absorbed)

/-! ## Words -/

theorem toNat_rotateLeft (word : UInt32) {places : UInt32} (few : places.toNat < 32)
    (pos : 0 < places.toNat) :
    (rotateLeft word places).toNat = rotated word.toNat places.toNat := by
  have down : (32 - places).toNat = 32 - places.toNat := UInt32.toNat_sub_of_le _ _ few.le
  have fewer : 32 - places.toNat < 32 := by omega
  rw [rotateLeft, rotated, UInt32.toNat_or, UInt32.toNat_shiftLeft, UInt32.toNat_shiftRight, down,
    Nat.mod_eq_of_lt few, Nat.mod_eq_of_lt fewer]

theorem toNat_scramble (word : UInt32) : (scramble word).toNat = scrambled word.toNat := by
  rw [scramble, UInt32.toNat_mul, toNat_rotateLeft _ (by decide) (by decide), UInt32.toNat_mul]
  rfl

theorem toNat_mix (state word : UInt32) :
    (mix state word).toNat = mixed state.toNat word.toNat := by
  rw [mix, UInt32.toNat_add, UInt32.toNat_mul, toNat_rotateLeft _ (by decide) (by decide),
    UInt32.toNat_xor, toNat_scramble, UInt32.toNat_ofNat, UInt32.toNat_ofNat]
  exact Nat.mod_add_mod _ _ _

theorem toNat_finalize (state : UInt32) : (finalize state).toNat = finalized state.toNat := by
  simp only [finalize, finalized, UInt32.toNat_xor, UInt32.toNat_mul, UInt32.toNat_shiftRight]
  rfl

/-- Up to four bytes are the digits of their word. -/
theorem toNat_littleEndian {bytes : List UInt8} (short : bytes.length ≤ 4) :
    (littleEndian bytes).toNat = Nat.ofDigits 256 (bytes.map UInt8.toNat) := by
  induction bytes with
  | nil => rfl
  | cons byte rest ih =>
    have fewer : (rest.map UInt8.toNat).length ≤ 3 := by
      rw [List.length_map]
      exact Nat.le_of_succ_le_succ short
    have digits := ih (Nat.le_of_succ_le short)
    have small : ∀ digit ∈ rest.map UInt8.toNat, digit < 256 := by
      simpa using fun byte _ => byte.toNat_lt
    have bound : Nat.ofDigits 256 (rest.map UInt8.toNat) < 256 ^ 3 :=
      (Nat.ofDigits_lt_base_pow_length (by decide) small).trans_le
        (Nat.pow_le_pow_right (by decide) fewer)
    -- Three bytes leave room for one more, so nothing is shifted out.
    have shifted : (littleEndian rest <<< 8).toNat = (littleEndian rest).toNat <<< 8 := by
      rw [UInt32.toNat_shiftLeft, digits]
      exact Nat.mod_eq_of_lt (show _ <<< 8 < 2 ^ 32 by omega)
    have joined : littleEndian (byte :: rest) = (littleEndian rest <<< 8) ||| byte.toUInt32 := rfl
    rw [joined, UInt32.toNat_or, shifted, UInt8.toNat_toUInt32,
      ← Nat.shiftLeft_add_eq_or_of_lt byte.toNat_lt, digits, List.map_cons, Nat.ofDigits_cons]
    omega

/-! ## Whole words -/

theorem absorb_nil (state : UInt32) : absorb state [] = state := rfl

/-- Four bytes in front are mixed in as a word. -/
theorem absorb_cons (state : UInt32) (a b c d : UInt8) (rest : List UInt8) :
    absorb state (a :: b :: c :: d :: rest) =
      absorb (mix state (littleEndian [a, b, c, d])) rest := by
  -- While `absorb` is folded, the states are compared before the lists, down to their literals.
  delta absorb
  rfl

/-- What stands behind whole words is absorbed after them. -/
theorem absorb_append (state : UInt32) (front back : List UInt8) (whole : 4 ∣ front.length) :
    absorb state (front ++ back) = absorb (absorb state front) back := by
  induction state, front using absorb.induct with
  | case1 state a b c d rest ih =>
    have fewer : 4 ∣ rest.length := by
      simp only [List.length_cons] at whole
      omega
    simp only [List.cons_append, absorb_cons, ih fewer]
  | case2 state => rfl
  | case3 state last notFour notNil =>
    match last with
    | [] => exact absurd rfl notNil
    | [_] | [_, _] | [_, _, _] => simp at whole
    | a :: b :: c :: d :: rest => exact (notFour a b c d rest rfl).elim

/-- One word more is the next four bytes. -/
theorem take_succ_word (bytes : List UInt8) (count : Nat)
    (inside : 4 * (count + 1) ≤ bytes.length) :
    bytes.take (4 * (count + 1)) = bytes.take (4 * count) ++
      [bytes[4 * count], bytes[4 * count + 1], bytes[4 * count + 2], bytes[4 * count + 3]] := by
  rw [Nat.mul_succ, List.take_add, List.drop_eq_getElem_cons, List.drop_eq_getElem_cons,
    List.drop_eq_getElem_cons, List.drop_eq_getElem_cons]
  rfl

theorem toNat_littleEndian_word (bytes : List UInt8) (index : Nat)
    (inside : index + 4 ≤ bytes.length) :
    (littleEndian [bytes[index], bytes[index + 1], bytes[index + 2], bytes[index + 3]]).toNat =
      wordAt bytes index inside := by
  rw [toNat_littleEndian (by simp), wordAt]
  simp only [List.map_cons, List.map_nil, Nat.ofDigits_cons, Nat.ofDigits_nil]
  omega

theorem dvd_length_take {bytes : List UInt8} {count : Nat} (inside : 4 * count ≤ bytes.length) :
    4 ∣ (bytes.take (4 * count)).length := by
  rw [List.length_take_of_le inside]
  exact Nat.dvd_mul_right 4 count

/-- The words in front, taken off one after the other, are those read at every fourth index. -/
theorem toNat_absorb_take (bytes : List UInt8) (seed : UInt32) (count : Nat)
    (inside : 4 * count ≤ bytes.length) :
    (absorb seed (bytes.take (4 * count))).toNat = body bytes seed.toNat count inside := by
  induction count with
  | zero => rfl
  | succ count ih =>
    have earlier : 4 * count ≤ bytes.length := by omega
    rw [take_succ_word bytes count inside, absorb_append _ _ _ (dvd_length_take earlier),
      absorb_cons, absorb_nil, toNat_mix, ih earlier, toNat_littleEndian_word, body, body,
      Nat.fold_succ]

/-! ## The bytes behind the words -/

theorem absorb_of_length_lt {last : List UInt8} (state : UInt32) (short : last.length < 4)
    (present : last ≠ []) : absorb state last = state ^^^ scramble (littleEndian last) := by
  match last with
  | [] => exact absurd rfl present
  | [_] | [_, _] | [_, _, _] => rfl

/-- Bits that do not meet are added. -/
theorem xor_eq_add {low places : Nat} (fits : low < 2 ^ places) (high : Nat) :
    (high <<< places) ^^^ low = (high <<< places) + low := by
  rw [Nat.shiftLeft_add_eq_or_of_lt fits]
  apply Nat.eq_of_testBit_eq
  intro place
  rw [Nat.testBit_xor, Nat.testBit_or, Nat.testBit_shiftLeft]
  by_cases below : place < places
  · have clear : ¬place ≥ places := by omega
    simp [clear]
  · have clear : low.testBit place = false :=
      Nat.testBit_lt_two_pow (fits.trans_le (Nat.pow_le_pow_right (by decide) (by omega)))
    simp [clear]

theorem xor_bytes (a b : UInt8) (top : Nat) :
    ((top <<< 16) ^^^ (b.toNat <<< 8)) ^^^ a.toNat = a.toNat + 256 * (b.toNat + 256 * top) := by
  have second : b.toNat <<< 8 < 2 ^ 16 := by
    have bound := b.toNat_lt
    omega
  have higher : (top <<< 16) + (b.toNat <<< 8) = ((top <<< 8) + b.toNat) <<< 8 := by omega
  rw [xor_eq_add second, higher, xor_eq_add a.toNat_lt]
  omega

theorem length_drop_words (bytes : List UInt8) :
    (bytes.drop (4 * (bytes.length / 4))).length = bytes.length % 4 := by
  rw [List.length_drop]
  omega

/-- The bytes behind the words, shifted together from their end, are those gathered by cases. -/
theorem toNat_littleEndian_drop (bytes : List UInt8) :
    (littleEndian (bytes.drop (4 * (bytes.length / 4)))).toNat = tailWord bytes := by
  have behind := length_drop_words bytes
  have few : bytes.length % 4 = 0 ∨ bytes.length % 4 = 1 ∨ bytes.length % 4 = 2 ∨
      bytes.length % 4 = 3 := by omega
  rw [toNat_littleEndian (by omega), tailWord]
  rcases few with none | one | two | three
  · rw [List.drop_of_length_le (by omega)]
    simp [none]
  · rw [List.drop_eq_getElem_cons (by omega), List.drop_of_length_le (by omega)]
    simp [one]
  · have sum := xor_bytes bytes[4 * (bytes.length / 4)] bytes[4 * (bytes.length / 4) + 1] 0
    rw [List.drop_eq_getElem_cons (by omega), List.drop_eq_getElem_cons (by omega),
      List.drop_of_length_le (by omega)]
    simpa [two, Nat.ofDigits_cons] using sum.symm
  · have sum := xor_bytes bytes[4 * (bytes.length / 4)] bytes[4 * (bytes.length / 4) + 1]
      bytes[4 * (bytes.length / 4) + 2].toNat
    rw [List.drop_eq_getElem_cons (by omega), List.drop_eq_getElem_cons (by omega),
      List.drop_eq_getElem_cons (by omega), List.drop_of_length_le (by omega)]
    simpa [three, Nat.ofDigits_cons] using sum.symm

theorem toNat_absorb (bytes : List UInt8) (seed : UInt32) :
    (absorb seed bytes).toNat = absorbed bytes seed.toNat := by
  have inside : 4 * (bytes.length / 4) ≤ bytes.length := Nat.mul_div_le _ _
  have words := toNat_absorb_take bytes seed (bytes.length / 4) inside
  have behind := length_drop_words bytes
  have split := absorb_append seed (bytes.take (4 * (bytes.length / 4)))
    (bytes.drop (4 * (bytes.length / 4))) (dvd_length_take inside)
  rw [List.take_append_drop] at split
  rw [split, absorbed]
  by_cases none : bytes.length % 4 = 0
  · rw [if_pos none, List.length_eq_zero_iff.1 (behind.trans none), absorb_nil, words]
  · have present : bytes.drop (4 * (bytes.length / 4)) ≠ [] :=
      fun nil => none (behind ▸ List.length_eq_zero_iff.2 nil)
    have short : (bytes.drop (4 * (bytes.length / 4))).length < 4 := by omega
    rw [if_neg none, absorb_of_length_lt _ short present, UInt32.toNat_xor, words, toNat_scramble,
      toNat_littleEndian_drop]

/-- The hash of a byte string is the published one, whatever its length and the seed. -/
theorem hashes_as_published (bytes : List UInt8) (seed : UInt32) :
    (hash bytes seed).toNat = Published.hash bytes seed.toNat := by
  rw [hash, toNat_finalize, UInt32.toNat_xor, toNat_absorb, UInt32.toNat_ofNat', Published.hash]

/-- Ten words and three bytes behind them. -/
example :
    Published.hash (Utf8.encode "The quick brown fox jumps over the lazy dog") 0 = 0x2e4ff723 := by
  decide +kernel

end OrderDesk.Murmur3
