import Mathlib.Logic.ExistsUnique
import OrderDesk.Identifier.Raw
import OrderDesk.Shard.Router

/-!
# Places and the numbers that encode them

An order has a place on a shard, and its number encodes both: the shard in the digits below the
stride, the place in those above. A number is composed by steps that are each checked against the
words of the machine. Here it is shown that the steps together refuse exactly the places whose
number is no positive word, and that the digits of a number are the place that it was composed of.
-/

namespace OrderDesk

namespace OrderId

variable {sequence : Int} {shard : ShardIndex} {id : OrderId}

/-- A number has no more to it than what it counts. -/
theorem eq_of_num {a b : OrderId} (same : a.num = b.num) : a = b := by
  cases a
  cases b
  cases same
  rfl

theorem checked_eq_some_iff {n m : Int} :
    checked n = some m ↔ m = n ∧ Int64.minValue.toInt ≤ n ∧ n ≤ maxInt64 := by
  have top : Int64.maxValue.toInt = maxInt64 := Int64.toInt_maxValue
  rw [checked, top]
  split
  · rename_i range
    exact ⟨fun same => ⟨(Option.some.inj same).symm, range⟩, fun told => congrArg some told.1.symm⟩
  · rename_i outside
    exact iff_of_false (fun equal => nomatch equal) fun told => outside told.2

theorem ofInt?_eq_some_iff {n : Int} : ofInt? n = some id ↔ (id.num : Int) = n := by
  unfold ofInt?
  constructor
  · intro made
    split at made
    · rename_i range
      rw [← Option.some.inj made]
      exact Int.toNat_of_nonneg (Int.le_of_lt range.1)
    · cases made
  · rintro rfl
    rw [dif_pos ⟨Int.natCast_pos.2 id.pos, Int.ofNat_le.2 id.le_max⟩]
    rfl

/-- A number is composed of a place and a shard exactly if the shard leaves room for the place and
    the number is the exact one. That it is a positive word is part of what a number is. -/
theorem compose_eq_ok_iff : compose sequence shard = .ok id ↔
    shard.num < stride ∧ (id.num : Int) = sequence * stride + shard.num := by
  unfold compose
  constructor
  · intro composed
    split at composed
    · rename_i small
      split at composed
      · cases composed
      · rename_i base product
        split at composed
        · cases composed
        · rename_i n sum
          split at composed
          · cases composed
          · rename_i made converted
            cases composed
            obtain ⟨rfl, -⟩ := checked_eq_some_iff.1 product
            obtain ⟨rfl, -⟩ := checked_eq_some_iff.1 sum
            exact ⟨small, ofInt?_eq_some_iff.1 converted⟩
    · cases composed
  · rintro ⟨small, exact⟩
    have positive := id.pos
    have fits := id.le_max
    have bottom : Int64.minValue.toInt = -9223372036854775808 := Int64.toInt_minValue
    -- The product alone lies below the number by less than the stride, so it is no less than the
    -- least word.
    have product : checked (sequence * stride) = some (sequence * stride) := by
      refine checked_eq_some_iff.2 ⟨rfl, ?_, ?_⟩
      · rw [stride] at small exact ⊢
        omega
      · omega
    have sum : checked (sequence * stride + shard.num) = some (sequence * stride + shard.num) := by
      refine checked_eq_some_iff.2 ⟨rfl, ?_, ?_⟩
      · omega
      · omega
    rw [if_pos small]
    simp only [product, sum, ofInt?_eq_some_iff.2 exact]

/-- Composing takes a place and a shard to a number, and the digits of the number take it back. -/
theorem compose_eq_ok_iff_digits :
    compose sequence shard = .ok id ↔ (id.sequence : Int) = sequence ∧ id.shard = shard := by
  rcases shard with ⟨index⟩
  rw [compose_eq_ok_iff, OrderId.sequence, OrderId.shard, ShardIndex.mk.injEq]
  simp only [stride]
  omega

/-- An order's number is that of its shard below and the place of the order on it above. -/
theorem num_of_compose (composed : compose sequence shard = .ok id) :
    (id.num : Int) = sequence * stride + shard.num ∧ id.shard = shard :=
  ⟨(compose_eq_ok_iff.1 composed).2, (compose_eq_ok_iff_digits.1 composed).2⟩

theorem exists_compose_iff : (∃ id, compose sequence shard = .ok id) ↔
    shard.num < stride ∧ 0 < sequence * stride + shard.num ∧
      sequence * stride + shard.num ≤ maxInt64 := by
  constructor
  · rintro ⟨id, composed⟩
    obtain ⟨small, exact⟩ := compose_eq_ok_iff.1 composed
    have positive := id.pos
    have fits := id.le_max
    exact ⟨small, by omega, by omega⟩
  · rintro ⟨small, positive, fits⟩
    refine ⟨⟨(sequence * stride + shard.num).toNat, by omega, by omega⟩, ?_⟩
    exact compose_eq_ok_iff.2 ⟨small, Int.toNat_of_nonneg (Int.le_of_lt positive)⟩

/-- Where the number would exceed the words, the place is blamed for it, whether the product or only
    the sum is too great. -/
theorem compose_of_exceeds (small : shard.num < stride)
    (exceeds : maxInt64 < sequence * stride + shard.num) :
    compose sequence shard = .error (.sequenceOverflow sequence) := by
  have none : checked (sequence * stride + shard.num) = none := by
    refine Option.eq_none_iff_forall_ne_some.2 fun n told => ?_
    have range := checked_eq_some_iff.1 told
    omega
  rw [compose, if_pos small]
  cases product : checked (sequence * stride) with
  | none => rfl
  | some base =>
    obtain ⟨rfl, -⟩ := checked_eq_some_iff.1 product
    simp only [none]

end OrderId

namespace Router

variable {σ : Type}

theorem num_shardForUser_lt (router : Router σ) (user : UserId) :
    (router.shardForUser user).num < router.size :=
  Nat.mod_lt _ router.pos

theorem shardForOrder_of_lt {router : Router σ} {id : OrderId}
    (present : id.shard.num < router.size) :
    router.shardForOrder id = .ok id.shard := by
  rw [shardForOrder, site, List.getElem?_eq_getElem present]
  rfl

theorem exists_ofSites_iff {sites : List (Site σ)} :
    (∃ router, ofSites sites = .ok router) ↔
      1 ≤ sites.length ∧ sites.length ≤ ShardIndex.maxShards := by
  unfold ofSites
  split
  · rename_i empty
    simp [empty]
  · rename_i filled
    split
    · rename_i fits
      simp only [Except.ok.injEq, exists_eq', true_iff]
      omega
    · rename_i exceeds
      simp [exceeds]

end Router

/-- Numbers of orders are the same as places on shards. For every word as a place and every shard,
    the number is composed exactly if the shard is one of the first thousand and the exact number is
    positive and a word: so a negative place is refused, and a product or only a sum that leaves the
    words. The shard is then read off the number again, and so is the place. So no two places have
    one number, and every positive word is the number of exactly one place. Hence shards and numbers
    agree: a router has from one to a thousand shards, and below the last thousand of the words
    every place on the shard of a user has a number, which leads back to the shard of the user. -/
theorem OrderId.numbers_encode_places {σ : Type} :
    (∀ (place : Int64) (shard : ShardIndex), (∃ id, compose place.toInt shard = .ok id) ↔
      shard.num < 1000 ∧ 0 < place.toInt * 1000 + shard.num ∧
        place.toInt * 1000 + shard.num ≤ Int64.maxValue.toInt) ∧
    (∀ (place : Int64) (shard : ShardIndex) (id : OrderId), compose place.toInt shard = .ok id →
      id.shard = shard ∧ ((id.num / 1000 : Nat) : Int) = place.toInt) ∧
    (∀ (first second : Int64) (here there : ShardIndex) (id : OrderId),
      compose first.toInt here = .ok id → compose second.toInt there = .ok id →
        first = second ∧ here = there) ∧
    (∀ number : Int64, 0 < number → ∃! spot : Int64 × ShardIndex,
      ∃ id, compose spot.1.toInt spot.2 = .ok id ∧ (id.num : Int) = number.toInt) ∧
    (∀ sites : List (Site σ), (∃ router, Router.ofSites sites = .ok router) ↔
      1 ≤ sites.length ∧ sites.length ≤ 1000) ∧
    ∀ (sites : List (Site σ)) (router : Router σ), Router.ofSites sites = .ok router →
      ∀ (user : UserId) (place : Int64), 1 ≤ place → place < Int64.maxValue / 1000 →
        ∃ id, compose place.toInt (router.shardForUser user) = .ok id ∧
          router.shardForOrder id = .ok (router.shardForUser user) := by
  have top : Int64.maxValue.toInt = maxInt64 := Int64.toInt_maxValue
  refine ⟨fun place shard => ?_, fun place shard id composed => ?_, ?_, ?_, fun sites => ?_, ?_⟩
  · rw [top]
    exact exists_compose_iff
  · obtain ⟨digits, lies⟩ := compose_eq_ok_iff_digits.1 composed
    exact ⟨lies, digits⟩
  · intro first second here there id composed again
    obtain ⟨place, rfl⟩ := compose_eq_ok_iff_digits.1 composed
    obtain ⟨same, rfl⟩ := compose_eq_ok_iff_digits.1 again
    exact ⟨Int64.toInt_inj.1 (place.symm.trans same), rfl⟩
  · intro number positive
    rw [Int64.lt_iff_toInt_lt, Int64.toInt_zero] at positive
    have bound : number.toInt ≤ maxInt64 := number.toInt_le
    obtain ⟨id, made⟩ : ∃ id, ofInt? number.toInt = some id := ⟨_, dif_pos ⟨positive, bound⟩⟩
    have named := ofInt?_eq_some_iff.1 made
    have word : (Int64.ofInt id.sequence).toInt = id.sequence := by
      have small : id.sequence ≤ id.num := Nat.div_le_self ..
      have fits := id.le_max
      rw [maxInt64] at fits
      apply Int64.toInt_ofInt_of_le <;> omega
    refine ⟨(Int64.ofInt id.sequence, id.shard), ⟨id, ?_, named⟩, ?_⟩
    · exact compose_eq_ok_iff_digits.2 ⟨word.symm, rfl⟩
    · rintro ⟨place, shard⟩ ⟨other, composed, same⟩
      obtain ⟨digits, rfl⟩ := compose_eq_ok_iff_digits.1 composed
      obtain rfl : other = id := eq_of_num (Int.ofNat_inj.1 (same.trans named.symm))
      exact Prod.ext (Int64.toInt_inj.1 (digits.symm.trans word.symm)) rfl
  · exact Router.exists_ofSites_iff
  · intro sites router _ user place first last
    have size := router.num_shardForUser_lt user
    have small : (router.shardForUser user).num < stride := Nat.lt_of_lt_of_le size router.le_max
    have one : (1 : Int64).toInt = 1 := by decide
    have limit : (Int64.maxValue / 1000).toInt = 9223372036854775 := by decide
    rw [Int64.le_iff_toInt_le, one] at first
    rw [Int64.lt_iff_toInt_lt, limit] at last
    obtain ⟨id, composed⟩ : ∃ id, compose place.toInt (router.shardForUser user) = .ok id := by
      refine exists_compose_iff.2 ⟨small, ?_, ?_⟩
      · rw [stride]
        omega
      · rw [stride] at small ⊢
        rw [maxInt64]
        omega
    obtain ⟨-, lies⟩ := compose_eq_ok_iff_digits.1 composed
    refine ⟨id, composed, ?_⟩
    rw [← lies] at size ⊢
    exact Router.shardForOrder_of_lt size

/-- The last place that any number encodes, and only for some shards; and the last place that
    numbers encode whatever the shard, on a topology of two shards. -/
theorem OrderId.numbers_encode_places_atTheEnd :
    (∃ id, compose (9223372036854775 : Int64).toInt ⟨807⟩ = .ok id) ∧
    (¬ ∃ id, compose (9223372036854775 : Int64).toInt ⟨808⟩ = .ok id) ∧
    ∃ router : Router Unit, Router.ofSites [⟨(), none⟩, ⟨(), some ()⟩] = .ok router ∧
      ∃ id, compose (9223372036854774 : Int64).toInt
          (router.shardForUser ⟨5, by decide, by decide⟩) = .ok id ∧
        router.shardForOrder id = .ok (router.shardForUser ⟨5, by decide, by decide⟩) := by
  obtain ⟨composes, -, -, -, topology, routes⟩ := numbers_encode_places (σ := Unit)
  obtain ⟨router, made⟩ := (topology [⟨(), none⟩, ⟨(), some ()⟩]).2 (by decide)
  exact ⟨(composes _ _).2 (by decide), fun composed =>
    absurd ((composes _ _).1 composed) (by decide), router, made,
    routes _ router made _ _ (by decide) (by decide)⟩

end OrderDesk
