import OrderDesk.Proofs.History
import OrderDesk.Proofs.Traffic

/-!
# An order is settled once

Several callers may have read that an order waits for payment before any of them writes. As the
last step of each moves the order only from the state that it has read, one of them gets through
and all others are refused, in whatever order the steps of all calls come and whatever fails in
between.
-/

namespace OrderDesk

/-- The moves that an order makes: from new it comes to wait for payment or has failed, and one
    that waits is paid or cancelled. -/
def OrderState.leadsTo : OrderState → OrderState → Bool
  | new, awaitingPayment | new, failed => true
  | awaitingPayment, payed | awaitingPayment, cancelled => true
  | _, _ => false

/-- Whether a write moves an order of a number to a state. -/
def Write.moves (id : OrderId) (next : OrderState) : Write → Bool
  | move seen state => seen.id = id && state = next
  | _ => false

/-- The states to which writes moved an order, in the order of the writes. -/
def Write.course (id : OrderId) (journal : List Write) : List OrderState :=
  journal.filterMap fun
    | move seen next => if seen.id = id then some next else none
    | _ => none

namespace Flight

/-- Whether the call settles an order in one of the two ways and its own move went through. -/
def settles (settlement : Settlement) (id : OrderId) (flight : Flight) : Bool :=
  flight.request = .settle settlement id && flight.deeds.any (Write.moves id settlement.target)

/-- Whether the call settles an order in either way and has answered that all went well. -/
def succeeds (id : OrderId) (flight : Flight) : Bool :=
  match flight.request, flight.call with
  | .settle _ other, .done (.ok _) => other = id
  | _, _ => false

end Flight

namespace Traffic

/-- Orders move only as they may, and each is settled at most once. -/
structure SettlesOnce (traffic : Traffic) : Prop where
  /-- The next step leaves a stored order as it is, or it moves it on. -/
  moves : ∀ step id order, traffic.cluster.stored? id = some order →
    (traffic.step step).cluster.stored? id = some order ∨
      ∃ next, order.state.leadsTo next ∧
        (traffic.step step).cluster.stored? id = some { order with state := next }
  /-- An order that the next step stores is new. -/
  starts : ∀ step id order, traffic.cluster.stored? id = none →
    (traffic.step step).cluster.stored? id = some order → order.state = .new
  /-- Of all calls that pay or cancel an order, at most one succeeds. -/
  once : ∀ id, traffic.flights.countP (Flight.succeeds id) ≤ 1
  /-- An order is paid exactly if one call that pays it has moved it, and no other has; the same
      holds of cancelled orders and of calls that cancel. -/
  counts : ∀ settlement id order, traffic.cluster.stored? id = some order →
    traffic.flights.countP (Flight.settles settlement id) =
      if order.state = settlement.target then 1 else 0
  /-- The events about an order tell that it was new and then each of its moves, up to the state
      in which it stands. -/
  told : ∀ id order, traffic.cluster.stored? id = some order →
    ∃ snapshots : List Snapshot,
      (traffic.cluster.eventsOf id).map Event.snapshot = snapshots.map .ok ∧
        snapshots.map (·.state) = .new :: Write.course id traffic.journal ∧
        (snapshots.map (·.state)).getLast? = some order.state

end Traffic

/-! ## Moves -/

theorem Write.course_append (id : OrderId) (journal more : List Write) :
    course id (journal ++ more) = course id journal ++ course id more := by
  rw [course, List.filterMap_append]
  rfl

@[simp] theorem Write.course_create (id : OrderId) (user : UserId) (items : List Item) :
    course id [create user items] = [] := rfl

@[simp] theorem Write.course_adjust (id : OrderId) (adjustment : Adjustment) (items : List Item) :
    course id [adjust adjustment items] = [] := rfl

theorem Write.course_move (id : OrderId) (seen : Order) (next : OrderState) :
    course id [move seen next] = if seen.id = id then [next] else [] := by
  by_cases same : seen.id = id <;> simp [course, same]

theorem Flight.Sits.leadsTo {cluster : Cluster} {flight : Flight} (sits : flight.Sits cluster)
    {seen : Order} {next : OrderState} (planned : flight.call.write? = some (.move seen next)) :
    seen.state.leadsTo next := by
  cases sits with
  | confirming order new known =>
    cases planned
    rw [new]
    rfl
  | failing order reason new known =>
    cases planned
    rw [new]
    rfl
  | closing settlement order waiting known =>
    cases planned
    rw [waiting]
    cases settlement <;> rfl
  | storing | reserving | ended | loading | adjusting | refused | settled => cases planned

namespace Traffic

variable {before after : Traffic}

theorem Orderly.stored?_step (orderly : before.Orderly) (step : Step) {id : OrderId} {order : Order}
    (found : before.cluster.stored? id = some order) :
    (before.step step).cluster.stored? id = some order ∨
      ∃ next, order.state.leadsTo next ∧
        (before.step step).cluster.stored? id = some { order with state := next } := by
  have change := orderly.change step
  generalize before.step step = after at change ⊢
  cases change with
  | switched same => exact .inl ((same.stored? id).trans found)
  | arrived request => exact .inl found
  | turned there => exact .inl found
  | @wrote early late flight call write cluster there planned wrote =>
    have sits := orderly.sits flight (by simp [there])
    rcases wrote.stored? orderly.placed found with kept | ⟨seen, next, rfl, -, stands, moved⟩
    · exact .inl kept
    · refine .inr ⟨next, ?_, moved⟩
      rw [← stands]
      exact sits.leadsTo planned

theorem Orderly.new_of_step (orderly : before.Orderly) (step : Step) {id : OrderId} {order : Order}
    (unknown : before.cluster.stored? id = none)
    (found : (before.step step).cluster.stored? id = some order) : order.state = .new := by
  have change := orderly.change step
  generalize before.step step = after at change found
  cases change with
  | switched same =>
    rw [same.stored?, unknown] at found
    cases found
  | arrived request =>
    rw [unknown] at found
    cases found
  | turned there =>
    rw [unknown] at found
    cases found
  | wrote there planned wrote =>
    obtain ⟨user, items, -, rfl⟩ := wrote.stored?_of_none orderly.placed unknown found
    rfl

end Traffic

/-! ## Who settles an order -/

theorem Settlement.target_inj {a b : Settlement} : a.target = b.target ↔ a = b := by
  cases a <;> cases b <;> simp [target]

theorem Settlement.target_ne {settlement : Settlement} {state : OrderState}
    (unsettled : state = .new ∨ state = .awaitingPayment ∨ state = .failed) :
    ¬ some state = some settlement.target := by
  rcases unsettled with rfl | rfl | rfl <;> cases settlement <;> simp [target]

theorem Flight.settles_append (settlement : Settlement) (id : OrderId) (flight : Flight)
    (call : Call) (write : Write) :
    settles settlement id { flight with call := call, deeds := flight.deeds ++ [write] } =
      (flight.settles settlement id ||
        flight.request = .settle settlement id && write.moves id settlement.target) := by
  simp [settles, Bool.and_or_distrib_left]

theorem Flight.Sits.settles_of_succeeds {cluster : Cluster} {flight : Flight} {id : OrderId}
    (sits : flight.Sits cluster) (succeeds : flight.succeeds id = true) :
    ∃ settlement, flight.settles settlement id = true := by
  cases sits with
  | settled settlement order =>
    obtain rfl : order.id = id := of_decide_eq_true succeeds
    exact ⟨settlement, by simp [Flight.settles, Write.moves]⟩
  | storing | reserving | confirming | failing | ended | loading | adjusting | closing | refused =>
    cases succeeds

theorem countP_split {flights early late : List Flight} {flight : Flight}
    (there : flights = early ++ flight :: late) (p : Flight → Bool) :
    flights.countP p = early.countP p + late.countP p + if p flight then 1 else 0 := by
  rw [there, List.countP_append, List.countP_cons]
  omega

namespace Traffic

/-- An order stands as settled in one of the two ways exactly if one call has settled it so. -/
def Counted (traffic : Traffic) : Prop :=
  ∀ settlement id, traffic.flights.countP (Flight.settles settlement id) =
    if (traffic.cluster.stored? id).map (·.state) = some settlement.target then 1 else 0

variable {before after : Traffic}

theorem counted_on {start : Cluster} (unused : start.Unused) : (on start).Counted := by
  intro settlement id
  rw [on, unused.stored?]
  rfl

/-- A write that moves no order to where a settlement leads it leaves the counts alone. -/
theorem Counted.quiet {early late : List Flight} {flight : Flight} {call : Call} {write : Write}
    {cluster : Cluster} (counted : before.Counted)
    (there : before.flights = early ++ flight :: late) {settlement : Settlement} {id : OrderId}
    (still : (flight.request = .settle settlement id && write.moves id settlement.target) = false)
    (state : (cluster.stored? id).map (·.state) = some settlement.target ↔
      (before.cluster.stored? id).map (·.state) = some settlement.target) :
    (early ++ { flight with call := call, deeds := flight.deeds ++ [write] } :: late).countP
        (Flight.settles settlement id) =
      if (cluster.stored? id).map (·.state) = some settlement.target then 1 else 0 := by
  have law := counted settlement id
  rw [countP_split there] at law
  rw [countP_split rfl, Flight.settles_append, still, Bool.or_false, law]
  simp only [state]

/-- A move between states that no settlement leads to changes nothing for the counts. -/
theorem state_move_iff {cluster moved : Cluster} {stored : Order} {next : OrderState}
    {settlement : Settlement} {id : OrderId}
    (stores : ∀ id, moved.stored? id =
      if stored.id = id then some { stored with state := next } else cluster.stored? id)
    (found : cluster.stored? stored.id = some stored)
    (left : stored.state = .new ∨ stored.state = .awaitingPayment ∨ stored.state = .failed)
    (reached : next = .new ∨ next = .awaitingPayment ∨ next = .failed) :
    (moved.stored? id).map (·.state) = some settlement.target ↔
      (cluster.stored? id).map (·.state) = some settlement.target := by
  rw [stores]
  by_cases same : stored.id = id
  · subst same
    rw [if_pos rfl, found]
    exact iff_of_false (Settlement.target_ne reached) (Settlement.target_ne left)
  · rw [if_neg same]

theorem Counted.change (counted : before.Counted) (orderly : before.Orderly)
    (change : Change before after) : after.Counted := by
  intro settlement id
  cases change with
  | switched same =>
    rw [same.stored?]
    exact counted settlement id
  | arrived request =>
    have nothing : Flight.settles settlement id (.ofRequest request) = false := by
      simp [Flight.settles, Flight.ofRequest]
    rw [List.countP_append, List.countP_singleton, nothing]
    exact counted settlement id
  | turned there =>
    rw [← counted settlement id, countP_split there, countP_split rfl]
    rfl
  | @wrote early late flight call write cluster there planned wrote =>
    have sits := orderly.sits flight (by simp [there])
    cases wrote with
    | @create fresh user items belongs healthy next =>
      apply counted.quiet there (by simp [Write.moves])
      have unknown := orderly.placed.stored?_next next
      rw [Cluster.stored?_addOrder healthy.has unknown]
      by_cases same : fresh = id
      · subst same
        rw [if_pos rfl, unknown]
        simpa using Settlement.target_ne (.inl rfl)
      · rw [if_neg same]
    | adjust gained =>
      apply counted.quiet there (by simp [Write.moves])
      rw [Cluster.stored?_setInventory]
    | @move seen stored next healthy named found stands =>
      have stores : ∀ id, (before.cluster.moveOrder stored next).stored? id = _ :=
        Cluster.stored?_moveOrder healthy.has found
      cases sits with
      | storing | reserving | ended | loading | adjusting | refused | settled => cases planned
      | confirming order new known =>
        cases planned
        apply counted.quiet there (by simp)
        exact state_move_iff stores found (.inl (stands.trans new)) (.inr (.inl rfl))
      | failing order reason new known =>
        cases planned
        apply counted.quiet there (by simp)
        exact state_move_iff stores found (.inl (stands.trans new)) (.inr (.inr rfl))
      | closing other order waiting known =>
        cases planned
        obtain rfl : stored = seen := known.eq named found stands
        have unsettled : ¬ some stored.state = some settlement.target :=
          Settlement.target_ne (.inr (.inl waiting))
        -- Only the count of this very settlement of this very order may change: nobody had
        -- settled the order before, as it stood where a settlement has yet to come.
        by_cases mine : other = settlement ∧ stored.id = id
        · obtain ⟨rfl, rfl⟩ := mine
          have law := counted other stored.id
          have through : (Write.move stored other.target).moves stored.id other.target = true := by
            simp [Write.moves]
          rw [countP_split there, found, Option.map_some, if_neg unsettled] at law
          rw [countP_split rfl, Flight.settles_append, through]
          simp only [stores, if_true, Option.map_some, decide_true, Bool.and_true, Bool.or_true]
          omega
        · apply counted.quiet there
          · rw [← Bool.not_eq_true]
            intro both
            simp only [Write.moves, Bool.and_eq_true, decide_eq_true_eq,
              Request.settle.injEq] at both
            exact mine ⟨both.1.1, both.1.2⟩
          · rw [stores]
            by_cases same : stored.id = id
            · have apart : ¬ some other.target = some settlement.target := fun equal =>
                mine ⟨Settlement.target_inj.1 (Option.some.inj equal), same⟩
              rw [if_pos same, ← same, found]
              exact iff_of_false apart unsettled
            · rw [if_neg same]

theorem Orderly.countP_succeeds_le (orderly : before.Orderly) {settlement : Settlement}
    {id : OrderId} (others : ∀ other, other ≠ settlement →
      before.flights.countP (Flight.settles other id) = 0) :
    before.flights.countP (Flight.succeeds id) ≤
      before.flights.countP (Flight.settles settlement id) := by
  apply List.countP_mono_left
  intro flight member succeeds
  obtain ⟨other, settles⟩ := (orderly.sits flight member).settles_of_succeeds succeeds
  by_cases same : other = settlement
  · rwa [← same]
  · exact absurd settles (List.countP_eq_zero.1 (others other same) flight member)

theorem Counted.once (counted : before.Counted) (orderly : before.Orderly) (id : OrderId) :
    before.flights.countP (Flight.succeeds id) ≤ 1 := by
  by_cases paid : (before.cluster.stored? id).map (·.state) = some .payed
  · have others : ∀ other, other ≠ .pay → before.flights.countP (Flight.settles other id) = 0 := by
      intro other apart
      rw [counted other id, paid]
      cases other with
      | pay => exact absurd rfl apart
      | cancel => rfl
    have law := counted .pay id
    have bound := orderly.countP_succeeds_le others
    split at law <;> omega
  · have others :
        ∀ other, other ≠ .cancel → before.flights.countP (Flight.settles other id) = 0 := by
      intro other apart
      rw [counted other id]
      cases other with
      | pay => exact if_neg paid
      | cancel => exact absurd rfl apart
    have law := counted .cancel id
    have bound := orderly.countP_succeeds_le others
    split at law <;> omega

/-! ## What the events tell -/

/-- The outboxes tell of each order that it was new and then every move that was made of it; no
    move was made of an order that is not stored. -/
structure Told (traffic : Traffic) : Prop where
  recorded : traffic.cluster.Recorded fun id => .new :: Write.course id traffic.journal
  unmoved : ∀ id, traffic.cluster.stored? id = none → Write.course id traffic.journal = []

theorem told_on {start : Cluster} (unused : start.Unused) : (on start).Told where
  recorded := unused.recorded _
  unmoved _ _ := rfl

theorem Told.change (told : before.Told) (orderly : before.Orderly) (change : Change before after) :
    after.Told := by
  cases change with
  | switched same =>
    refine ⟨told.recorded.marks same, ?_⟩
    intro id unknown
    rw [same.stored?] at unknown
    exact told.unmoved id unknown
  | arrived request => exact ⟨told.recorded, told.unmoved⟩
  | turned there => exact ⟨told.recorded, told.unmoved⟩
  | @wrote early late flight call write cluster there planned wrote =>
    cases wrote with
    | @create fresh user items belongs healthy next =>
      have present : before.cluster.Has (Order.mk fresh user .new items).id.shard := healthy.has
      have unknown := orderly.placed.stored?_next next
      have stores := Cluster.stored?_addOrder present unknown
      refine ⟨(told.recorded.addOrder orderly.placed present next).congr ?_, ?_⟩
      · intro id order found
        rw [Write.course_append, Write.course_create, List.append_nil]
        by_cases same : fresh = id
        · rw [if_pos same, ← same, told.unmoved fresh unknown]
        · rw [if_neg same]
      · intro id absent
        rw [stores] at absent
        split at absent
        · cases absent
        · rw [Write.course_append, Write.course_create, List.append_nil, told.unmoved id absent]
    | adjust gained =>
      refine ⟨(told.recorded.setInventory _).congr ?_, ?_⟩
      · intro id order found
        rw [Write.course_append, Write.course_adjust, List.append_nil]
      · intro id absent
        rw [Cluster.stored?_setInventory] at absent
        rw [Write.course_append, Write.course_adjust, List.append_nil, told.unmoved id absent]
    | @move seen stored next healthy named found stands =>
      have stores : ∀ id, (before.cluster.moveOrder stored next).stored? id = _ :=
        Cluster.stored?_moveOrder healthy.has found
      refine ⟨(told.recorded.moveOrder healthy.has found).congr ?_, ?_⟩
      · intro id order here
        rw [Write.course_append, Write.course_move, ← named]
        by_cases same : stored.id = id
        · rw [if_pos same, if_pos same, List.cons_append]
        · rw [if_neg same, if_neg same, List.append_nil]
      · intro id absent
        rw [stores] at absent
        split at absent
        · cases absent
        · rename_i apart
          rw [Write.course_append, Write.course_move, ← named, if_neg apart, List.append_nil,
            told.unmoved id absent]

/-- Whatever calls arrive on a cluster without orders, and in whatever order their steps and the
    failures of databases come, orders move only as they may and each is settled at most once. -/
theorem settlesOnce_run {start : Cluster} (unused : start.Unused) (steps : List Step) :
    ((on start).run steps).SettlesOnce := by
  have began := orderly_on unused
  have orderly := began.run steps
  have counted : ((on start).run steps).Counted :=
    began.run_keeps Counted (fun _ _ orderly change holds => holds.change orderly change)
      (counted_on unused) steps
  have told : ((on start).run steps).Told :=
    began.run_keeps Told (fun _ _ orderly change holds => holds.change orderly change)
      (told_on unused) steps
  refine ⟨?_, ?_, counted.once orderly, ?_, ?_⟩
  · intro step id order found
    exact orderly.stored?_step step found
  · intro step id order unknown found
    exact orderly.new_of_step step unknown found
  · intro settlement id order found
    have law := counted settlement id
    simpa only [found, Option.map_some, Option.some.injEq] using law
  · intro id order found
    obtain ⟨snapshots, decoded, -, states⟩ := told.recorded.exists_snapshots found
    refine ⟨snapshots, decoded, states, ?_⟩
    rw [states]
    exact told.recorded.last id order found

/-- A call that pays order 1001 and one that cancels it have both read that it waits, and both have
    adjusted the stock, whose database fails then. The one that pays it writes first. -/
theorem settlesOnce_run_twoShards :
    let id : OrderId := ⟨1001, by decide, by decide⟩
    let traffic := (on .twoShards).run
      [.arrive (.checkout ⟨1, by decide, by decide⟩ [⟨⟨7⟩, 1, by decide⟩]), .advance 0, .advance 0,
        .advance 0, .arrive (.settle .pay id), .arrive (.settle .cancel id), .advance 1, .advance 2,
        .advance 2, .advance 1, .setPrimary ⟨0⟩ ⟨false, true⟩, .advance 1, .advance 2]
    traffic.SettlesOnce ∧ (traffic.cluster.stored? id).map Order.state = some .payed ∧
      traffic.flights.countP (Flight.succeeds id) = 1 := by
  intro id traffic
  refine ⟨settlesOnce_run Cluster.unused_twoShards _, ?_, ?_⟩
  · decide +kernel
  · decide +kernel

end Traffic

end OrderDesk
