import OrderDesk.Proofs.Creation
import OrderDesk.Proofs.Delivery
import OrderDesk.Proofs.Traffic

/-!
# What payloads tell

The payload of an event is the written form of a snapshot. Here it is laid down token by token, from
the order that it is about. The snapshot is read back from these tokens however they are spaced, so
payloads tell orders apart. Events are only ever stored with the payload of some order; so whatever
happens to a cluster, every event in its outboxes can be read.
-/

namespace OrderDesk

/-! ## Spaced tokens -/

namespace Json

/-- White space between tokens: spaces, tabs, line feeds and carriage returns. -/
def Blank (text : String) : Prop := ∀ c ∈ text.toList, c = ' ' ∨ c = '\t' ∨ c = '\n' ∨ c = '\r'

instance (text : String) : Decidable (Blank text) :=
  List.decidableBAll (fun c => c = ' ' ∨ c = '\t' ∨ c = '\n' ∨ c = '\r') text.toList

/-- A text of tokens, one after the other, with white space before, between and behind them or
    none. -/
inductive Spaced : List String → String → Prop where
  | nil {space : String} (blank : Blank space) : Spaced [] space
  | cons {token text space : String} {tokens : List String} (blank : Blank space)
      (rest : Spaced tokens text) : Spaced (token :: tokens) (space ++ (token ++ text))

theorem isSpace_of_blank {text : String} (blank : Blank text) :
    ∀ byte ∈ Utf8.encode text, isSpace byte = true := by
  have ascii : ∀ c ∈ text.toList, c.toNat < 0x80 := by
    intro c member
    rcases blank c member with rfl | rfl | rfl | rfl <;> decide
  intro byte member
  rw [encode_of_ascii ascii] at member
  obtain ⟨c, inside, rfl⟩ := List.mem_map.1 member
  rcases blank c inside with rfl | rfl | rfl | rfl <;> decide

/-- What a spaced text encodes to spells its tokens, up to white space at the end. -/
theorem Spaced.spells {tokens : List String} {text : String} (spaced : Spaced tokens text) :
    ∃ bytes space, Utf8.encode text = bytes ++ space ∧ Spells tokens bytes ∧
      ∀ byte ∈ space, isSpace byte = true := by
  induction spaced with
  | @nil space blank => exact ⟨[], Utf8.encode space, rfl, .nil, isSpace_of_blank blank⟩
  | @cons token text space tokens blank rest ih =>
    obtain ⟨bytes, last, encoded, spells, white⟩ := ih
    refine ⟨Utf8.encode space ++ (Utf8.encode token ++ bytes), last, ?_,
      .cons (isSpace_of_blank blank) spells, white⟩
    rw [encode_append, encode_append, encoded]
    simp only [List.append_assoc]

theorem blank_empty : Blank "" := by
  intro c member
  cases member

/-- The tokens alone are spaced as well. -/
theorem spaced_join (tokens : List String) : Spaced tokens (String.join tokens) := by
  induction tokens with
  | nil => exact .nil blank_empty
  | cons token rest ih =>
    have unspaced : Spaced (token :: rest) ("" ++ (token ++ String.join rest)) :=
      .cons blank_empty ih
    rwa [String.empty_append, ← String.join_cons] at unspaced

/-- The tokens of an array: those of its items, with commas between them. -/
theorem tokens_array (items : List Json) :
    (array items).tokens = "[" :: ([","].intercalate (items.map tokens) ++ ["]"]) := by
  cases items with
  | nil => rw [tokens]; rfl
  | cons item rest =>
    have further : ∀ item : Json, item.tokens ++ itemTokens rest =
        [","].intercalate ((item :: rest).map tokens) ++ ["]"] := by
      induction rest with
      | nil =>
        intro item
        rw [itemTokens]
        simp [List.intercalate]
      | cons next rest ih =>
        intro item
        rw [itemTokens, ih next, List.map_cons, List.map_cons, List.map_cons,
          List.intercalate_cons_cons]
        simp only [List.append_assoc, List.cons_append, List.nil_append]
    rw [tokens, further item]

end Json

open Json

theorem Wire.read_spaced {α : Type} [Wire α] {value : α} (faithful : Faithful value) {text : String}
    (spaced : Spaced (toJson value).tokens text) : read α (Utf8.encode text) = .ok value := by
  obtain ⟨bytes, space, encoded, spells, blank⟩ := spaced.spells
  rw [encoded, read_spelled faithful spells blank]

/-! ## The written form of an order -/

namespace Item

/-- The tokens that tell about a line. -/
def tokens (item : Item) : List String :=
  ["\x7b", "\"SKU\"", ":", toString item.sku, ",", "\"Count\"", ":",
    toString item.count.num, "\x7d"]

end Item

namespace Order

/-- The tokens that tell about an order: its number, its user, the name of its state, and its lines
    in their order. -/
def tokens (order : Order) : List String :=
  ["\x7b", "\"ID\"", ":", toString order.id, ",", "\"UserId\"", ":", toString order.user, ",",
    "\"State\"", ":", "\"" ++ order.state.name ++ "\"", ",", "\"Items\"", ":", "["] ++
    ([","].intercalate (order.items.map Item.tokens) ++ ["]", "\x7d"])

end Order

namespace Snapshot

variable {a b order : Order}

theorem quote_name (state : OrderState) : Json.quote state.name = "\"" ++ state.name ++ "\"" := by
  cases state <;> rfl

theorem tokens_item (item : Item) :
    (Wire.toJson (⟨item.sku.num, item.count.num⟩ : SnapshotItem)).tokens = item.tokens := by
  rfl

/-- The document of a snapshot has the tokens of its order. -/
theorem tokens_ofOrder (order : Order) : (Wire.toJson (ofOrder order)).tokens = order.tokens := by
  have tells : (ofOrder order).Tells order := tells_ofOrder order order.state
  have id : (number (ofOrder order).id.toInt).tokens = [toString order.id] := by
    rw [tells.id]
    rfl
  have user : (number (ofOrder order).user.toInt).tokens = [toString order.user] := by
    rw [tells.user]
    rfl
  have lines : ((ofOrder order).items.map Wire.toJson).map Json.tokens =
      order.items.map Item.tokens := by
    rw [ofOrder, List.map_map, List.map_map]
    exact List.map_congr_left fun item _ => tokens_item item
  show (object [("ID", number (ofOrder order).id.toInt),
    ("UserId", number (ofOrder order).user.toInt), ("State", text order.state.name),
    ("Items", array ((ofOrder order).items.map Wire.toJson))]).tokens = order.tokens
  rw [Json.tokens, memberTokens, memberTokens, memberTokens, memberTokens, id, user, tokens_array,
    lines, Json.tokens, quote_name, Order.tokens]
  simp only [List.append_assoc, List.cons_append, List.nil_append]
  rfl

/-- The payload of an order is its tokens, without any white space. -/
theorem payload_ofOrder (order : Order) : (ofOrder order).payload = String.join order.tokens := by
  rw [payload, Wire.write, Json.render, tokens_ofOrder]

/-- The snapshot of an order is read back from its tokens, however they are spaced. -/
theorem ofPayload_of_spaced {text : String} (spaced : Spaced order.tokens text) :
    ofPayload text = .ok (ofOrder order) := by
  rw [← tokens_ofOrder] at spaced
  rw [ofPayload, Wire.read_spaced (faithful_snapshot (ofOrder order)) spaced]

theorem ofOrder_injective (same : ofOrder a = ofOrder b) : a = b := by
  have first : (ofOrder a).Tells a := tells_ofOrder a a.state
  have second : (ofOrder b).Tells b := tells_ofOrder b b.state
  have state : a.state = b.state := congrArg Snapshot.state same
  rw [same] at first
  have id : a.id = b.id := OrderId.eq_of_num (Int.ofNat.inj (first.id.symm.trans second.id))
  have user : a.user.num = b.user.num := Int.ofNat.inj (first.user.symm.trans second.user)
  have words : (fun item : Item => (item.sku.num, item.count.num)).Injective := by
    intro ⟨⟨_⟩, ⟨_, _⟩⟩ ⟨⟨_⟩, ⟨_, _⟩⟩ equal
    cases equal
    rfl
  have items : a.items = b.items :=
    List.map_injective_iff.2 words (first.items.symm.trans second.items)
  obtain ⟨_, ⟨_, _, _⟩, _, _⟩ := a
  obtain ⟨_, ⟨_, _, _⟩, _, _⟩ := b
  simp_all

/-- No text tells about two orders. -/
theorem eq_of_spaced {text : String} (first : Spaced a.tokens text)
    (second : Spaced b.tokens text) :
    a = b := by
  have read := ofPayload_of_spaced first
  rw [ofPayload_of_spaced second] at read
  exact ofOrder_injective (Except.ok.inj read.symm)

end Snapshot

/-! ## Events can be read -/

namespace Cluster

/-- Every event in the outboxes is read as the snapshot of an order, and bears its number. -/
def Legible (cluster : Cluster) : Prop :=
  ∀ shard, ∀ event ∈ (cluster.tables shard).outbox,
    ∃ order : Order, order.id = event.order ∧ event.snapshot = .ok (.ofOrder order)

variable {cluster before after : Cluster} {order stored : Order} {state : OrderState}

theorem Unused.legible (unused : cluster.Unused) : cluster.Legible := by
  intro shard event member
  rw [unused shard] at member
  cases member

/-- A write that pushes the event of an order onto the outbox of a shard. -/
theorem Legible.push (legible : cluster.Legible) {shard : ShardIndex} (present : cluster.Has shard)
    {pushed : Tables} (outbox : pushed.outbox = (cluster.tables shard).outbox ++
      [(cluster.tables shard).eventOf order (cluster.now shard)]) :
    (cluster.setTables shard pushed).Legible := by
  intro other event member
  rw [tables_setTables present] at member
  split at member
  · rw [outbox] at member
    rcases List.mem_append.1 member with old | new
    · exact legible shard event old
    · rw [List.mem_singleton.1 new]
      have tells := (cluster.tables shard).tellsOf_eventOf order (cluster.now shard)
      exact ⟨order, tells.order.symm, tells.snapshot⟩
  · exact legible other event member

theorem Legible.addOrder (legible : cluster.Legible) (present : cluster.Has order.id.shard) :
    (cluster.addOrder order).Legible :=
  legible.push present rfl

theorem Legible.moveOrder (legible : cluster.Legible) (present : cluster.Has stored.id.shard) :
    (cluster.moveOrder stored state).Legible :=
  legible.push present rfl

theorem Legible.setInventory (legible : cluster.Legible) (inventory : Inventory) :
    (cluster.setInventory inventory).Legible := by
  intro shard event member
  rw [outbox_setInventory] at member
  exact legible shard event member

/-- Marks are no part of what is read. -/
theorem Legible.marks (legible : before.Legible) (same : SameButMarks before after) :
    after.Legible := by
  intro shard event member
  obtain ⟨place, found⟩ := List.mem_iff_getElem?.1 member
  obtain ⟨old, there, equal⟩ := (same.tables shard).getElem?_before found
  obtain ⟨order, named, read⟩ := legible shard old (List.mem_of_getElem? there)
  have about : old.order = event.order := by simpa [Event.unmarked] using congrArg Event.order equal
  have payload : old.payload = event.payload := by
    simpa [Event.unmarked] using congrArg Event.payload equal
  refine ⟨order, named.trans about, ?_⟩
  rw [Event.snapshot, ← payload]
  exact read

theorem Legible.wrote {write : Write} (legible : before.Legible)
    (wrote : Wrote before write after) :
    after.Legible := by
  cases wrote with
  | create belongs healthy next => exact legible.addOrder healthy.has
  | adjust gained => exact legible.setInventory _
  | move healthy named found stands => exact legible.moveOrder healthy.has

/-- Outboxes that tell of the stored orders what they went through can be read. -/
theorem Orderly.legible (orderly : cluster.Orderly) : cluster.Legible := by
  intro shard event member
  obtain ⟨course, recorded, -⟩ := orderly.agreed
  obtain ⟨order, state, -, -, about, told⟩ := recorded.exists_tale orderly.placed member
  have named : event.order = order.id := of_decide_eq_true (List.mem_filter.1 about).2
  exact ⟨{ order with state := state }, named.symm, snapshot_of_payload told⟩

end Cluster

theorem Desk.legible_serveAll {σ : Type} (publisher : Publisher σ) {start : Desk σ}
    (unused : start.cluster.Unused) (errands : List Errand) :
    (start.serveAll publisher errands).cluster.Legible := by
  refine (serveAll_keeps ?_ ?_ ?_ ?_ start errands unused.placed unused.legible).2
  · exact fun _ _ _ legible _ healthy _ => legible.addOrder healthy.has
  · exact fun _ _ _ _ legible healthy _ => legible.moveOrder healthy.has
  · exact fun _ inventory legible => legible.setInventory inventory
  · exact fun _ _ same legible => legible.marks same

theorem Traffic.legible_run {cluster : Cluster} (unused : cluster.Unused) (steps : List Step) :
    ((Traffic.on cluster).run steps).cluster.Legible := by
  refine (orderly_on unused).run_keeps
    (fun traffic => traffic.cluster.Legible) ?_ unused.legible steps
  intro before after _ change legible
  cases change with
  | switched same => exact legible.marks same
  | arrived request => exact legible
  | turned there => exact legible
  | wrote there planned wrote => exact legible.wrote wrote

/-- What is stored stays in order along every delivery, wherever its ticks send to. -/
theorem Delivery.orderly_run {σ : Type} (publisher : Publisher σ) {delivery : Delivery σ}
    (orderly : delivery.desk.cluster.Orderly) (moves : List Move) :
    (delivery.run publisher moves).desk.cluster.Orderly := by
  induction moves generalizing delivery with
  | nil => exact orderly
  | cons move rest ih =>
    have sends : ∃ topic, move.SendsTo topic := by
      cases move with
      | drain place => exact ⟨"", trivial⟩
      | act action =>
        cases action with
        | tick settings => exact ⟨settings.topic, rfl⟩
        | _ => exact ⟨"", trivial⟩
    obtain ⟨topic, sends⟩ := sends
    exact ih (change_step publisher orderly sends).2

/-- Snapshots come back from their payloads. The snapshot of an order tells its number, its user,
    its state and its lines. Its payload is the tokens of the order, one after the other, and
    whatever white space is put before, between or behind these tokens, an event with that text is
    read as that snapshot. Whoever stores a change of an order appends one event, with the number
    and the payload of the order. Different orders have different payloads. And along every run from
    an unused cluster, be it errands, calls or drains that take turns in their steps, every event
    that was written can be read. -/
theorem Snapshot.payloads_round_trip {σ : Type} (publisher : Publisher σ) {start : Desk σ}
    (unused : start.cluster.Unused) :
    (∀ order : Order, (ofOrder order).Tells order ∧ (ofOrder order).state = order.state ∧
      (ofOrder order).payload = String.join order.tokens ∧
      ∀ event : Event, Spaced order.tokens event.payload → event.snapshot = .ok (ofOrder order)) ∧
    (∀ (tables : Tables) (order : Order) (now : Timestamp), ∃ event : Event,
      (tables.pushEvent order now).outbox = tables.outbox ++ [event] ∧ event.order = order.id ∧
      event.payload = (ofOrder order).payload ∧ event.snapshot = .ok (ofOrder order)) ∧
    (∀ a b : Order, a ≠ b → (ofOrder a).payload ≠ (ofOrder b).payload) ∧
    (∀ errands, (start.serveAll publisher errands).cluster.Legible) ∧
    (∀ steps, ((Traffic.on start.cluster).run steps).cluster.Legible) ∧
    ∀ moves, ((Delivery.on start).run publisher moves).desk.cluster.Legible := by
  refine ⟨?_, ?_, ?_, ?_, ?_, ?_⟩
  · intro order
    exact ⟨tells_ofOrder order order.state, rfl, payload_ofOrder order,
      fun _ spaced => ofPayload_of_spaced spaced⟩
  · intro tables order now
    have tells := tables.tellsOf_eventOf order now
    have payload : (tables.eventOf order now).payload = (ofOrder order).payload := by
      rw [Tables.eventOf]
    exact ⟨tables.eventOf order now, rfl, tells.order, payload, tells.snapshot⟩
  · intro a b apart same
    have first := spaced_join a.tokens
    have second := spaced_join b.tokens
    rw [payload_ofOrder, payload_ofOrder] at same
    rw [same] at first
    exact apart (eq_of_spaced first second)
  · exact fun errands => Desk.legible_serveAll publisher unused errands
  · exact fun steps => Traffic.legible_run unused steps
  · exact fun moves => (Delivery.orderly_run publisher unused.orderly moves).legible

/-- An order of two lines, an event whose text starts on a new line, and a cluster that was asked
    for an order and for a move of another one. -/
theorem Snapshot.payloads_round_trip_twoLines :
    let order : Order :=
      ⟨⟨3001, by decide, by decide⟩, ⟨42, by decide, by decide⟩, .awaitingPayment,
        [⟨⟨1076963⟩, ⟨2, by decide⟩⟩, ⟨⟨1148162⟩, ⟨1, by decide⟩⟩]⟩
    let text := "\x7b\"ID\":3001,\"UserId\":42,\"State\":\"AWAITING_PAYMENT\",\"Items\":[" ++
      "\x7b\"SKU\":1076963,\"Count\":2\x7d,\x7b\"SKU\":1148162,\"Count\":1\x7d]\x7d"
    let event : Event := ⟨⟨1⟩, order.id, "\n" ++ text, ⟨0⟩, false⟩
    (ofOrder order).payload = text ∧ event.snapshot = .ok (ofOrder order) ∧
      ((⟨.twoShards, ()⟩ : Desk Unit).serveAll .log
        [.create order.user order.items, .move order .new]).cluster.Legible := by
  intro order text event
  have unused : (⟨.twoShards, ()⟩ : Desk Unit).cluster.Unused := Cluster.unused_twoShards
  obtain ⟨snapshots, -, -, legible, -⟩ := payloads_round_trip .log unused
  obtain ⟨-, -, written, read⟩ := snapshots order
  have joined : String.join order.tokens = text := by decide +kernel
  refine ⟨written.trans joined, read event ?_, legible _⟩
  have newLine : Blank "\n" := by decide +kernel
  have listed : order.tokens = "\x7b" :: order.tokens.tail := rfl
  show Spaced order.tokens ("\n" ++ text)
  rw [← joined, listed, String.join_cons]
  exact .cons newLine (spaced_join order.tokens.tail)

end OrderDesk
