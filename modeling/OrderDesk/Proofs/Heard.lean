import Mathlib.Data.List.Basic
import OrderDesk.Proofs.Outbox

/-!
# What was heard of an outbox

The messages that a publisher has accepted, seen against one outbox: it has heard of the first so
many events, and of each of them for the first time before it first heard of the next. This goes on
as long as what is accepted next is an event that was heard of, or the first that was not. While
the stamps of an outbox never decrease, the first events that wait are those right behind the ones
that were sent.
-/

namespace OrderDesk

/-- Something holds of the first so many elements of a list and of no others. -/
def HoldsFirst {α : Type} (holds : α → Prop) (count : Nat) (list : List α) : Prop :=
  ∀ (place : Nat) (a : α), list[place]? = some a → (holds a ↔ place < count)

namespace HoldsFirst

variable {α : Type} {holds : α → Prop} {count : Nat} {list fresh : List α}

theorem tail {a : α} (first : HoldsFirst holds count (a :: list)) :
    HoldsFirst holds (count - 1) list := by
  intro place b found
  rw [first (place + 1) b found]
  omega

theorem filter_eq [DecidablePred holds] (first : HoldsFirst holds count list) :
    list.filter (holds ·) = list.take count ∧ list.filter (fun a => !holds a) =
      list.drop count := by
  induction list generalizing count with
  | nil => simp
  | cons a rest ih =>
    have here := first 0 a rfl
    obtain ⟨kept, left⟩ := ih first.tail
    cases count with
    | zero =>
      have fails : ¬ holds a := by simpa using here
      rw [List.filter_cons_of_neg (by simpa using fails),
        List.filter_cons_of_pos (by simpa using fails), kept, left]
      exact ⟨rfl, rfl⟩
    | succ count =>
      have known : holds a := by simpa using here
      rw [List.filter_cons_of_pos (by simpa using known),
        List.filter_cons_of_neg (by simpa using known), kept, left]
      exact ⟨rfl, rfl⟩

theorem append (first : HoldsFirst holds count list) (le : count ≤ list.length)
    (none : ∀ a ∈ fresh, ¬ holds a) : HoldsFirst holds count (list ++ fresh) := by
  intro place a found
  rw [List.getElem?_append] at found
  split at found
  · exact first place a found
  · have beyond : ¬ place < count := by omega
    exact iff_of_false (none a (List.mem_of_getElem? found)) beyond

theorem of_map {β : Type} {f : β → α} {list : List β}
    (first : HoldsFirst holds count (list.map f)) :
    HoldsFirst (fun b => holds (f b)) count list := by
  intro place b found
  apply first place (f b)
  rw [List.getElem?_map, found]
  rfl

end HoldsFirst

/-! ## Sending in order -/

namespace Tables

/-- The stamps of successive events never decrease. -/
def Steady (outbox : List Event) : Prop :=
  outbox.Pairwise fun a b => a.createdAt.millis ≤ b.createdAt.millis

variable {tables : Tables} {clock : Nat → Timestamp}

/-- Events whose stamps never decrease come in order, as the numbers decide between equal stamps. -/
theorem Stamped.pairwise_comesBefore (stamped : tables.Stamped clock)
    (steady : Steady tables.outbox) :
    tables.outbox.Pairwise fun a b => a.comesBefore b = true := by
  rw [Steady, List.pairwise_iff_getElem] at steady
  rw [List.pairwise_iff_getElem]
  intro i j below above less
  have stamps := steady i j below above less
  have first := stamped.id i _ (List.getElem?_eq_getElem below)
  have second := stamped.id j _ (List.getElem?_eq_getElem above)
  unfold Event.comesBefore
  split
  · rw [first, second]
    simp only [decide_eq_true_eq]
    omega
  · simpa using stamps

/-- The stamps of a clock that never runs backwards never decrease. -/
theorem Stamped.steady (stamped : tables.Stamped clock)
    (forward : ∀ i j, i ≤ j → (clock i).millis ≤ (clock j).millis) : Steady tables.outbox := by
  rw [Steady, List.pairwise_iff_getElem]
  intro i j below above less
  rw [stamped.createdAt i _ (List.getElem?_eq_getElem below),
    stamped.createdAt j _ (List.getElem?_eq_getElem above)]
  exact forward i j (Nat.le_of_lt less)

/-- The first events that wait are those right behind the ones that were sent. -/
theorem Stamped.pending_eq (stamped : tables.Stamped clock) (steady : Steady tables.outbox)
    {sent : Nat} (first : HoldsFirst (·.processed = true) sent tables.outbox) (limit : Nat) :
    pending tables.outbox [] limit = (tables.outbox.drop sent).take limit := by
  have waits : unsent tables.outbox [] = tables.outbox.drop sent := by
    rw [← first.filter_eq.2]
    simp [unsent]
  have sorted : (tables.outbox.drop sent).Pairwise fun a b => a.comesBefore b = true :=
    (stamped.pairwise_comesBefore steady).sublist (List.drop_sublist ..)
  rw [pending, waits, List.mergeSort_of_pairwise sorted]

end Tables

/-! ## Hearing in order -/

/-- Of the given messages the first so many were accepted, each for the first time before the next
    was accepted for the first time. -/
structure Heard (messages accepted : List Message) (count : Nat) : Prop where
  le : count ≤ messages.length
  first : HoldsFirst (· ∈ accepted) count messages
  ordered : messages.Pairwise fun a b => b ∈ accepted → accepted.idxOf a < accepted.idxOf b

namespace Heard

variable {messages accepted fresh : List Message} {message : Message} {count place : Nat}

theorem nothing (messages : List Message) : Heard messages [] 0 := by
  refine ⟨Nat.zero_le _, fun place message _ => by simp, ?_⟩
  rw [List.pairwise_iff_getElem]
  exact fun i j below above less member => nomatch member

/-- Any other message makes no difference. -/
theorem ignore (heard : Heard messages accepted count) (foreign : message ∉ messages) :
    Heard messages (accepted ++ [message]) count := by
  have same : ∀ a ∈ messages, (a ∈ accepted ++ [message] ↔ a ∈ accepted) := by
    intro a listed
    have other : a ≠ message := fun equal => foreign (equal ▸ listed)
    simp [other]
  refine ⟨heard.le, ?_, ?_⟩
  · intro place a found
    exact (same a (List.mem_of_getElem? found)).trans (heard.first place a found)
  · refine heard.ordered.imp_of_mem ?_
    intro a b _ listed before member
    have known := (same b listed).1 member
    have earlier := before known
    have within := List.idxOf_lt_length_iff.2 known
    have first : a ∈ accepted := List.idxOf_lt_length_iff.1 (by omega)
    rwa [List.idxOf_append_of_mem first, List.idxOf_append_of_mem known]

/-- What is accepted next is a message that was heard of, or the first that was not. -/
theorem accept (heard : Heard messages accepted count) (distinct : messages.Nodup)
    (found : messages[place]? = some message) (next : place ≤ count) :
    Heard messages (accepted ++ [message]) (max count (place + 1)) := by
  obtain ⟨below, rfl⟩ := List.getElem?_eq_some_iff.1 found
  have here : ∀ (other : Nat) (within : other < messages.length),
      messages[other] = messages[place] ↔ other = place :=
    fun other within => distinct.getElem_inj_iff
  refine ⟨by have := heard.le; omega, ?_, ?_⟩
  · intro other a there
    obtain ⟨within, rfl⟩ := List.getElem?_eq_some_iff.1 there
    have known := heard.first other _ there
    simp only [List.mem_append, List.mem_singleton, known, here]
    omega
  · have ordered := heard.ordered
    rw [List.pairwise_iff_getElem] at ordered ⊢
    intro i j inside within less member
    have first := heard.first i _ (List.getElem?_eq_getElem inside)
    have second := heard.first j _ (List.getElem?_eq_getElem within)
    by_cases known : messages[j] ∈ accepted
    · have before : messages[i] ∈ accepted := first.2 (by have := second.1 known; omega)
      rw [List.idxOf_append_of_mem before, List.idxOf_append_of_mem known]
      exact ordered i j inside within less known
    · -- The later message is heard of for the first time, at the end of all that was accepted.
      have last : j = place := by simpa [known, here] using member
      have before : messages[i] ∈ accepted := first.2 (by omega)
      rw [List.idxOf_append_of_mem before, List.idxOf_append_of_notMem known]
      have inner := List.idxOf_lt_length_iff.2 before
      omega

/-- Messages that nothing was heard of may follow. -/
theorem append (heard : Heard messages accepted count)
    (unheard : ∀ message ∈ fresh, message ∉ accepted) :
    Heard (messages ++ fresh) accepted count := by
  refine ⟨?_, heard.first.append heard.le unheard, ?_⟩
  · rw [List.length_append]
    exact Nat.le_add_right_of_le heard.le
  · refine List.pairwise_append.2 ⟨heard.ordered, ?_, ?_⟩
    · rw [List.pairwise_iff_getElem]
      exact fun i j below above less member => absurd member (unheard _ (List.getElem_mem above))
    · exact fun a _ b new member => absurd member (unheard b new)

end Heard

end OrderDesk
