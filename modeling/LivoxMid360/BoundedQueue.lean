import Mathlib.Algebra.GroupWithZero.Nat
import Mathlib.Data.List.Basic
import Mathlib.Data.List.Infix
import Mathlib.Tactic.Common

/-!
# The queue between the receive thread and its consumers

`BoundedQueue<T>` hands frames from the receive thread to any other thread.  A push never
blocks: a full queue drops its oldest item and counts it.

Every operation holds the mutex while it looks at the queue, so a run of any number of
threads is a sequence of operations.  `pop` gives the mutex up while it waits, and takes
what is there once it is woken with something to do or its time is over; before that it
changes nothing.

`pop_front` on an empty container is undefined behaviour, here `none`.  `take` asks first;
`push` relies on the capacity instead: a full queue is not empty, unless its capacity is 0.

* `Traffic` is a queue with its past: what was pushed while it was open, and what has left
  it, by a pop or by an overflow.
* `Traffic.Orderly` is the invariant: what has left and what is queued, in this order, is
  what was pushed.
* `boundedQueue_keeps_the_newest`: with a capacity above 0 the queue does what it says in
  every run, and with the capacity 0 it does not.
-/

namespace LivoxMid360

structure BoundedQueue (α : Type) where
  capacity : UInt64
  items : List α := []
  dropped : UInt64 := 0
  closed : Bool := false

namespace BoundedQueue

variable {α : Type}

/-- `items_.pop_front()`. -/
def popFront (q : BoundedQueue α) : Option (BoundedQueue α) :=
  match q.items with
  | [] => none
  | _ :: rest => some { q with items := rest }

def push (item : α) (q : BoundedQueue α) : Option (BoundedQueue α) :=
  if q.closed then some q
  else if q.items.length ≥ q.capacity.toNat then
    -- the container is not asked whether it is empty
    q.popFront.map fun q => { q with items := q.items ++ [item], dropped := q.dropped + 1 }
  else some { q with items := q.items ++ [item] }

def take (q : BoundedQueue α) : Option α × BoundedQueue α :=
  match q.items with
  | [] => (none, q)
  | front :: rest => (some front, { q with items := rest })

/-- What `pop` waits for. -/
def ready (q : BoundedQueue α) : Bool :=
  q.closed || !q.items.isEmpty

/-- `pop`, at a moment at which it has the mutex; `none` while it goes on waiting. -/
def pop (timedOut : Bool) (q : BoundedQueue α) : Option (Option α × BoundedQueue α) :=
  if timedOut || q.ready then some q.take else none

def tryPop (q : BoundedQueue α) : Option α × BoundedQueue α :=
  q.take

def close (q : BoundedQueue α) : BoundedQueue α :=
  { q with closed := true }

def size (q : BoundedQueue α) : ℕ :=
  q.items.length

/-- The next push drops an item. -/
def overflows (q : BoundedQueue α) : Bool :=
  !q.closed && decide (q.items.length ≥ q.capacity.toNat)

/-! ## What the operations do -/

variable {q q' : BoundedQueue α} {item front : α} {rest : List α}

theorem push_closed (h : q.closed = true) (item : α) : q.push item = some q := by
  rw [push, if_pos h]

theorem push_room (hopen : q.closed = false) (hroom : q.items.length < q.capacity.toNat)
    (item : α) : q.push item = some { q with items := q.items ++ [item] } := by
  rw [push, if_neg (by simp [hopen]), if_neg (by omega)]

theorem push_full (hopen : q.closed = false) (hfull : q.capacity.toNat ≤ q.items.length)
    (hitems : q.items = front :: rest) (item : α) :
    q.push item = some { q with items := rest ++ [item], dropped := q.dropped + 1 } := by
  rw [push, if_neg (by simp [hopen]), if_pos hfull, popFront, hitems]
  rfl

theorem take_cons (hitems : q.items = front :: rest) :
    q.take = (some front, { q with items := rest }) := by
  rw [take, hitems]

theorem take_nil (hitems : q.items = []) : q.take = (none, q) := by
  rw [take, hitems]

end BoundedQueue

/-! ## Runs -/

/-- An item that has left the queue. -/
inductive Departure (α : Type) where
  | popped (item : α)
  | dropped (item : α)

namespace Departure

variable {α : Type}

def item : Departure α → α
  | popped item | dropped item => item

def popped? : Departure α → Option α
  | popped item => some item
  | dropped _ => none

def dropped? : Departure α → Option α
  | popped _ => none
  | dropped item => some item

end Departure

/-- A queue, the items pushed while it was open, and those that have left it. -/
structure Traffic (α : Type) extends BoundedQueue α where
  pushed : List α := []
  departed : List (Departure α) := []

namespace Traffic

variable {α : Type}

inductive Op (α : Type) where
  | push (item : α)
  | tryPop
  | pop (timedOut : Bool)
  | close

/-- A queue that was just constructed. -/
def new (α : Type) (capacity : UInt64) : Traffic α where
  capacity

/-- The items popped so far. -/
def popped (t : Traffic α) : List α :=
  t.departed.filterMap Departure.popped?

/-- The items dropped so far. -/
def overflowed (t : Traffic α) : List α :=
  t.departed.filterMap Departure.dropped?

/-- A consumer has taken what was there. -/
def taken (t : Traffic α) (r : Option α × BoundedQueue α) : Traffic α where
  toBoundedQueue := r.2
  pushed := t.pushed
  departed := t.departed ++ (r.1.map .popped).toList

/-- One operation; `none` if its behaviour is undefined. -/
def step (t : Traffic α) : Op α → Option (Traffic α)
  | .push item =>
    (t.toBoundedQueue.push item).map fun q =>
      { toBoundedQueue := q
        pushed := if t.closed then t.pushed else t.pushed ++ [item]
        departed := t.departed ++
          if t.overflows then (t.items.head?.map .dropped).toList else [] }
  | .tryPop => some (t.taken t.tryPop)
  | .pop timedOut =>
    match t.toBoundedQueue.pop timedOut with
    -- without an item it goes on waiting, and nothing has happened
    | none => some t
    | some r => some (t.taken r)
  | .close => some { t with toBoundedQueue := t.toBoundedQueue.close }

def exec (t : Traffic α) (ops : List (Op α)) : Option (Traffic α) :=
  ops.foldlM step t

variable {t t' : Traffic α} {item : α}

theorem step_push_closed (h : t.closed = true) (item : α) : t.step (.push item) = some t := by
  have hoverflows : t.overflows = false := by
    simp [BoundedQueue.overflows, h]
  simp only [step, BoundedQueue.push_closed h, Option.map_some, h, hoverflows, if_true]
  simp

theorem step_push_room (hopen : t.closed = false) (hroom : t.items.length < t.capacity.toNat)
    (item : α) :
    t.step (.push item) =
      some { t with items := t.items ++ [item], pushed := t.pushed ++ [item] } := by
  have hoverflows : t.overflows = false := by
    simp only [BoundedQueue.overflows, hopen, Bool.not_false, Bool.true_and,
      decide_eq_false_iff_not]
    omega
  simp only [step, BoundedQueue.push_room hopen hroom, Option.map_some, hopen, hoverflows]
  simp

/-- **An overflow drops the oldest item.** -/
theorem step_push_full (hopen : t.closed = false) (hfull : t.capacity.toNat ≤ t.items.length)
    {oldest : α} {rest : List α} (hitems : t.items = oldest :: rest) (item : α) :
    t.step (.push item) =
      some
        { t with
          items := rest ++ [item]
          dropped := t.dropped + 1
          pushed := t.pushed ++ [item]
          departed := t.departed ++ [.dropped oldest] } := by
  have hoverflows : t.overflows = true := by
    simp only [BoundedQueue.overflows, hopen, Bool.not_false, Bool.true_and, decide_eq_true_eq]
    exact hfull
  simp only [step, BoundedQueue.push_full hopen hfull hitems, Option.map_some, hopen, hoverflows,
    hitems]
  simp

/-! ## The invariant -/

/-- The queue and its past agree. -/
structure Orderly (capacity : UInt64) (t : Traffic α) : Prop where
  unchanged : t.capacity = capacity
  bounded : t.items.length ≤ capacity.toNat
  /-- What has left and what is queued is what was pushed, in the same order. -/
  order : t.departed.map Departure.item ++ t.items = t.pushed
  dropped : t.dropped = UInt64.ofNat t.overflowed.length

theorem orderly_new (capacity : UInt64) : Orderly capacity (new α capacity) where
  unchanged := rfl
  bounded := Nat.zero_le _
  order := rfl
  dropped := rfl

variable {capacity : UInt64}

/-- A full queue is not empty. -/
theorem Orderly.exists_oldest (h : Orderly capacity t) (hpos : 0 < capacity)
    (hfull : t.capacity.toNat ≤ t.items.length) : ∃ oldest rest, t.items = oldest :: rest := by
  have hpos : 0 < capacity.toNat := hpos
  rw [h.unchanged] at hfull
  exact List.exists_cons_of_length_pos (by omega)

theorem Orderly.push (h : Orderly capacity t) (hpos : 0 < capacity) (item : α) :
    ∃ t', t.step (.push item) = some t' ∧ Orderly capacity t' := by
  have hcapacity := h.unchanged
  have hbounded := h.bounded
  rcases hclosed : t.closed with _ | _
  · by_cases hroom : t.items.length < t.capacity.toNat
    · refine ⟨_, step_push_room hclosed hroom item, hcapacity, ?_, ?_, h.dropped⟩
      · rw [hcapacity] at hroom
        rw [List.length_append, List.length_singleton]
        exact hroom
      · rw [← h.order, List.append_assoc]
    · have hfull := Nat.le_of_not_lt hroom
      -- the oldest item moves from the queue to those that have left it
      obtain ⟨oldest, rest, hitems⟩ := h.exists_oldest hpos hfull
      refine ⟨_, step_push_full hclosed hfull hitems item, hcapacity, ?_, ?_, ?_⟩
      · rw [hitems, List.length_cons] at hbounded
        rw [List.length_append, List.length_singleton]
        exact hbounded
      · rw [← h.order, hitems]
        simp [Departure.item]
      · show t.dropped + 1 = _
        rw [overflowed, List.filterMap_append, List.length_append, h.dropped, overflowed]
        exact (UInt64.ofNat_add _ 1).symm
  · exact ⟨t, step_push_closed hclosed item, h⟩

theorem Orderly.taken (h : Orderly capacity t) : Orderly capacity (t.taken t.take) := by
  cases hitems : t.items with
  | nil =>
    have hsame : t.taken t.take = t := by
      rw [BoundedQueue.take_nil hitems]
      simp [Traffic.taken]
    rw [hsame]
    exact h
  | cons front rest =>
    rw [BoundedQueue.take_cons hitems]
    refine ⟨h.unchanged, ?_, ?_, ?_⟩
    · have hbounded := h.bounded
      rw [hitems, List.length_cons] at hbounded
      exact Nat.le_of_succ_le hbounded
    · show _ ++ rest = t.pushed
      rw [← h.order, hitems]
      simp [Traffic.taken, Departure.item]
    · show t.dropped = UInt64.ofNat
        ((t.departed ++ [Departure.popped front]).filterMap Departure.dropped?).length
      rw [List.filterMap_append, List.length_append, h.dropped]
      rfl

/-- **No operation is undefined**, and each keeps the invariant. -/
theorem Orderly.step (h : Orderly capacity t) (hpos : 0 < capacity) (op : Op α) :
    ∃ t', t.step op = some t' ∧ Orderly capacity t' := by
  cases op with
  | push item => exact h.push hpos item
  | tryPop => exact ⟨_, rfl, h.taken⟩
  | pop timedOut =>
    by_cases hready : (timedOut || t.ready) = true
    · refine ⟨t.taken t.take, ?_, h.taken⟩
      simp only [Traffic.step, BoundedQueue.pop, hready, if_true]
    · refine ⟨t, ?_, h⟩
      rw [Bool.not_eq_true] at hready
      simp only [Traffic.step, BoundedQueue.pop, hready, Bool.false_eq_true, if_false]
  | close => exact ⟨_, rfl, h.unchanged, h.bounded, h.order, h.dropped⟩

theorem Orderly.exec (h : Orderly capacity t) (hpos : 0 < capacity) (ops : List (Op α)) :
    ∃ t', t.exec ops = some t' ∧ Orderly capacity t' := by
  induction ops generalizing t with
  | nil => exact ⟨t, rfl, h⟩
  | cons op ops ih =>
    obtain ⟨t₁, hstep, horderly⟩ := h.step hpos op
    obtain ⟨t', hexec, horderly'⟩ := ih horderly
    refine ⟨t', ?_, horderly'⟩
    rw [Traffic.exec, List.foldlM_cons, hstep]
    exact hexec

/-! ## What the queue promises -/

/-- What the documentation of `BoundedQueue` says of a queue with this past. -/
structure Kept (t : Traffic α) : Prop where
  bounded : t.size ≤ t.capacity.toNat
  /-- Popped items come in the order of the pushes, none of them twice. -/
  order : t.popped.Sublist t.pushed
  /-- What is queued is what was pushed last. -/
  newest : t.items <:+ t.pushed
  count : t.overflowed.length < 2 ^ 64 →
    t.pushed.length = t.popped.length + t.size + t.dropped.toNat
  /-- At an overflow the oldest item goes. -/
  overflow : t.overflows = true → ∀ item, ∃ oldest rest t', t.items = oldest :: rest ∧
    t.step (.push item) = some t' ∧ t'.items = rest ++ [item] ∧
      t'.overflowed = t.overflowed ++ [oldest]
  closed : t.closed = true → ∀ item, t.step (.push item) = some t
  /-- Also after `close`. -/
  drained : ∀ front rest, t.items = front :: rest →
    t.step .tryPop = some { t with items := rest, departed := t.departed ++ [.popped front] }

theorem popped_sublist (t : Traffic α) : t.popped.Sublist (t.departed.map Departure.item) := by
  unfold popped
  induction t.departed with
  | nil => exact List.Sublist.slnil
  | cons d gone ih =>
    cases d with
    | popped item => exact ih.cons_cons item
    | dropped item => exact ih.cons item

theorem departed_length (t : Traffic α) :
    t.departed.length = t.popped.length + t.overflowed.length := by
  unfold popped overflowed
  induction t.departed with
  | nil => rfl
  | cons d =>
    cases d with
    | popped | dropped =>
      simp only [Departure.popped?, Departure.dropped?, List.filterMap_cons, List.length_cons]
      omega

theorem Orderly.count (h : Orderly capacity t) (hlt : t.overflowed.length < 2 ^ 64) :
    t.pushed.length = t.popped.length + t.size + t.dropped.toNat := by
  have hlength := t.departed_length
  rw [h.dropped, UInt64.toNat_ofNat_of_lt' hlt, ← h.order, List.length_append, List.length_map,
    BoundedQueue.size]
  omega

theorem Orderly.kept (h : Orderly capacity t) (hpos : 0 < capacity) : Kept t where
  bounded := h.unchanged ▸ h.bounded
  order := by
    rw [← h.order]
    exact t.popped_sublist.trans (List.sublist_append_left _ _)
  newest := by
    rw [← h.order]
    exact List.suffix_append _ _
  count := h.count
  overflow := by
    intro hoverflows item
    simp only [BoundedQueue.overflows, Bool.and_eq_true, Bool.not_eq_true', decide_eq_true_eq]
      at hoverflows
    obtain ⟨hopen, hfull⟩ := hoverflows
    obtain ⟨oldest, rest, hitems⟩ := h.exists_oldest hpos hfull
    refine ⟨oldest, rest, _, hitems, step_push_full hopen hfull hitems item, rfl, ?_⟩
    rw [overflowed, List.filterMap_append]
    rfl
  closed := fun hclosed item => step_push_closed hclosed item
  drained := by
    intro front rest hitems
    show some (t.taken t.take) = _
    rw [BoundedQueue.take_cons hitems]
    rfl

/-- **The queue keeps the newest items in order**, in every run and for every capacity but
0: then the first push takes an item from an empty container. -/
theorem boundedQueue_keeps_the_newest (α : Type) [Inhabited α] (capacity : UInt64) :
    (∀ ops : List (Op α), ∃ t, (new α capacity).exec ops = some t ∧ Kept t) ↔ 0 < capacity := by
  constructor
  · intro h
    obtain ⟨t, hexec, -⟩ := h [.push default]
    rw [UInt64.lt_iff_toNat_lt, UInt64.toNat_zero]
    refine Nat.pos_of_ne_zero fun hzero => ?_
    -- the first push already finds the queue full, and nothing in it
    have hundefined : (new α capacity).exec [.push default] = none := by
      simp [exec, step, BoundedQueue.push, BoundedQueue.popFront, new, hzero]
    rw [hundefined] at hexec
    exact absurd hexec (by simp)
  · intro hpos ops
    obtain ⟨t, hexec, horderly⟩ := (orderly_new capacity).exec hpos ops
    exact ⟨t, hexec, horderly.kept hpos⟩

/-- A push to a queue with the capacity 0. -/
theorem push_to_no_capacity : (new ℕ 0).exec [.push 7] = none := by
  rfl

end Traffic

end LivoxMid360
