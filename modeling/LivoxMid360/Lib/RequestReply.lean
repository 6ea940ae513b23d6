import Mathlib.Data.List.Basic
import Mathlib.Data.List.Nodup
import Mathlib.Logic.Relation

/-!
# Requests and replies over an unreliable network

A client numbers its requests and sends each of them any number of times; a server answers
what it receives, and an answer carries the key of the request it answers.  The network
may deliver late, twice, in another order or not at all, and it may carry datagrams that
are no replies.

Nothing is ever taken out of the network here: the datagrams on their way to the client
stay in a list, and the client picks any of them at any time.  So delay, duplication,
reordering and loss need no rule of their own.

* `Codec` says how a request is put on the wire and which key a reply carries.
* `Exchange` is what the two sides have done, and `Exchange.Step` are the ways in which it
  grows.  The client accepts a datagram for a request when the keys agree, and looks at
  nothing else.
* `Exchange.Sound` is kept by every step (`Sound.step`) and along every run (`Sound.run`).
* `Sound.attributed`: as long as the keys of the requests are distinct, what was accepted
  for a request answers a transmission of this request.
-/

namespace RequestReply

/-- How requests `R` become datagrams `B`, and which key `K` a datagram `D` from the other
side carries, if it is a reply at all. -/
structure Codec (R B D K : Type*) where
  frame : R → Option B
  key : R → K
  answers : B → D → Prop
  replyKey : D → Option K
  replyKey_of_answers : ∀ {r b d}, frame r = some b → answers b d → replyKey d = some (key r)

/-- One datagram sent for the request with the number `request`. -/
structure Transmission (B : Type*) where
  request : ℕ
  bytes : B
  deriving DecidableEq

/-- A datagram on its way to the client, and the transmission it answers. -/
structure Inbound (B D : Type*) where
  datagram : D
  origin : Option (Transmission B)
  deriving DecidableEq

/-- What has happened so far: the requests in their order, the datagrams sent for them,
those on their way back, and which of them the client has accepted for which request. -/
structure Exchange (R B D : Type*) where
  requests : List R := []
  sent : List (Transmission B) := []
  inbound : List (Inbound B D) := []
  accepted : List (ℕ × D) := []
  deriving DecidableEq

namespace Exchange

variable {R B D K : Type*} (codec : Codec R B D K)

/-- The next request. -/
def begin (r : R) (x : Exchange R B D) : Exchange R B D :=
  { x with requests := x.requests ++ [r] }

/-- A datagram is sent for the request `k`. -/
def transmit (k : ℕ) (b : B) (x : Exchange R B D) : Exchange R B D :=
  { x with sent := x.sent ++ [⟨k, b⟩] }

/-- A datagram sets out for the client. -/
def deliver (d : D) (origin : Option (Transmission B)) (x : Exchange R B D) : Exchange R B D :=
  { x with inbound := x.inbound ++ [⟨d, origin⟩] }

/-- The client takes a datagram for the answer to the request `k`. -/
def accept (k : ℕ) (d : D) (x : Exchange R B D) : Exchange R B D :=
  { x with accepted := x.accepted ++ [(k, d)] }

/-- The steps of the client, the server and the network. -/
inductive Step (x : Exchange R B D) : Exchange R B D → Prop
  | begin (r : R) : Step x (x.begin r)
  | transmit {k : ℕ} {r : R} {b : B} (asked : x.requests[k]? = some r)
      (framed : codec.frame r = some b) : Step x (x.transmit k b)
  | answer {tr : Transmission B} {d : D} (sent : tr ∈ x.sent) (answers : codec.answers tr.bytes d) :
      Step x (x.deliver d (some tr))
  | inject {d : D} (noReply : codec.replyKey d = none) : Step x (x.deliver d none)
  | accept {k : ℕ} {r : R} {e : Inbound B D} (asked : x.requests[k]? = some r)
      (arrived : e ∈ x.inbound) (keyed : codec.replyKey e.datagram = some (codec.key r)) :
      Step x (x.accept k e.datagram)

/-- A run. -/
abbrev Run : Exchange R B D → Exchange R B D → Prop :=
  Relation.ReflTransGen (Step codec)

/-! ## The invariant -/

/-- Every datagram belongs where its record says. -/
structure Sound (x : Exchange R B D) : Prop where
  framed : ∀ tr ∈ x.sent, ∃ r, x.requests[tr.request]? = some r ∧ codec.frame r = some tr.bytes
  origin : ∀ e ∈ x.inbound, (e.origin = none ∧ codec.replyKey e.datagram = none) ∨
    ∃ tr ∈ x.sent, e.origin = some tr ∧ codec.answers tr.bytes e.datagram
  keyed : ∀ p ∈ x.accepted, ∃ r, x.requests[p.1]? = some r ∧
    codec.replyKey p.2 = some (codec.key r) ∧ ∃ e ∈ x.inbound, e.datagram = p.2

variable {codec} {x y : Exchange R B D}

/-- A request keeps its number. -/
theorem begin_getElem? {k : ℕ} {r : R} (h : x.requests[k]? = some r) (r' : R) :
    (x.begin r').requests[k]? = some r := by
  have hlt : k < x.requests.length := (List.getElem?_eq_some_iff.mp h).1
  rw [begin, List.getElem?_append_left hlt]
  exact h

theorem begin_getElem?_length (r : R) : (x.begin r).requests[x.requests.length]? = some r := by
  simp [begin]

/-- A request with a number is an earlier one or the last. -/
theorem getElem?_begin {k : ℕ} {r r' : R} (h : (x.begin r').requests[k]? = some r) :
    x.requests[k]? = some r ∨ (k = x.requests.length ∧ r = r') := by
  rw [begin, List.getElem?_append] at h
  split_ifs at h with hlt
  · exact .inl h
  · obtain ⟨hlast, hr⟩ := List.getElem?_eq_some_iff.mp h
    rw [List.length_singleton] at hlast
    rw [List.getElem_singleton] at hr
    exact .inr ⟨by omega, hr.symm⟩

namespace Sound

theorem empty : Sound codec ({} : Exchange R B D) where
  framed := by simp
  origin := by simp
  keyed := by simp

theorem begin (h : Sound codec x) (r : R) : Sound codec (x.begin r) where
  framed tr mem := by
    obtain ⟨r', hasked, hframed⟩ := h.framed tr mem
    exact ⟨r', begin_getElem? hasked r, hframed⟩
  origin := h.origin
  keyed p mem := by
    obtain ⟨r', hasked, hrest⟩ := h.keyed p mem
    exact ⟨r', begin_getElem? hasked r, hrest⟩

variable {k : ℕ}

theorem transmit (h : Sound codec x) {r : R} {b : B} (asked : x.requests[k]? = some r)
    (framed : codec.frame r = some b) : Sound codec (x.transmit k b) where
  framed tr mem := by
    rcases List.mem_append.mp mem with old | new
    · exact h.framed tr old
    · obtain rfl := List.mem_singleton.mp new
      exact ⟨r, asked, framed⟩
  origin e mem := by
    rcases h.origin e mem with foreign | ⟨tr, sent, horigin⟩
    · exact .inl foreign
    · exact .inr ⟨tr, List.mem_append_left _ sent, horigin⟩
  keyed := h.keyed

theorem deliver (h : Sound codec x) {d : D} {origin : Option (Transmission B)}
    (new : (origin = none ∧ codec.replyKey d = none) ∨
      ∃ tr ∈ x.sent, origin = some tr ∧ codec.answers tr.bytes d) :
    Sound codec (x.deliver d origin) where
  framed := h.framed
  origin e mem := by
    rcases List.mem_append.mp mem with old | last
    · exact h.origin e old
    · obtain rfl := List.mem_singleton.mp last
      exact new
  keyed p mem := by
    obtain ⟨r, hasked, hkey, e, arrived, heq⟩ := h.keyed p mem
    exact ⟨r, hasked, hkey, e, List.mem_append_left _ arrived, heq⟩

theorem accept (h : Sound codec x) {r : R} {e : Inbound B D} (asked : x.requests[k]? = some r)
    (arrived : e ∈ x.inbound) (keyed : codec.replyKey e.datagram = some (codec.key r)) :
    Sound codec (x.accept k e.datagram) where
  framed := h.framed
  origin := h.origin
  keyed p mem := by
    rcases List.mem_append.mp mem with old | last
    · exact h.keyed p old
    · obtain rfl := List.mem_singleton.mp last
      exact ⟨r, asked, keyed, e, arrived, rfl⟩

/-- One step keeps every record right. -/
theorem step (h : Sound codec x) (hstep : Step codec x y) : Sound codec y := by
  cases hstep with
  | begin r => exact h.begin r
  | transmit asked framed => exact h.transmit asked framed
  | answer sent answers => exact h.deliver (.inr ⟨_, sent, rfl, answers⟩)
  | inject noReply => exact h.deliver (.inl ⟨rfl, noReply⟩)
  | accept asked arrived keyed => exact h.accept asked arrived keyed

/-- A run keeps every record right. -/
theorem run (h : Sound codec x) (hrun : Run codec x y) : Sound codec y := by
  induction hrun with
  | refl => exact h
  | tail _ hstep ih => exact ih.step hstep

/-- All transmissions of one request are the same datagram. -/
theorem bytes_eq (h : Sound codec x) {tr tr' : Transmission B} (mem : tr ∈ x.sent)
    (mem' : tr' ∈ x.sent) (same : tr.request = tr'.request) : tr.bytes = tr'.bytes := by
  obtain ⟨r, hasked, hframed⟩ := h.framed tr mem
  obtain ⟨r', hasked', hframed'⟩ := h.framed tr' mem'
  rw [same, hasked'] at hasked
  cases hasked
  exact Option.some.inj (hframed.symm.trans hframed')

/-- **Attribution.**  With distinct keys, a datagram that was accepted for a request
answers a transmission of this request. -/
theorem attributed (h : Sound codec x) (distinct : (x.requests.map codec.key).Nodup) {d : D}
    (mem : (k, d) ∈ x.accepted) :
    ∃ tr ∈ x.sent, tr.request = k ∧ codec.answers tr.bytes d ∧ ⟨d, some tr⟩ ∈ x.inbound := by
  obtain ⟨r, hasked, hkey, ⟨d', origin⟩, arrived, heq⟩ := h.keyed _ mem
  dsimp only at hasked hkey heq
  subst heq
  rcases h.origin _ arrived with ⟨-, hnone⟩ | ⟨tr, sent, horigin, hanswers⟩
  · -- a datagram without a key matches no request
    rw [hnone] at hkey
    cases hkey
  · obtain ⟨r', hasked', hframed⟩ := h.framed tr sent
    have hsame : codec.key r' = codec.key r :=
      Option.some.inj ((codec.replyKey_of_answers hframed hanswers).symm.trans hkey)
    have hk : (x.requests.map codec.key)[k]? = some (codec.key r) := by
      rw [List.getElem?_map, hasked]
      rfl
    have htr : (x.requests.map codec.key)[tr.request]? = some (codec.key r) := by
      rw [List.getElem?_map, hasked', Option.map_some, hsame]
    have hlt : tr.request < (x.requests.map codec.key).length :=
      (List.getElem?_eq_some_iff.mp htr).1
    have hindex : tr.request = k :=
      (List.getElem?_inj hlt distinct).mp (htr.trans hk.symm)
    dsimp only at horigin
    subst horigin
    exact ⟨tr, sent, hindex, hanswers, arrived⟩

end Sound

end Exchange

end RequestReply
