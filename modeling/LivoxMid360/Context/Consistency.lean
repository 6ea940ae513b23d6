import LivoxMid360.Context

/-!
# The registry and the dispatch agree

What holds in every configuration that a Context can reach, whatever the calls of `add`,
`bind`, `rekey` and `remove` and whatever arrives.

* No two entries share an address or a serial number.
* A datagram goes to the receiver that was registered under its address at the refresh that
  followed its reception, and counts as unknown when there was none; it does not when its
  address has been registered since before it was received.
* `datagrams` counts what has been delivered, what was unknown, and what is left of the batch
  that is being dispatched.
* Once `remove` has returned, while the Context is not stopping, no callback of its receiver
  is in progress or starts again, unless the receiver has been added again.

`Later` is the one statement about a step that the last of these rests on: what was erased
stays erased, and a new snapshot is a copy of the entries.  `registry_consistent` is the whole.
-/

namespace LivoxMid360.Context

open Concurrent (anyMove)

variable {m m' : Memory} {a : Move} {c : Config}

/-! ## The entries -/

/-- No address and no serial number twice. -/
structure Unique (es : List Entry) : Prop where
  ips : (es.map fun e => e.ip).Nodup
  serials : (es.map fun e => e.serial).Nodup

variable {es : List Entry}

theorem Unique.insert (h : Unique es) {g : Registration} (hip : ∀ e ∈ es, e.ip ≠ g.ip)
    (hserial : ∀ e ∈ es, e.serial ≠ g.serial) : Unique (es ++ [⟨g, none⟩]) where
  ips := by
    rw [List.map_append, List.nodup_append']
    refine ⟨h.ips, by simp, ?_⟩
    simpa [List.disjoint_singleton] using hip
  serials := by
    rw [List.map_append, List.nodup_append']
    refine ⟨h.serials, by simp, ?_⟩
    simpa [List.disjoint_singleton] using hserial

theorem Unique.filter (h : Unique es) (p : Entry → Bool) : Unique (es.filter p) where
  ips := h.ips.sublist (List.filter_sublist.map _)
  serials := h.serials.sublist (List.filter_sublist.map _)

theorem moveFirst_serials (r : ℕ) (ip : Ipv4) (es : List Entry) :
    (moveFirst r ip es).map (fun e => e.serial) = es.map fun e => e.serial := by
  induction es with
  | nil => rfl
  | cons e es ih =>
    unfold moveFirst
    split
    · rfl
    · rw [List.map_cons, List.map_cons, ih]

theorem receivers_moveFirst (r : ℕ) (ip : Ipv4) (es : List Entry) :
    receivers (moveFirst r ip es) = receivers es := by
  unfold receivers
  induction es with
  | nil => rfl
  | cons e es ih =>
    unfold moveFirst
    split
    · rfl
    · rw [List.map_cons, List.map_cons, ih]

variable {r : ℕ} {ip : Ipv4}

/-- The addresses after `rekey` are the old ones and the new one. -/
theorem ip_of_mem_moveFirst {e : Entry} (he : e ∈ moveFirst r ip es) :
    e.ip = ip ∨ ∃ f ∈ es, f.ip = e.ip := by
  induction es with
  | nil => exact absurd he List.not_mem_nil
  | cons f es ih =>
    unfold moveFirst at he
    split at he
    · rcases List.mem_cons.mp he with rfl | he
      · exact .inl rfl
      · exact .inr ⟨e, List.mem_cons_of_mem _ he, rfl⟩
    · rcases List.mem_cons.mp he with rfl | he
      · exact .inr ⟨e, List.mem_cons_self, rfl⟩
      · exact (ih he).imp_right fun ⟨f', hf', heq⟩ => ⟨f', List.mem_cons_of_mem _ hf', heq⟩

theorem moveFirst_ips (hip : ∀ e ∈ es, e.ip ≠ ip) (h : (es.map fun e => e.ip).Nodup) :
    ((moveFirst r ip es).map fun e => e.ip).Nodup := by
  induction es with
  | nil => exact h
  | cons e es ih =>
    rw [List.map_cons, List.nodup_cons] at h
    have hrest : ∀ f ∈ es, f.ip ≠ ip := fun f hf => hip f (List.mem_cons_of_mem _ hf)
    unfold moveFirst
    split
    · refine List.nodup_cons.mpr ⟨?_, h.2⟩
      rintro hmem
      obtain ⟨f, hf, heq⟩ := List.mem_map.mp hmem
      exact hrest f hf heq
    · refine List.nodup_cons.mpr ⟨?_, ih hrest h.2⟩
      rintro hmem
      obtain ⟨f, hf, heq⟩ := List.mem_map.mp hmem
      rcases ip_of_mem_moveFirst hf with hnew | ⟨f', hf', hold⟩
      · exact hip e List.mem_cons_self (heq.symm.trans hnew)
      · exact h.1 (List.mem_map.mpr ⟨f', hf', hold.trans heq⟩)

/-- `bind` changes no registration. -/
theorem regs_bind (r d : ℕ) (es : List Entry) :
    regs (es.map fun e => if e.receiver = r then { e with device := some d } else e) = regs es := by
  unfold regs
  rw [List.map_map]
  refine List.map_congr_left fun e _ => ?_
  rw [Function.comp_apply]
  split <;> rfl

theorem receivers_eq (es : List Entry) : receivers es = (regs es).map Registration.receiver := by
  unfold receivers regs
  rw [List.map_map]
  rfl

theorem unique_of_regs {es' : List Entry} (heq : regs es' = regs es) (h : Unique es) :
    Unique es' := by
  have key : ∀ es : List Entry, (es.map fun e => e.ip) = (regs es).map Registration.ip ∧
      (es.map fun e => e.serial) = (regs es).map Registration.serial := by
    intro es
    unfold regs
    exact ⟨(List.map_map ..).symm, (List.map_map ..).symm⟩
  refine ⟨?_, ?_⟩
  · rw [(key es').1, heq, ← (key es).1]
    exact h.ips
  · rw [(key es').2, heq, ← (key es).2]
    exact h.serials

variable {pc pc' : UserPc}

theorem Effect.unique (h : Effect m pc pc' m') (hunique : Unique m.entries) :
    Unique m'.entries := by
  cases h with
  | mutex | bump | finish => exact hunique
  | insert hip hserial => exact hunique.insert hip hserial
  | bind => exact unique_of_regs (regs_bind _ _ _) hunique
  | rekey hip =>
    refine ⟨moveFirst_ips hip hunique.ips, ?_⟩
    rw [moveFirst_serials]
    exact hunique.serials
  | erase => exact hunique.filter _

/-! ## What a step cannot undo -/

/-- What every step keeps: an erased receiver is back only by another `add`, and a new
snapshot is a copy of the entries. -/
structure Later (m m' : Memory) : Prop where
  added : ∀ r, m.added.count r ≤ m'.added.count r
  entries : ∀ r, m'.added.count r = m.added.count r → r ∉ receivers m.entries →
    r ∉ receivers m'.entries
  snapshot : m'.snapshot = m.snapshot ∧ m'.observed = m.observed ∨ m'.snapshot = m'.entries
  stop : m'.stop = false → m.stop = false
  removed : ∀ p ∈ m.removed, p ∈ m'.removed

theorem SameRegistry.later (h : SameRegistry m m') : Later m m' where
  added r := by rw [h.added]
  entries r _ hr := by rwa [h.entries]
  snapshot := .inl ⟨h.snapshot, h.observed⟩
  stop hstop := h.stop ▸ hstop
  removed p hp := by rwa [h.removed]

theorem Effect.later (h : Effect m pc pc' m') : Later m m' := by
  cases h with
  | mutex | bump =>
    exact ⟨fun _ => le_rfl, fun _ _ hr => hr, .inl ⟨rfl, rfl⟩, id, fun _ hp => hp⟩
  | @insert g =>
    refine ⟨fun r => ?_, fun r hcount hr => ?_, .inl ⟨rfl, rfl⟩, id, fun _ hp => hp⟩
    · show m.added.count r ≤ (m.added ++ [g.receiver]).count r
      rw [List.count_append]
      exact Nat.le_add_right _ _
    · have hne : g.receiver ≠ r := by
        rintro rfl
        simp [Memory.insert] at hcount
      simpa [Memory.insert, receivers, hne.symm] using hr
  | bind =>
    refine ⟨fun _ => le_rfl, fun r _ hr => ?_, .inl ⟨rfl, rfl⟩, id, fun _ hp => hp⟩
    rw [receivers_eq, regs_bind, ← receivers_eq]
    exact hr
  | rekey =>
    refine ⟨fun _ => le_rfl, fun r _ hr => ?_, .inl ⟨rfl, rfl⟩, id, fun _ hp => hp⟩
    rw [receivers_moveFirst]
    exact hr
  | erase =>
    refine ⟨fun _ => le_rfl, fun r _ hr => ?_, .inl ⟨rfl, rfl⟩, id, fun _ hp => hp⟩
    exact fun hmem => hr ((List.filter_sublist.map _).subset hmem)
  | finish =>
    refine ⟨fun _ => le_rfl, fun _ _ hr => hr, .inl ⟨rfl, rfl⟩, id, fun p hp => ?_⟩
    unfold Memory.finish
    split
    · exact hp
    · exact List.mem_append_left _ hp

theorem later_copy (m : Memory) : Later m m.copy :=
  ⟨fun _ => le_rfl, fun _ _ hr => hr, .inr rfl, id, fun _ hp => hp⟩

theorem later_stop (m : Memory) : Later m { m with stop := true } :=
  ⟨fun _ => le_rfl, fun _ _ hr => hr, .inl ⟨rfl, rfl⟩, by simp, fun _ hp => hp⟩

variable {t : Thread}

theorem later_of_step {pc pc' : Pc t} (h : program.step t a pc m = some (pc', m')) :
    Later m m' := by
  cases t with
  | receive =>
    rcases receiveStep_effect h with ⟨_, _, rfl⟩ | hsame
    · exact later_copy m
    · exact hsame.later
  | user => exact (userStep_effect h).later
  | system =>
    cases h
    exact later_stop m

/-! ## The calls of `remove` -/

/-- As long as the receiver has been added `n` times only, it is not registered, and once
`taken` it is not in the snapshot. -/
structure Erased (m : Memory) (r n : ℕ) (taken : Prop) : Prop where
  le : n ≤ m.added.count r
  entries : m.added.count r = n → r ∉ receivers m.entries
  snapshot : m.added.count r = n → taken → r ∉ receivers m.snapshot

/-- A call of `remove` after the erasure. -/
def Removing (m : Memory) : UserPc → Prop
  | .removeBump r n => Erased m r n False
  | .removeCheck r n target | .removeWait r n target => Erased m r n (target ≤ m.observed)
  | .removeUnlock r n => Erased m r n (m.stop = false)
  | _ => True

theorem Erased.later {n : ℕ} {taken taken' : Prop} (h : Erased m r n taken) (hl : Later m m')
    (htaken : m'.observed = m.observed → taken' → taken) : Erased m' r n taken' := by
  have hcount : m'.added.count r = n → m.added.count r = n := fun heq =>
    le_antisymm (heq ▸ hl.added r) h.le
  have hentries : m'.added.count r = n → r ∉ receivers m'.entries := fun heq =>
    hl.entries r (heq.trans (hcount heq).symm) (h.entries (hcount heq))
  refine ⟨h.le.trans (hl.added r), hentries, fun heq hnow => ?_⟩
  rcases hl.snapshot with ⟨hsnapshot, hobserved⟩ | hsnapshot
  · rw [hsnapshot]
    exact h.snapshot (hcount heq) (htaken hobserved hnow)
  · rw [hsnapshot]
    exact hentries heq

/-- Steps of other threads do not disturb a call of `remove`. -/
theorem Removing.later (h : Removing m pc) (hl : Later m m') : Removing m' pc := by
  cases pc with
  | removeBump => exact Erased.later h hl fun _ => id
  | removeCheck | removeWait =>
    exact Erased.later h hl fun hobserved htarget => hobserved ▸ htarget
  | removeUnlock => exact Erased.later h hl fun _ => hl.stop
  | _ => trivial

theorem erased_erase (m : Memory) (r : ℕ) : Erased (m.erase r) r (m.added.count r) False where
  le := le_rfl
  entries _ := by
    intro hmem
    obtain ⟨e, he, heq⟩ := List.mem_map.mp hmem
    exact of_decide_eq_true (List.mem_filter.mp he).2 heq
  snapshot _ := False.elim

/-- A call of `remove` waits for a snapshot that is taken after the erasure. -/
theorem removing_step (h : userStep t a pc m = some (pc', m')) (hle : m.observed ≤ m.generation)
    (hremoving : Removing m pc) : Removing m' pc' := by
  have hl := (userStep_effect h).later
  cases pc with
  | removeErase r =>
    cases h
    exact erased_erase m r
  | removeBump =>
    cases h
    -- the target is the generation that no snapshot has yet
    exact Erased.later hremoving hl fun _ htarget => Nat.not_succ_le_self _ (htarget.trans hle)
  | removeWait =>
    obtain ⟨-, rfl, rfl⟩ := Concurrent.map_lock_eq_some.mp h
    exact Erased.later hremoving hl fun hobserved htarget => hobserved ▸ htarget
  | removeCheck =>
    simp only [userStep] at h
    split at h <;> cases h
    · rename_i hdone
      refine Erased.later hremoving hl fun _ hstop => ?_
      rw [hstop] at hdone
      exact hdone.resolve_right (by simp)
    · exact Erased.later hremoving hl fun hobserved htarget => hobserved ▸ htarget
  | _ =>
    unfold userStep at h
    grind [Removing]

/-! ## The calls of `add` -/

/-- What a successful call of `add` has reached. -/
def Adding (m : Memory) : UserPc → Prop
  | .addBump g => g ∈ regs m.entries
  | .addUnlock g .kOk => g ∈ m.published
  | _ => True

theorem adding_of_holds (h : pc.holds = false) : Adding m pc := by
  cases pc <;> trivial

theorem Adding.congr (h : Adding m pc) (hentries : m'.entries = m.entries)
    (hpublished : m'.published = m.published) : Adding m' pc := by
  unfold Adding at h ⊢
  rw [hentries, hpublished]
  exact h

theorem adding_step (h : userStep t a pc m = some (pc', m')) (hadding : Adding m pc) :
    Adding m' pc' := by
  cases pc with
  | addBody g =>
    simp only [userStep] at h
    split at h
    · cases h
      trivial
    · split at h <;> cases h
      · trivial
      · show g ∈ regs (m.entries ++ [⟨g, none⟩])
        simp [regs]
  | addBump =>
    cases h
    exact hadding
  | _ =>
    unfold userStep at h
    grind [Adding]

/-! ## The receive thread -/

/-- Between a refresh and the end of the batch. -/
def ReceivePc.dispatching : ReceivePc → Bool
  | .unlock _ | .count _ | .dispatch _ | .deliver _ _ => true
  | _ => false

/-- What is left of the loop over the timers. -/
def ReceivePc.due : ReceivePc → List Entry
  | .ticks rest => rest
  | .ticking e rest => e :: rest
  | _ => []

/-- The receiver whose `tick` or `on_datagram` is running. -/
def ReceivePc.callback : ReceivePc → Option ℕ
  | .ticking e _ => some e.receiver
  | .deliver r _ => some r
  | _ => none

/-- How many datagrams of the batch are counted but not dispatched yet. -/
def ReceivePc.undispatched : ReceivePc → ℕ
  | .dispatch rest | .deliver _ rest => rest.length
  | _ => 0

structure Receiving (m : Memory) (pc : ReceivePc) : Prop where
  current : pc.dispatching = true → regs m.snapshot = m.asOf
  known : pc.dispatching = true → ∀ ip ∈ m.stable, ip ∈ m.asOf.map Registration.ip
  due : ∀ e ∈ pc.due, e ∈ m.snapshot
  callback : ∀ r ∈ pc.callback, r ∈ receivers m.snapshot
  conserved : m.datagrams = m.delivered + m.unknownSource + pc.undispatched

/-- Callers do not touch what the receive thread works from. -/
theorem Receiving.effect {upc upc' : UserPc} {pc : ReceivePc} (h : Receiving m pc)
    (heffect : Effect m upc upc' m') : Receiving m' pc := by
  cases heffect with
  | bump =>
    refine ⟨h.current, fun hpc ip hip => ?_, h.due, h.callback, h.conserved⟩
    exact h.known hpc ip (List.mem_of_mem_filter hip)
  | _ => exact ⟨h.current, h.known, h.due, h.callback, h.conserved⟩

/-- Nothing is dispatched and no callback runs. -/
theorem receiving_quiet {pc : ReceivePc} (hpc : pc.dispatching = false) (hdue : pc.due = [])
    (hcallback : pc.callback = none)
    (hconserved : m.datagrams = m.delivered + m.unknownSource + pc.undispatched) :
    Receiving m pc where
  current h := absurd h (by simp [hpc])
  known h := absurd h (by simp [hpc])
  due e he := absurd he (by simp [hdue])
  callback r hr := absurd hr (by simp [hcallback])
  conserved := hconserved

/-- `refresh` is done: the snapshot is the registry. -/
theorem receiving_refreshed (hcurrent : regs m.snapshot = m.asOf)
    (hknown : ∀ ip ∈ m.stable, ip ∈ m.asOf.map Registration.ip)
    (hconserved : m.datagrams = m.delivered + m.unknownSource) (batch : Option (List Ipv4)) :
    Receiving m (refreshed m.snapshot batch) := by
  cases batch with
  | none =>
    exact ⟨fun _ => hcurrent, fun _ => hknown, fun _ he => he,
      fun _ hr => absurd hr (by simp [refreshed, ReceivePc.callback]), hconserved⟩
  | some =>
    exact ⟨fun _ => hcurrent, fun _ => hknown, fun _ he => absurd he List.not_mem_nil,
      fun _ hr => absurd hr (by simp [refreshed, ReceivePc.callback]), hconserved⟩

/-- The loop over the timers. -/
theorem receiving_ticks {pc' : ReceivePc} {rest : List Entry}
    (h : receiveStep a (.ticks rest) m = some (pc', m')) (hreceiving : Receiving m (.ticks rest)) :
    Receiving m' pc' := by
  cases rest with
  | nil =>
    cases h
    exact receiving_quiet rfl rfl rfl hreceiving.conserved
  | cons e =>
    cases h
    refine ⟨by simp [ReceivePc.dispatching], by simp [ReceivePc.dispatching], hreceiving.due,
      fun r hr => ?_, hreceiving.conserved⟩
    cases hr
    exact List.mem_map_of_mem (hreceiving.due e List.mem_cons_self)

/-- The loop over a batch. -/
theorem receiving_dispatch {pc' : ReceivePc} {rest : List Ipv4}
    (h : receiveStep a (.dispatch rest) m = some (pc', m'))
    (hreceiving : Receiving m (.dispatch rest)) : Receiving m' pc' := by
  obtain ⟨hcurrent, hknown, hdue, hcallback, hconserved⟩ := hreceiving
  cases rest with
  | nil =>
    cases h
    exact receiving_quiet rfl rfl rfl hconserved
  | cons =>
    simp only [receiveStep] at h
    simp only [ReceivePc.undispatched, List.length_cons] at hconserved
    split at h <;> cases h
    · refine ⟨hcurrent, hknown, hdue, hcallback, ?_⟩
      simp only [ReceivePc.undispatched]
      omega
    · rename_i e hfind
      refine ⟨hcurrent, hknown, hdue, fun r hr => ?_, ?_⟩
      · cases hr
        exact List.mem_map_of_mem (List.mem_of_find?_eq_some hfind)
      · simp only [ReceivePc.undispatched]
        omega

theorem receiving_step {pc pc' : ReceivePc} (h : receiveStep a pc m = some (pc', m'))
    (hsnapshot : m.seen = m.generation → regs m.snapshot = m.published)
    (hentries : pc.holds = true → regs m.entries = m.published)
    (hstable : ∀ ip ∈ m.stable, ip ∈ m.published.map Registration.ip)
    (hreceiving : Receiving m pc) : Receiving m' pc' := by
  cases pc with
  | check =>
    cases h
    split <;> exact receiving_quiet rfl rfl rfl hreceiving.conserved
  -- the generation is as it was: the snapshot is still what is published
  | load batch =>
    simp only [receiveStep] at h
    split at h <;> cases h
    · rename_i heq
      exact receiving_refreshed (m := { m with asOf := m.published }) (hsnapshot heq.symm) hstable
        hreceiving.conserved batch
    · exact receiving_quiet rfl rfl rfl hreceiving.conserved
  | lock | stopLock =>
    obtain ⟨-, rfl, rfl⟩ := Concurrent.map_lock_eq_some.mp h
    exact receiving_quiet rfl rfl rfl hreceiving.conserved
  | copy =>
    cases h
    exact ⟨fun _ => hentries rfl, fun _ => hstable, fun _ he => absurd he List.not_mem_nil,
      fun _ hr => absurd hr (by simp [ReceivePc.callback]), hreceiving.conserved⟩
  | unlock batch =>
    cases h
    exact receiving_refreshed (m := m.unlock) (hreceiving.current rfl) (hreceiving.known rfl)
      hreceiving.conserved batch
  | ticks => exact receiving_ticks h hreceiving
  | ticking =>
    cases h
    exact ⟨by simp [ReceivePc.dispatching], by simp [ReceivePc.dispatching],
      fun f hf => hreceiving.due f (List.mem_cons_of_mem _ hf),
      fun _ hr => absurd hr (by simp [ReceivePc.callback]), hreceiving.conserved⟩
  | poll =>
    cases a with
    | recv | again =>
      cases h
      exact receiving_quiet rfl rfl rfl hreceiving.conserved
    | _ => exact absurd h (by simp [receiveStep])
  -- the whole batch is counted before the first datagram of it is dispatched
  | count batch =>
    cases h
    refine ⟨hreceiving.current, hreceiving.known, hreceiving.due, hreceiving.callback, ?_⟩
    exact congrArg (· + batch.length) hreceiving.conserved
  | dispatch => exact receiving_dispatch h hreceiving
  | deliver =>
    cases h
    exact ⟨hreceiving.current, hreceiving.known, hreceiving.due,
      fun _ hr => absurd hr (by simp [ReceivePc.callback]), hreceiving.conserved⟩
  | stopUnlock =>
    cases h
    exact receiving_quiet rfl rfl rfl hreceiving.conserved
  | done => exact absurd h (by simp [receiveStep])

theorem receiveStep_registry {pc pc' : ReceivePc} (h : receiveStep a pc m = some (pc', m')) :
    m'.entries = m.entries ∧ m'.published = m.published ∧ m'.removed = m.removed := by
  rcases receiveStep_effect h with ⟨_, _, rfl⟩ | hsame
  · exact ⟨rfl, rfl, rfl⟩
  · exact ⟨hsame.entries, hsame.published, hsame.removed⟩

/-- The snapshot that a batch is dispatched from is as of the refresh. -/
theorem receiveStep_asOf {pc pc' : ReceivePc} (h : receiveStep a pc m = some (pc', m'))
    (hbefore : pc.dispatching = false) (hafter : pc'.dispatching = true) :
    m'.asOf = m.published := by
  cases pc with
  | load =>
    simp only [receiveStep] at h
    split at h <;> cases h
    · rfl
    · exact absurd hafter (by simp [ReceivePc.dispatching])
  | copy =>
    cases h
    rfl
  | _ =>
    unfold receiveStep at h
    grind [ReceivePc.dispatching]

theorem receiveStep_stable {pc pc' : ReceivePc} (h : receiveStep a pc m = some (pc', m'))
    (hstable : ∀ ip ∈ m.stable, ip ∈ m.published.map Registration.ip) :
    ∀ ip ∈ m'.stable, ip ∈ m'.published.map Registration.ip := by
  unfold receiveStep at h
  split at h <;> grind [Memory.copy]

/-! ## The invariant -/

/-- A snapshot that carries the present generation is the registry. -/
structure Stamped (m : Memory) : Prop where
  observed : m.observed = m.seen
  seen : m.seen ≤ m.generation
  snapshot : m.seen = m.generation → regs m.snapshot = m.published

structure Invariant (c : Config) : Prop where
  unique : Unique c.mem.entries
  stamped : Stamped c.mem
  published : (∀ k, (userAt c k).between = false) → regs c.mem.entries = c.mem.published
  stable : ∀ ip ∈ c.mem.stable, ip ∈ c.mem.published.map Registration.ip
  adding : ∀ k, Adding c.mem (userAt c k)
  removing : ∀ k, Removing c.mem (userAt c k)
  removed : ∀ p ∈ c.mem.removed, Erased c.mem p.1 p.2 True
  receiving : Receiving c.mem (receiveAt c)

theorem invariant_created : Invariant created where
  unique := ⟨List.nodup_nil, List.nodup_nil⟩
  stamped := ⟨rfl, Nat.zero_le _, fun _ => rfl⟩
  published _ := rfl
  stable _ hip := absurd hip List.not_mem_nil
  adding _ := trivial
  removing _ := trivial
  removed _ hp := absurd hp List.not_mem_nil
  receiving := receiving_quiet rfl rfl rfl rfl

variable {ok : Thread → Move → Config → Prop}

theorem invariant_system (h : Invariant c) :
    Invariant ⟨Function.update c.pc .system (), { c.mem with stop := true }⟩ := by
  have hl : Later c.mem { c.mem with stop := true } := later_stop c.mem
  obtain ⟨hobserved, hseen, hsnapshot⟩ := h.stamped
  refine ⟨h.unique, ⟨hobserved, hseen, hsnapshot⟩, ?_, h.stable, ?_, ?_, ?_, ?_⟩
  · simpa using h.published
  · intro k
    rw [userAt_update_system]
    exact h.adding k
  · intro k
    rw [userAt_update_system]
    exact (h.removing k).later hl
  · intro p hp
    exact (h.removed p hp).later hl fun _ => id
  · rw [receiveAt_update_system]
    obtain ⟨hcurrent, hknown, hdue, hcallback, hconserved⟩ := h.receiving
    exact ⟨hcurrent, hknown, hdue, hcallback, hconserved⟩

/-- With the mutex, the receive thread sees the registry as of the last increment. -/
theorem published_of_holds (hreach : program.Reaches created ok c) (h : Invariant c)
    (hholds : (receiveAt c).holds = true) : regs c.mem.entries = c.mem.published := by
  refine h.published fun k => ?_
  rw [← Bool.not_eq_true]
  intro hbetween
  have huser := UserPc.holds_of_between hbetween
  rw [userAt_holds_of_receive hreach hholds k] at huser
  exact absurd huser (by simp)

theorem receiveStep_stamped {pc pc' : ReceivePc} (h : receiveStep a pc m = some (pc', m'))
    (hentries : pc.holds = true → regs m.entries = m.published) (hstamped : Stamped m) :
    Stamped m' := by
  rcases receiveStep_effect h with ⟨batch, rfl, rfl⟩ | hsame
  · exact ⟨rfl, le_rfl, fun _ => hentries rfl⟩
  · obtain ⟨hobserved, hseen, hsnapshot⟩ := hstamped
    constructor
    · rw [hsame.observed, hsame.seen, hobserved]
    · rw [hsame.seen, hsame.generation]
      exact hseen
    · rw [hsame.seen, hsame.generation, hsame.snapshot, hsame.published]
      exact hsnapshot

theorem invariant_receive (hreach : program.Reaches created ok c) (h : Invariant c)
    {pc' : ReceivePc} (hstep : receiveStep a (receiveAt c) c.mem = some (pc', m')) :
    Invariant ⟨Function.update c.pc .receive pc', m'⟩ := by
  have hl : Later c.mem m' := later_of_step (t := .receive) hstep
  have hentries : (receiveAt c).holds = true → regs c.mem.entries = c.mem.published :=
    published_of_holds hreach h
  obtain ⟨hsameEntries, hsamePublished, hsameRemoved⟩ := receiveStep_registry hstep
  refine ⟨?_, receiveStep_stamped hstep hentries h.stamped, ?_, receiveStep_stable hstep h.stable,
    ?_, ?_, ?_, ?_⟩
  · rw [hsameEntries]
    exact h.unique
  · simp only [userAt_update_receive, hsameEntries, hsamePublished]
    exact h.published
  · intro k
    rw [userAt_update_receive]
    exact (h.adding k).congr hsameEntries hsamePublished
  · intro k
    rw [userAt_update_receive]
    exact (h.removing k).later hl
  · intro p hp
    rw [hsameRemoved] at hp
    exact (h.removed p hp).later hl fun _ => id
  · rw [receiveAt_update_receive]
    exact receiving_step hstep h.stamped.snapshot hentries h.stable h.receiving

/-! ### A step of a caller -/

theorem Effect.stamped (h : Effect m pc pc' m') (hstamped : Stamped m) : Stamped m' := by
  obtain ⟨hobserved, hseen, hsnapshot⟩ := hstamped
  cases h with
  | bump =>
    -- the generation is ahead of what has been seen
    exact ⟨hobserved, hseen.trans (Nat.le_succ _),
      fun heq => absurd heq (Nat.ne_of_lt (Nat.lt_succ_of_le hseen))⟩
  | _ => exact ⟨hobserved, hseen, hsnapshot⟩

theorem Effect.stable (h : Effect m pc pc' m')
    (hstable : ∀ ip ∈ m.stable, ip ∈ m.published.map Registration.ip) :
    ∀ ip ∈ m'.stable, ip ∈ m'.published.map Registration.ip := by
  cases h with
  | bump =>
    intro ip hip
    obtain ⟨g, hg, heq⟩ := List.any_eq_true.mp (List.mem_filter.mp hip).2
    exact List.mem_map.mpr ⟨g, hg, of_decide_eq_true heq⟩
  | _ => exact hstable

/-- Outside the changes the entries are the registry. -/
theorem Effect.published (h : Effect m pc pc' m') (hpc' : pc'.between = false)
    (hpublished : pc.between = false → regs m.entries = m.published) :
    regs m'.entries = m'.published := by
  cases h with
  | mutex hbetween => exact hpublished hbetween
  | insert | rekey | erase => exact absurd hpc' (by simp [UserPc.between])
  | bind => exact (regs_bind _ _ _).trans (hpublished rfl)
  | bump => rfl
  | finish => exact hpublished rfl

/-- The calls of `remove` that have returned, when one more returns. -/
theorem Effect.removed (h : Effect m pc pc' m') (hremoving : Removing m pc)
    (hremoved : ∀ p ∈ m.removed, Erased m p.1 p.2 True) :
    ∀ p ∈ m'.removed, Erased m' p.1 p.2 True := by
  have hl := h.later
  have hold : ∀ p ∈ m.removed, Erased m' p.1 p.2 True := fun p hp =>
    (hremoved p hp).later hl fun _ => id
  cases h with
  | @finish =>
    intro p hp
    simp only [Memory.finish] at hp
    split at hp
    · exact hold p hp
    · rename_i hstop
      rcases List.mem_append.mp hp with hp | hp
      · exact hold p hp
      · obtain rfl := List.mem_singleton.mp hp
        exact Erased.later hremoving hl fun _ _ => Bool.eq_false_of_not_eq_true hstop
  | _ => exact hold

theorem invariant_user (hreach : program.Reaches created ok c) (h : Invariant c) {k : ℕ}
    (hstep : userStep (.user k) a (userAt c k) c.mem = some (pc', m')) :
    Invariant ⟨Function.update c.pc (.user k) pc', m'⟩ := by
  have heffect := userStep_effect hstep
  have hl := heffect.later
  refine ⟨heffect.unique h.unique, heffect.stamped h.stamped, ?_, heffect.stable h.stable, ?_, ?_,
    heffect.removed (h.removing k) h.removed, ?_⟩
  · intro hnone
    have hpc' := hnone k
    rw [userAt_update_self] at hpc'
    refine heffect.published hpc' fun hpc => h.published fun j => ?_
    by_cases hjk : j = k
    · rw [hjk]
      exact hpc
    · rw [← userAt_update_of_ne hjk pc']
      exact hnone j
  · intro j
    by_cases hjk : j = k
    · subst hjk
      rw [userAt_update_self]
      exact adding_step hstep (h.adding j)
    · rw [userAt_update_of_ne hjk]
      rcases heffect.holds with hholds | ⟨holder, rfl⟩
      · -- the other call does not have the mutex
        refine adding_of_holds (Bool.eq_false_of_not_eq_true fun hother => ?_)
        exact hjk (userAt_holds_unique hreach hother hholds)
      · exact (h.adding j).congr rfl rfl
  · intro j
    by_cases hjk : j = k
    · subst hjk
      rw [userAt_update_self]
      exact removing_step hstep (h.stamped.observed ▸ h.stamped.seen) (h.removing j)
    · rw [userAt_update_of_ne hjk]
      exact (h.removing j).later hl
  · rw [receiveAt_update_user]
    exact h.receiving.effect heffect

theorem invariant_of_reaches (h : program.Reaches created ok c) : Invariant c := by
  refine h.induction invariant_created fun t a c pc' m' hreach ih _ hstep => ?_
  cases t with
  | receive => exact invariant_receive hreach ih hstep
  | user => exact invariant_user hreach ih hstep
  | system =>
    cases hstep
    exact invariant_system ih

/-! ## The registry and the dispatch -/

/-- The lookup in the snapshot. -/
theorem find_eq_holderOf {gs : List Registration} (h : regs es = gs) (ip : Ipv4) :
    (es.find? fun e => e.ip = ip).map (fun e => e.receiver) = holderOf gs ip := by
  subst h
  unfold holderOf regs
  rw [List.find?_map, Option.map_map]
  rfl

theorem holderOf_ne_none {gs : List Registration} (h : ip ∈ gs.map Registration.ip) :
    holderOf gs ip ≠ none := by
  intro hnone
  obtain ⟨g, hg, rfl⟩ := List.mem_map.mp h
  have hall := List.find?_eq_none.mp (Option.map_eq_none_iff.mp hnone)
  exact hall g hg (decide_eq_true rfl)

/-- How a datagram is dispatched: to the receiver that holds its address, or as unknown. -/
def Dispatched (holder : Option ℕ) (rest : List Ipv4) (c c' : Config) : Prop :=
  match holder with
  | some r =>
    receiveAt c' = .deliver r rest ∧ c'.mem.delivered = c.mem.delivered + 1 ∧
      c'.mem.unknownSource = c.mem.unknownSource
  | none =>
    receiveAt c' = .dispatch rest ∧ c'.mem.delivered = c.mem.delivered ∧
      c'.mem.unknownSource = c.mem.unknownSource + 1

variable {c' : Config}

/-- A move of the receive thread. -/
theorem move_receive (h : program.move .receive a c = some c') :
    ∃ (pc' : ReceivePc) (m' : Memory), receiveStep a (receiveAt c) c.mem = some (pc', m') ∧
      receiveAt c' = pc' ∧ c'.mem = m' := by
  obtain ⟨pc', m', hstep, rfl⟩ := program.move_eq_some.mp h
  exact ⟨pc', m', hstep, receiveAt_update_receive pc', rfl⟩

theorem dispatched_of_move (h : Invariant c) {rest : List Ipv4}
    (hpc : receiveAt c = .dispatch (ip :: rest)) (hmove : program.move .receive a c = some c') :
    Dispatched (holderOf c.mem.asOf ip) rest c c' := by
  obtain ⟨pc', m', hstep, hpc', hmem⟩ := move_receive hmove
  have hcurrent := h.receiving.current (by rw [hpc]; rfl)
  rw [hpc] at hstep
  simp only [receiveStep] at hstep
  rw [← find_eq_holderOf hcurrent]
  split at hstep
  · rename_i hfind
    cases hstep
    rw [hfind]
    exact ⟨hpc', by rw [hmem], by rw [hmem]⟩
  · rename_i e hfind
    cases hstep
    rw [hfind]
    exact ⟨hpc', by rw [hmem], by rw [hmem]⟩

/-- A refresh makes the snapshot the registry. -/
theorem refreshed_of_move (h : program.Reaches created anyMove c)
    (hmove : program.move .receive a c = some c') (hbefore : (receiveAt c).dispatching = false)
    (hafter : (receiveAt c').dispatching = true) :
    c'.mem.asOf = c.mem.published ∧ regs c'.mem.snapshot = c.mem.published := by
  have hcurrent := (invariant_of_reaches (.step h trivial hmove)).receiving.current hafter
  obtain ⟨pc', m', hstep, rfl, rfl⟩ := move_receive hmove
  have hasOf := receiveStep_asOf hstep hbefore hafter
  exact ⟨hasOf, hcurrent.trans hasOf⟩

/-- What `remove` has returned from stays so. -/
theorem removed_mono (h : program.Reaches c ok c') : ∀ p ∈ c.mem.removed, p ∈ c'.mem.removed :=
  h.induction (I := fun c' => ∀ p ∈ c.mem.removed, p ∈ c'.mem.removed) (fun _ hp => hp)
    fun _ _ _ _ _ _ ih _ hstep p hp => (later_of_step hstep).removed p (ih p hp)

/-- After `remove` has returned there is no callback of the receiver, unless it has been
added again. -/
theorem callback_of_removed (h : Invariant c) {n : ℕ} (hremoved : (r, n) ∈ c.mem.removed)
    (hadds : c.mem.added.count r = n) : (receiveAt c).callback ≠ some r := by
  intro hcallback
  exact (h.removed (r, n) hremoved).snapshot hadds trivial (h.receiving.callback r hcallback)

/-- Registry and dispatch agree. -/
structure Consistent (c : Config) : Prop where
  /-- No two entries share an address. -/
  ips : (c.mem.entries.map fun e => e.ip).Nodup
  /-- No two entries share a serial number. -/
  serials : (c.mem.entries.map fun e => e.serial).Nodup
  /-- Where no caller is in the middle of a change, `published` is the registry. -/
  published : (∀ k, (userAt c k).between = false) → regs c.mem.entries = c.mem.published
  /-- A call of `add` that is about to return `kOk` has registered its entry. -/
  added : ∀ k g, userAt c k = .addUnlock g .kOk → g ∈ c.mem.published
  /-- A refresh makes the snapshot the registry. -/
  refreshed : ∀ a c', program.move .receive a c = some c' →
    (receiveAt c).dispatching = false → (receiveAt c').dispatching = true →
      c'.mem.asOf = c.mem.published ∧ regs c'.mem.snapshot = c.mem.published
  /-- A datagram goes to the receiver that holds its address in the registry as of the refresh
  after its reception. -/
  dispatched : ∀ ip rest, receiveAt c = .dispatch (ip :: rest) →
    ∀ a c', program.move .receive a c = some c' → Dispatched (holderOf c.mem.asOf ip) rest c c'
  /-- There is such a receiver when the address has been registered since before the
  reception. -/
  known : ∀ ip rest, receiveAt c = .dispatch (ip :: rest) → ip ∈ c.mem.stable →
    holderOf c.mem.asOf ip ≠ none
  /-- Nothing is lost and nothing is counted twice. -/
  conserved : c.mem.datagrams = c.mem.delivered + c.mem.unknownSource + (receiveAt c).undispatched
  /-- After `remove` there is no callback, now or later, until the receiver is added again. -/
  quiet : ∀ r n, (r, n) ∈ c.mem.removed → ∀ c', program.Reaches c anyMove c' →
    c'.mem.added.count r = n → (receiveAt c').callback ≠ some r

/-- **Registry and dispatch are consistent**, in every interleaving of `add`, `bind`, `rekey`
and `remove` with the receive loop. -/
theorem registry_consistent (h : program.Reaches created anyMove c) : Consistent c where
  ips := (invariant_of_reaches h).unique.ips
  serials := (invariant_of_reaches h).unique.serials
  published := (invariant_of_reaches h).published
  added k g hpc := by
    have hadding := (invariant_of_reaches h).adding k
    rw [hpc] at hadding
    exact hadding
  refreshed a c' hmove hbefore hafter := refreshed_of_move h hmove hbefore hafter
  dispatched ip rest hpc a c' hmove := dispatched_of_move (invariant_of_reaches h) hpc hmove
  known ip rest hpc hip :=
    holderOf_ne_none ((invariant_of_reaches h).receiving.known (by rw [hpc]; rfl) ip hip)
  conserved := (invariant_of_reaches h).receiving.conserved
  quiet r n hremoved c' hreach hadds :=
    callback_of_removed (invariant_of_reaches (h.trans hreach)) (removed_mono hreach _ hremoved)
      hadds

/-! ### Runs -/

/-- A call, and the steps that it takes. -/
def call (k : ℕ) (a : Move) (steps : ℕ) : List (Thread × Move) :=
  (.user k, a) :: List.replicate steps (.user k, .go)

/-- Steps of the receive thread, the first with a given move. -/
def receives (a : Move) (steps : ℕ) : List (Thread × Move) :=
  (.receive, a) :: List.replicate steps (.receive, .go)

/-- The LiDAR at 192.168.1.`d`. -/
def lidar (d : UInt8) : Registration where
  ip := ⟨192, 168, 1, d⟩
  receiver := d.toNat
  serial := String.ofList (List.replicate d.toNat 'M')

/-- LiDAR 7 is added, ticked and removed; `remove` waits for the next refresh. -/
def addedAndRemoved : List (Thread × Move) :=
  call 0 (.add (lidar 7)) 4 ++ receives .go 7 ++ call 0 (.remove 7) 4 ++ receives .again 6 ++
    List.replicate 3 (.user 0, .go)

/-- Then LiDAR 8 is added, and a batch comes from it and from an unknown one. -/
def batchDelivered : List (Thread × Move) :=
  addedAndRemoved ++ call 1 (.add (lidar 8)) 4 ++ receives (.recv [(lidar 8).ip, (lidar 9).ip]) 6

theorem registry_consistent_batchDelivered :
    ∃ c, program.Reaches created anyMove c ∧ c.mem.removed = [(7, 1)] ∧
      receiveAt c = .deliver 8 [(lidar 9).ip] ∧ Consistent c := by
  have hrun : (program.exec batchDelivered created).any (fun c =>
      decide (c.mem.removed = [(7, 1)] ∧ receiveAt c = .deliver 8 [(lidar 9).ip])) = true := by
    decide +kernel
  obtain ⟨c, hreach, hc⟩ := Concurrent.Reaches.of_exec (Concurrent.allowed_anyMove _ _) hrun
  obtain ⟨hremoved, hpc⟩ := of_decide_eq_true hc
  exact ⟨c, hreach, hremoved, hpc, registry_consistent hreach⟩

/-- LiDAR 7 is added again. -/
def addedAgain : List (Thread × Move) :=
  addedAndRemoved ++ call 1 (.add (lidar 7)) 4 ++ receives .again 6

/-- Within a batch the counters do not add up yet, and a receiver that is added again after
`remove` has returned is called again. -/
theorem counters_lag_and_receiver_returns :
    (∃ c, program.Reaches created anyMove c ∧
      c.mem.datagrams ≠ c.mem.delivered + c.mem.unknownSource) ∧
    ∃ c, program.Reaches created anyMove c ∧ c.mem.stop = false ∧ (7, 1) ∈ c.mem.removed ∧
      (receiveAt c).callback = some 7 := by
  have hbatch : (program.exec batchDelivered created).any (fun c =>
      decide (c.mem.datagrams ≠ c.mem.delivered + c.mem.unknownSource)) = true := by
    decide +kernel
  have hagain : (program.exec addedAgain created).any (fun c =>
      decide (c.mem.stop = false ∧ (7, 1) ∈ c.mem.removed ∧
        (receiveAt c).callback = some 7)) = true := by
    decide +kernel
  constructor
  · obtain ⟨c, hreach, hc⟩ := Concurrent.Reaches.of_exec (Concurrent.allowed_anyMove _ _) hbatch
    exact ⟨c, hreach, of_decide_eq_true hc⟩
  · obtain ⟨c, hreach, hc⟩ := Concurrent.Reaches.of_exec (Concurrent.allowed_anyMove _ _) hagain
    exact ⟨c, hreach, of_decide_eq_true hc⟩

end LivoxMid360.Context
