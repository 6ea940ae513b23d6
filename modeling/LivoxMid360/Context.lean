import LivoxMid360.Keys
import LivoxMid360.Lib.Interleaving

/-!
# The registry of a Context and its receive thread

A Context has one receive thread for all its Devices.  It dispatches datagrams by their
source address, from a snapshot of the registry that it renews when the generation of the
registry has changed (`Context::Impl` in `context.cpp`).  Other threads add, bind, rekey and
remove entries under a mutex; `remove` then waits until the receive thread has taken a newer
snapshot, so that its caller may destroy what the entry refers to.

The machine has the receive thread, any number of other threads that make any number of
calls, and the destructor that raises `stop`.

* A critical section is several steps, so that the generation can be read between the change
  of the entries and its increment.
* Which datagrams arrive, and when a poll returns, is the move.  A wait on the condition
  variable may end at any time; it then looks at its predicate again.
* Ports, timers and payloads do not matter here and are left out.  Counters are natural
  numbers, and memory is sequentially consistent.

Six fields of the memory are not in the code: the number of calls of `on_datagram`
(`delivered`), the registry as of the last change of the generation (`published`) and as of
the last refresh (`asOf`), the addresses that have been registered all the time since the last
receive (`stable`), the receivers of the successful calls of `add` (`added`), and the calls of
`remove` that have returned while the Context was not stopping (`removed`), each with the
number of times its receiver had been added when it was erased.
-/

namespace LivoxMid360.Context

/-! ## The registry -/

/-- What an entry is registered under. -/
structure Registration where
  ip : Ipv4
  receiver : ℕ
  serial : String
  deriving DecidableEq

/-- An entry; the public handle is bound later. -/
structure Entry extends Registration where
  device : Option ℕ := none
  deriving DecidableEq

/-- The registrations of a list of entries. -/
def regs (es : List Entry) : List Registration :=
  es.map Entry.toRegistration

/-- The receivers of a list of entries. -/
def receivers (es : List Entry) : List ℕ :=
  es.map fun e => e.receiver

/-- The receiver registered under an address. -/
def holderOf (gs : List Registration) (ip : Ipv4) : Option ℕ :=
  (gs.find? fun g => g.ip = ip).map Registration.receiver

/-- `it->ip = ip`, for the first entry of a receiver. -/
def moveFirst (receiver : ℕ) (ip : Ipv4) : List Entry → List Entry
  | [] => []
  | e :: es =>
    if e.receiver = receiver then { e with ip := ip } :: es else e :: moveFirst receiver ip es

inductive AddResult
  | kOk
  | kDuplicateIp
  | kDuplicateSerial
  deriving DecidableEq

/-! ## Shared memory -/

/-- The threads; `system` is the destructor of the Context. -/
inductive Thread
  | receive
  | user (k : ℕ)
  | system
  deriving DecidableEq

structure Memory where
  mutex : Option Thread := none
  entries : List Entry := []
  generation : ℕ := 1
  observed : ℕ := 0
  stop : Bool := false
  /-- The locals `snapshot` and `seen` of the receive thread. -/
  snapshot : List Entry := []
  seen : ℕ := 0
  datagrams : ℕ := 0
  unknownSource : ℕ := 0
  /-- The calls of `on_datagram`. -/
  delivered : ℕ := 0
  published : List Registration := []
  asOf : List Registration := []
  stable : List Ipv4 := []
  added : List ℕ := []
  removed : List (ℕ × ℕ) := []

namespace Memory

/-- Take the mutex. -/
@[grind =] def lock (t : Thread) (m : Memory) : Option Memory :=
  Concurrent.lock Memory.mutex (fun m holder => { m with mutex := holder }) t m

/-- Give it back. -/
@[grind =] def unlock (m : Memory) : Memory :=
  { m with mutex := none }

/-- `entries.push_back`. -/
def insert (g : Registration) (m : Memory) : Memory :=
  { m with entries := m.entries ++ [⟨g, none⟩], added := m.added ++ [g.receiver] }

/-- `std::erase_if`. -/
def erase (receiver : ℕ) (m : Memory) : Memory :=
  { m with entries := m.entries.filter fun e => e.receiver ≠ receiver }

/-- `generation.fetch_add(1)`. -/
def bump (m : Memory) : Memory :=
  { m with
    generation := m.generation + 1
    published := regs m.entries
    stable := m.stable.filter fun ip => (regs m.entries).any fun g => g.ip = ip }

/-- The assignments of `refresh` under the mutex. -/
def copy (m : Memory) : Memory :=
  { m with
    snapshot := m.entries
    seen := m.generation
    observed := m.generation
    asOf := m.published }

/-- `remove` returns. -/
def finish (receiver adds : ℕ) (m : Memory) : Memory :=
  { m with
    mutex := none
    removed := if m.stop then m.removed else m.removed ++ [(receiver, adds)] }

end Memory

/-- What decides between the steps that a thread can take. -/
inductive Move
  | go
  | again
  | recv (ips : List Ipv4)
  | add (g : Registration)
  | bind (receiver device : ℕ)
  | rekey (receiver : ℕ) (ip : Ipv4)
  | remove (receiver : ℕ)
  deriving DecidableEq

/-! ## The receive thread -/

/-- Where the receive thread is.  `refresh` is called from the top of the loop and after a
receive, with the source addresses of the batch. -/
inductive ReceivePc
  | check
  | load (batch : Option (List Ipv4))
  | lock (batch : Option (List Ipv4))
  | copy (batch : Option (List Ipv4))
  | unlock (batch : Option (List Ipv4))
  | ticks (rest : List Entry)
  | ticking (e : Entry) (rest : List Entry)
  | poll
  | count (batch : List Ipv4)
  | dispatch (rest : List Ipv4)
  | deliver (receiver : ℕ) (rest : List Ipv4)
  | stopLock
  | stopUnlock
  | done
  deriving DecidableEq

/-- Where `refresh` returns to. -/
def refreshed (snapshot : List Entry) : Option (List Ipv4) → ReceivePc
  | none => .ticks snapshot
  | some batch => .count batch

/-- `Context::Impl::run`. -/
def receiveStep (a : Move) : ReceivePc → Memory → Option (ReceivePc × Memory)
  | .check, m => some (if m.stop then .stopLock else .load none, m)
  -- `refresh`
  | .load batch, m =>
    if m.generation = m.seen then
      some (refreshed m.snapshot batch, { m with asOf := m.published })
    else some (.lock batch, m)
  | .lock batch, m => (m.lock .receive).map (.copy batch, ·)
  | .copy batch, m => some (.unlock batch, m.copy)
  | .unlock batch, m => some (refreshed m.snapshot batch, m.unlock)
  | .ticks [], m => some (.poll, m)
  | .ticks (e :: rest), m => some (.ticking e rest, m)
  | .ticking _ rest, m => some (.ticks rest, m)
  | .poll, m =>
    match a with
    | .recv ips =>
      some (.load (some ips), { m with stable := m.published.map Registration.ip })
    | .again => some (.check, m)
    | _ => none
  | .count batch, m => some (.dispatch batch, { m with datagrams := m.datagrams + batch.length })
  | .dispatch [], m => some (.poll, m)
  | .dispatch (ip :: rest), m =>
    match m.snapshot.find? fun e => e.ip = ip with
    | none => some (.dispatch rest, { m with unknownSource := m.unknownSource + 1 })
    | some e => some (.deliver e.receiver rest, { m with delivered := m.delivered + 1 })
  | .deliver _ rest, m => some (.dispatch rest, m)
  | .stopLock, m => (m.lock .receive).map (.stopUnlock, ·)
  | .stopUnlock, m => some (.done, m.unlock)
  | .done, _ => none

/-! ## The other threads -/

/-- Where a caller is.  From the erasure on, `remove` carries the number of times its
receiver had been added. -/
inductive UserPc
  | idle
  | addLock (g : Registration)
  | addBody (g : Registration)
  | addBump (g : Registration)
  | addUnlock (g : Registration) (result : AddResult)
  | bindLock (receiver device : ℕ)
  | bindBody (receiver device : ℕ)
  | bindUnlock
  | rekeyLock (receiver : ℕ) (ip : Ipv4)
  | rekeyBody (receiver : ℕ) (ip : Ipv4)
  | rekeyBump
  | rekeyUnlock (found : Bool)
  | removeLock (receiver : ℕ)
  | removeErase (receiver : ℕ)
  | removeBump (receiver adds : ℕ)
  | removeCheck (receiver adds target : ℕ)
  | removeWait (receiver adds target : ℕ)
  | removeUnlock (receiver adds : ℕ)
  deriving DecidableEq

/-- `add`, `bind`, `rekey` and `remove`. -/
def userStep (t : Thread) (a : Move) : UserPc → Memory → Option (UserPc × Memory)
  | .idle, m =>
    match a with
    | .add g => some (.addLock g, m)
    | .bind receiver device => some (.bindLock receiver device, m)
    | .rekey receiver ip => some (.rekeyLock receiver ip, m)
    | .remove receiver => some (.removeLock receiver, m)
    | _ => none
  -- `add`
  | .addLock g, m => (m.lock t).map (.addBody g, ·)
  | .addBody g, m =>
    if m.entries.any fun e => e.ip = g.ip then some (.addUnlock g .kDuplicateIp, m)
    else if m.entries.any fun e => e.serial = g.serial then
      some (.addUnlock g .kDuplicateSerial, m)
    else some (.addBump g, m.insert g)
  | .addBump g, m => some (.addUnlock g .kOk, m.bump)
  | .addUnlock _ _, m => some (.idle, m.unlock)
  -- `bind`
  | .bindLock receiver device, m => (m.lock t).map (.bindBody receiver device, ·)
  | .bindBody receiver device, m =>
    some (.bindUnlock, { m with
      entries := m.entries.map fun e =>
        if e.receiver = receiver then { e with device := some device } else e })
  | .bindUnlock, m => some (.idle, m.unlock)
  -- `rekey`
  | .rekeyLock receiver ip, m => (m.lock t).map (.rekeyBody receiver ip, ·)
  | .rekeyBody receiver ip, m =>
    match m.entries.find? fun e => e.receiver = receiver with
    | none => some (.rekeyUnlock false, m)
    | some e =>
      if e.ip = ip then some (.rekeyUnlock true, m)
      else if m.entries.any fun e => e.ip = ip then some (.rekeyUnlock false, m)
      else some (.rekeyBump, { m with entries := moveFirst receiver ip m.entries })
  | .rekeyBump, m => some (.rekeyUnlock true, m.bump)
  | .rekeyUnlock _, m => some (.idle, m.unlock)
  -- `remove`
  | .removeLock receiver, m => (m.lock t).map (.removeErase receiver, ·)
  | .removeErase receiver, m =>
    some (.removeBump receiver (m.added.count receiver), m.erase receiver)
  | .removeBump receiver adds, m =>
    some (.removeCheck receiver adds (m.generation + 1), m.bump)
  | .removeCheck receiver adds target, m =>
    if m.observed ≥ target ∨ m.stop then some (.removeUnlock receiver adds, m)
    else some (.removeWait receiver adds target, m.unlock)
  | .removeWait receiver adds target, m => (m.lock t).map (.removeCheck receiver adds target, ·)
  | .removeUnlock receiver adds, m => some (.idle, m.finish receiver adds)

/-! ## The program -/

/-- Where each thread is. -/
def Pc : Thread → Type
  | .receive => ReceivePc
  | .user _ => UserPc
  | .system => Unit

def step : (t : Thread) → Move → Pc t → Memory → Option (Pc t × Memory)
  | .receive, a, pc, m => receiveStep a pc m
  | .user k, a, pc, m => userStep (.user k) a pc m
  | .system, _, _, m => some ((), { m with stop := true })

/-- All threads. -/
def program : Concurrent Thread Pc Memory Move where
  step := step

abbrev Config := Concurrent.Config Pc Memory

/-- `Context::create` has returned. -/
def created : Config where
  pc
    | .receive => ReceivePc.check
    | .user _ => UserPc.idle
    | .system => ()
  mem := {}

/-- Where the receive thread is. -/
def receiveAt (c : Config) : ReceivePc :=
  c.pc .receive

/-- Where a caller is. -/
def userAt (c : Config) (k : ℕ) : UserPc :=
  c.pc (.user k)

section At

variable {c : Config} {m : Memory}

@[simp] theorem receiveAt_update_receive (pc : ReceivePc) :
    receiveAt ⟨Function.update c.pc .receive pc, m⟩ = pc :=
  Function.update_self (β := Pc) .receive pc c.pc

@[simp] theorem receiveAt_update_user (k : ℕ) (pc : UserPc) :
    receiveAt ⟨Function.update c.pc (.user k) pc, m⟩ = receiveAt c :=
  rfl

@[simp] theorem receiveAt_update_system :
    receiveAt ⟨Function.update c.pc .system (), m⟩ = receiveAt c :=
  rfl

@[simp] theorem userAt_update_receive (pc : ReceivePc) (k : ℕ) :
    userAt ⟨Function.update c.pc .receive pc, m⟩ k = userAt c k :=
  rfl

@[simp] theorem userAt_update_system (k : ℕ) :
    userAt ⟨Function.update c.pc .system (), m⟩ k = userAt c k :=
  rfl

@[simp] theorem userAt_update_self (k : ℕ) (pc : UserPc) :
    userAt ⟨Function.update c.pc (.user k) pc, m⟩ k = pc :=
  Function.update_self (β := Pc) (.user k) pc c.pc

theorem userAt_update_of_ne {j k : ℕ} (h : k ≠ j) (pc : UserPc) :
    userAt ⟨Function.update c.pc (.user j) pc, m⟩ k = userAt c k :=
  Function.update_of_ne (β := Pc) (fun heq => h (Thread.user.inj heq)) pc c.pc

end At

/-! ## The mutex -/

def ReceivePc.holds : ReceivePc → Bool
  | .copy _ | .unlock _ | .stopUnlock => true
  | _ => false

def UserPc.holds : UserPc → Bool
  | .addBody _ | .addBump _ | .addUnlock _ _ => true
  | .bindBody _ _ | .bindUnlock => true
  | .rekeyBody _ _ | .rekeyBump | .rekeyUnlock _ => true
  | .removeErase _ | .removeBump _ _ | .removeCheck _ _ _ | .removeUnlock _ _ => true
  | _ => false

/-- Between a change of the entries and the increment of the generation. -/
def UserPc.between : UserPc → Bool
  | .addBump _ | .rekeyBump | .removeBump _ _ => true
  | _ => false

theorem UserPc.holds_of_between {pc : UserPc} (h : pc.between = true) : pc.holds = true := by
  cases pc <;> first | rfl | exact absurd h (by simp [UserPc.between])

/-- Where a thread has the mutex. -/
def holds : (t : Thread) → Pc t → Bool
  | .receive, pc => ReceivePc.holds pc
  | .user _, pc => UserPc.holds pc
  | .system, _ => false

section Mutex

variable {t : Thread} {a : Move} {m m' : Memory}

@[grind =] theorem holds_refreshed (snapshot : List Entry) (batch : Option (List Ipv4)) :
    (refreshed snapshot batch).holds = false := by
  cases batch <;> rfl

theorem receiveStep_mutex {pc pc' : ReceivePc} (h : receiveStep a pc m = some (pc', m')) :
    Concurrent.MutexStep .receive m.mutex m'.mutex (pc.holds = true) (pc'.holds = true) := by
  unfold receiveStep at h
  unfold Concurrent.MutexStep
  split at h <;> grind [ReceivePc.holds, Memory.copy]

theorem userStep_mutex {pc pc' : UserPc} (h : userStep t a pc m = some (pc', m')) :
    Concurrent.MutexStep t m.mutex m'.mutex (pc.holds = true) (pc'.holds = true) := by
  unfold userStep at h
  unfold Concurrent.MutexStep
  split at h <;> grind [UserPc.holds, Memory.insert, Memory.erase, Memory.bump, Memory.finish]

theorem respects_mutex : program.RespectsMutex Memory.mutex fun t pc => holds t pc = true := by
  intro t a pc m pc' m' h
  cases t with
  | receive => exact receiveStep_mutex h
  | user => exact userStep_mutex h
  | system =>
    cases h
    exact .inl ⟨rfl, Iff.rfl⟩

variable {ok : Thread → Move → Config → Prop} {c : Config}

/-- The holder of the mutex is the one thread that is where it is held. -/
theorem holds_iff (h : program.Reaches created ok c) (t : Thread) :
    holds t (c.pc t) = true ↔ c.mem.mutex = some t :=
  h.holds_iff respects_mutex rfl
    (fun t => by cases t <;> simp [created, holds, ReceivePc.holds, UserPc.holds]) t

/-- While the receive thread has the mutex, no caller does. -/
theorem userAt_holds_of_receive (h : program.Reaches created ok c)
    (hreceive : (receiveAt c).holds = true) (k : ℕ) : (userAt c k).holds = false := by
  rw [← Bool.not_eq_true]
  intro huser
  exact absurd (Concurrent.holds_unique (t := .receive) (u := .user k) (holds_iff h) hreceive huser)
    (by simp)

/-- Two callers do not have the mutex at once. -/
theorem userAt_holds_unique (h : program.Reaches created ok c) {j k : ℕ}
    (hj : (userAt c j).holds = true) (hk : (userAt c k).holds = true) : j = k :=
  Thread.user.inj (Concurrent.holds_unique (t := .user j) (u := .user k) (holds_iff h) hj hk)

end Mutex

/-! ## What a step does -/

/-- What a step of a caller does to the memory. -/
inductive Effect (m : Memory) : UserPc → UserPc → Memory → Prop
  | mutex {pc pc' : UserPc} {holder : Option Thread} (hbetween : pc.between = false) :
      Effect m pc pc' { m with mutex := holder }
  | insert {g : Registration} (hip : ∀ e ∈ m.entries, e.ip ≠ g.ip)
      (hserial : ∀ e ∈ m.entries, e.serial ≠ g.serial) :
      Effect m (.addBody g) (.addBump g) (m.insert g)
  | bind {receiver device : ℕ} :
      Effect m (.bindBody receiver device) .bindUnlock { m with
        entries := m.entries.map fun e =>
          if e.receiver = receiver then { e with device := some device } else e }
  | rekey {receiver : ℕ} {ip : Ipv4} (hip : ∀ e ∈ m.entries, e.ip ≠ ip) :
      Effect m (.rekeyBody receiver ip) .rekeyBump
        { m with entries := moveFirst receiver ip m.entries }
  | erase {receiver : ℕ} :
      Effect m (.removeErase receiver) (.removeBump receiver (m.added.count receiver))
        (m.erase receiver)
  | bump {pc pc' : UserPc} (hbetween : pc.between = true) : Effect m pc pc' m.bump
  | finish {receiver adds : ℕ} :
      Effect m (.removeUnlock receiver adds) .idle (m.finish receiver adds)

section Effect

variable {t : Thread} {a : Move} {m m' : Memory}

theorem userStep_effect {pc pc' : UserPc} (h : userStep t a pc m = some (pc', m')) :
    Effect m pc pc' m' := by
  cases pc with
  | idle =>
    have hm : m' = m := by
      unfold userStep at h
      grind
    exact hm ▸ .mutex rfl
  | addLock | bindLock | rekeyLock | removeLock | removeWait =>
    obtain ⟨-, rfl, rfl⟩ := Concurrent.map_lock_eq_some.mp h
    exact .mutex rfl
  | addBody =>
    simp only [userStep] at h
    split at h
    · cases h
      exact .mutex rfl
    · split at h <;> cases h
      · exact .mutex rfl
      · exact .insert (by simp_all) (by simp_all)
  | rekeyBody =>
    simp only [userStep] at h
    split at h
    · cases h
      exact .mutex rfl
    · split at h
      · cases h
        exact .mutex rfl
      · split at h <;> cases h
        · exact .mutex rfl
        · exact .rekey (by simp_all)
  | removeCheck =>
    simp only [userStep] at h
    split at h <;> cases h <;> exact .mutex rfl
  | addUnlock | bindUnlock | rekeyUnlock =>
    cases h
    exact .mutex rfl
  | addBump | rekeyBump | removeBump =>
    cases h
    exact .bump rfl
  | bindBody =>
    cases h
    exact .bind
  | removeErase =>
    cases h
    exact .erase
  | removeUnlock =>
    cases h
    exact .finish

/-- Only with the mutex does a caller change the memory. -/
theorem Effect.holds {pc pc' : UserPc} (h : Effect m pc pc' m') :
    pc.holds = true ∨ ∃ holder, m' = { m with mutex := holder } := by
  cases h with
  | mutex => exact .inr ⟨_, rfl⟩
  | insert | bind | rekey | erase | finish => exact .inl rfl
  | bump hbetween => exact .inl (UserPc.holds_of_between hbetween)

/-- The registry, the copy of it and what the calls of `remove` depend on are as before. -/
structure SameRegistry (m m' : Memory) : Prop where
  entries : m'.entries = m.entries
  generation : m'.generation = m.generation
  observed : m'.observed = m.observed
  stop : m'.stop = m.stop
  snapshot : m'.snapshot = m.snapshot
  seen : m'.seen = m.seen
  published : m'.published = m.published
  added : m'.added = m.added
  removed : m'.removed = m.removed

/-- The receive thread leaves the registry alone; it changes its copy in `refresh` only. -/
theorem receiveStep_effect {pc pc' : ReceivePc} (h : receiveStep a pc m = some (pc', m')) :
    (∃ batch, pc = .copy batch ∧ m' = m.copy) ∨ SameRegistry m m' := by
  cases pc with
  | copy batch =>
    cases h
    exact .inl ⟨batch, rfl, rfl⟩
  | _ =>
    unfold receiveStep at h
    right
    constructor <;> grind

end Effect

end LivoxMid360.Context
