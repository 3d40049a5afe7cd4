import Mathlib.Algebra.Order.Ring.Rat
import Mathlib.Tactic.Linarith
import PropAMM.Lib.Machine

/-! # The Python SDK's override stream

`OverridesWsSource` as a machine: a step is the code that a call or the listener task
runs between two `await`s, and the clock moves between steps. A call that a set event
has released resumes in a step of its own.
-/

namespace PropAMM.Python

/-- What `_handle_frame` makes of a message. -/
inductive FrameOutcome (S : Type) where
  /-- Not text, or not decodable. -/
  | ignored
  | applied (snapshot : S)
  /-- An exception that it does not catch. -/
  | raised (error : String)

structure OverridesWsSource (S D : Type) where
  firstFrameTimeout : ℚ
  idleTimeout : ℚ
  initial : S
  handleFrame : S → D → FrameOutcome S

/-- Where a `get_overrides` call stands. -/
inductive CallPc where
  /-- At the event, since this time. -/
  | waiting (since : ℚ)
  /-- The event was set; the coroutine has yet to resume. -/
  | released
  | returned
  | raised
  deriving DecidableEq

/-- Where a `_run` task stands. -/
inductive ListenerPc where
  | starting
  | connecting
  | receiving (deadline : ℚ)
  /-- Leaving the `async with`, with the exception that is on its way. -/
  | closingSocket (error : Option String)
  | sleeping (wakeAt : ℚ)
  /-- Returned because the source was idle. -/
  | idle
  /-- Returned because the source was closed. -/
  | stopped
  | cancelled
  /-- Ended by an exception outside its `try`. -/
  | crashed
  deriving DecidableEq

structure Listener where
  pc : ListenerPc
  backoff : ℚ
  cancelling : Bool

structure SourceState (S : Type) where
  now : ℚ
  snapshot : S
  hasFrame : Bool
  closed : Bool
  lastUse : ℚ
  lastError : Option String
  /-- The task whose handle is kept. -/
  task : Option Nat
  frameEvent : Bool
  /-- Every task created. -/
  listeners : List Listener
  calls : List CallPc

inductive ListenerStep (D : Type) where
  /-- The first step; `false` where the TLS context cannot be made. -/
  | start (ok : Bool)
  | connected
  | connectFailed (error : String)
  | message (data : D)
  | timedOut
  | disconnected (error : String)
  | socketClosed
  | awake
  | cancel

inductive SourceLabel (D : Type) where
  | advance (elapsed : ℚ)
  | getOverrides
  | resume (call : Nat)
  | timeout (call : Nat)
  | listener (i : Nat) (a : ListenerStep D)
  | close

inductive SourceEvent (S : Type) where
  | returned (call : Nat) (snapshot : S)
  | raisedClosed (call : Nat)
  | raisedTimeout (call : Nat) (detail : Option String)
  | frameHandled
  | idleExit

def reconnectInitial : ℚ := 1
def reconnectMax : ℚ := 30

/-- `task.done()` -/
def Listener.done (l : Listener) : Bool :=
  match l.pc with
  | .idle | .stopped | .cancelled | .crashed => true
  | _ => false

/-- `event.set()` releases whoever waits. -/
def CallPc.release : CallPc → CallPc
  | waiting _ => released
  | pc => pc

namespace OverridesWsSource

variable {S D : Type} (src : OverridesWsSource S D)

def startState : SourceState S where
  now := 0
  snapshot := src.initial
  hasFrame := false
  closed := false
  lastUse := 0
  lastError := none
  task := none
  frameEvent := false
  listeners := []
  calls := []

def idleRemaining (s : SourceState S) : ℚ := src.idleTimeout - (s.now - s.lastUse)

/-- The kept handle is of a task that is not done. -/
def running (s : SourceState S) : Bool :=
  (s.task.bind fun i => s.listeners[i]?).any fun l => !l.done

def ensureRunning (s : SourceState S) : SourceState S :=
  if running s then s
  else { s with
    frameEvent := false
    task := some s.listeners.length
    listeners :=
      s.listeners ++ [{ pc := .starting, backoff := reconnectInitial, cancelling := false }] }

def getOverrides (s : SourceState S) : SourceState S × List (SourceEvent S) :=
  let call := s.calls.length
  if s.closed then ({ s with calls := s.calls ++ [.raised] }, [.raisedClosed call])
  else
    let s := ensureRunning { s with lastUse := s.now }
    if s.hasFrame then ({ s with calls := s.calls ++ [.returned] }, [.returned call s.snapshot])
    else ({ s with calls := s.calls ++ [if s.frameEvent then .released else .waiting s.now] }, [])

/-- After the wait. -/
def resume (s : SourceState S) (call : Nat) : SourceState S × List (SourceEvent S) :=
  if s.closed then ({ s with calls := s.calls.set call .raised }, [.raisedClosed call])
  else ({ s with calls := s.calls.set call .returned }, [.returned call s.snapshot])

def close (s : SourceState S) : SourceState S :=
  { s with
    closed := true
    frameEvent := true
    calls := s.calls.map CallPc.release
    task := none
    listeners := match s.task with
      | some i => s.listeners.modify i fun l => { l with cancelling := true }
      | none => s.listeners }

/-- The code after the outer loop. -/
def exit (s : SourceState S) (l : Listener) : SourceState S × Listener × List (SourceEvent S) :=
  ({ s with hasFrame := false }, { l with pc := if s.closed then .stopped else .idle },
    if s.closed then [] else [.idleExit])

/-- The condition of the outer loop. -/
def reconnect (s : SourceState S) (l : Listener) :
    SourceState S × Listener × List (SourceEvent S) :=
  if s.closed ∨ src.idleRemaining s ≤ 0 then exit s l else (s, { l with pc := .connecting }, [])

/-- The condition of the inner loop, and the wait for a message. -/
def receive (s : SourceState S) (l : Listener) : Listener :=
  if s.closed ∨ src.idleRemaining s ≤ 0 then { l with pc := .closingSocket none }
  else { l with pc := .receiving (s.now + src.idleRemaining s) }

/-- The code between the `try` and the sleep. -/
def backOff (s : SourceState S) (l : Listener) : SourceState S × Listener × List (SourceEvent S) :=
  if s.closed ∨ src.idleRemaining s ≤ 0 then exit s l
    else (s, { l with pc := .sleeping (s.now + l.backoff) }, [])

def listenerStep (s : SourceState S) (l : Listener) (a : ListenerStep D) :
    Option (SourceState S × Listener × List (SourceEvent S)) :=
  match l.pc, a with
  | _, .cancel =>
      if l.cancelling ∧ l.done = false then some (s, { l with pc := .cancelled }, []) else none
  | .starting, .start false => some (s, { l with pc := .crashed }, [])
  | .starting, .start true => some (src.reconnect s l)
  | .connecting, .connected => some (s, src.receive s { l with backoff := reconnectInitial }, [])
  | .connecting, .connectFailed error => some (src.backOff { s with lastError := some error } l)
  | .receiving _, .message data =>
    match src.handleFrame s.snapshot data with
    | .ignored => some (s, src.receive s l, [])
    | .raised error => some (s, { l with pc := .closingSocket (some error) }, [])
    | .applied snapshot =>
      let s :=
        { s with
          snapshot, hasFrame := true, frameEvent := true, calls := s.calls.map CallPc.release }
      some (s, src.receive s l, [.frameHandled])
  | .receiving deadline, .timedOut =>
      if deadline ≤ s.now then some (s, src.receive s l, []) else none
  | .receiving _, .disconnected error => some (s, { l with pc := .closingSocket (some error) }, [])
  | .closingSocket error, .socketClosed =>
      some (src.backOff { s with lastError := error.or s.lastError } l)
  | .sleeping wakeAt, .awake =>
      if wakeAt ≤ s.now then
        some (src.reconnect s { l with backoff := min (l.backoff * 2) reconnectMax })
      else none
  | _, _ => none

def step (s : SourceState S) : SourceLabel D → Option (SourceState S × List (SourceEvent S))
  | .advance elapsed => if 0 ≤ elapsed then some ({ s with now := s.now + elapsed }, []) else none
  | .getOverrides => some (getOverrides s)
  | .resume call => if s.calls[call]? = some .released then some (resume s call) else none
  | .timeout call =>
    match s.calls[call]? with
    | some (.waiting since) =>
      if since + src.firstFrameTimeout ≤ s.now then
        some ({ s with calls := s.calls.set call .raised }, [.raisedTimeout call s.lastError])
      else none
    | _ => none
  | .listener i a => s.listeners[i]?.bind fun l => (src.listenerStep s l a).map fun r =>
    ({ r.1 with listeners := s.listeners.set i r.2.1 }, r.2.2)
  | .close => some (close s, [])

/-- Every order of calls, messages, disconnects and clock advances. -/
def machine : Machine (SourceState S) (SourceLabel D) (SourceEvent S) where
  start := src.startState
  step := src.step

end OverridesWsSource

/-! ## What a listener's step does -/

variable {S D : Type}

/-- The steps that may take the listener out of its loops. -/
def ListenerStep.Ends : ListenerStep D → Prop
  | start _ | connectFailed _ | socketClosed | awake => True
  | _ => False

namespace OverridesWsSource

variable (src : OverridesWsSource S D)

inductive Moved (s : SourceState S) (l : Listener) (a : ListenerStep D) :
    SourceState S → Listener → List (SourceEvent S) → Prop
  | quiet {s' l'} : s' = { s with lastError := s'.lastError } → (l'.done = true → l'.pc ≠ .idle) →
      Moved s l a s' l' []
  | frame {s' l'} :
      s' =
        { s with
          snapshot := s'.snapshot, hasFrame := true, frameEvent := true,
          calls := s.calls.map CallPc.release } →
        l'.done = false → Moved s l a s' l' [.frameHandled]
  | idle {s' l'} : a.Ends → s.closed = false → src.idleRemaining s ≤ 0 →
      s' = { s with hasFrame := false, lastError := s'.lastError } → l'.pc = .idle →
      Moved s l a s' l' [.idleExit]
  | stopped {s' l'} : s.closed = true →
      s' = { s with hasFrame := false, lastError := s'.lastError } →
      l'.pc = .stopped → Moved s l a s' l' []

variable {src}

theorem receive_done (s : SourceState S) (l : Listener) : (src.receive s l).done = false := by
  unfold receive
  split <;> rfl

theorem moved_exit {s : SourceState S} {l : Listener} {a : ListenerStep D} (error : Option String)
    (l' : Listener) (ends : a.Ends) (isIdle : s.closed = true ∨ src.idleRemaining s ≤ 0) :
    src.Moved s l a (exit { s with lastError := error } l').1
      (exit { s with lastError := error } l').2.1 (exit { s with lastError := error } l').2.2 := by
  by_cases isClosed : s.closed = true
  · have stopped : exit { s with lastError := error } l'
        = ({ s with lastError := error, hasFrame := false }, { l' with pc := .stopped }, []) := by
      simp [exit, isClosed]
    rw [stopped]
    exact .stopped isClosed rfl rfl
  · have idle : exit { s with lastError := error } l'
        = ({ s with lastError := error, hasFrame := false }, { l' with pc := .idle },
          [.idleExit]) := by
      simp [exit, isClosed]
    rw [idle]
    exact .idle ends (Bool.not_eq_true _ ▸ isClosed) (isIdle.resolve_left isClosed) rfl rfl

theorem moved_reconnect {s s' : SourceState S} {l l₀ l' : Listener} {a : ListenerStep D}
    {events : List (SourceEvent S)} (ends : a.Ends)
    (after : src.reconnect s l₀ = (s', l', events)) : src.Moved s l a s' l' events := by
  unfold reconnect at after
  split at after
  · rename_i isIdle
    have moved := moved_exit (l := l) s.lastError l₀ ends isIdle
    rw [after] at moved
    exact moved
  · cases after
    exact .quiet rfl fun done => by cases done

theorem moved_backOff {s s' : SourceState S} {l l₀ l' : Listener} {a : ListenerStep D}
    {events : List (SourceEvent S)} {error : Option String} (ends : a.Ends)
    (after : src.backOff { s with lastError := error } l₀ = (s', l', events)) :
    src.Moved s l a s' l' events := by
  unfold backOff at after
  split at after
  · rename_i isIdle
    have moved := moved_exit (s := s) (l := l) error l₀ ends isIdle
    rw [after] at moved
    exact moved
  · cases after
    exact .quiet rfl fun done => by cases done

theorem listenerStep_moved {s s' : SourceState S} {l l' : Listener} {a : ListenerStep D}
    {events : List (SourceEvent S)} (step : src.listenerStep s l a = some (s', l', events)) :
    l.done = false ∧ src.Moved s l a s' l' events := by
  have receives : ∀ l₀ : Listener, (src.receive s l₀).done = true →
      (src.receive s l₀).pc ≠ .idle := by
    intro l₀ done
    exact absurd ((receive_done s l₀).symm.trans done) Bool.false_ne_true
  unfold listenerStep at step
  split at step
  -- cancel
  · obtain ⟨⟨_, undone⟩, after⟩ := Option.ite_none_right_eq_some.mp step
    cases after
    exact ⟨undone, .quiet rfl fun _ => ListenerPc.noConfusion⟩
  -- start
  · rename_i at_pc
    cases step
    exact ⟨by simp [Listener.done, at_pc], .quiet rfl fun _ => ListenerPc.noConfusion⟩
  · rename_i at_pc
    exact ⟨by simp [Listener.done, at_pc], moved_reconnect trivial (Option.some.inj step)⟩
  -- connected, connectFailed
  · rename_i at_pc
    cases step
    exact ⟨by simp [Listener.done, at_pc], .quiet rfl (receives _)⟩
  · rename_i at_pc
    exact ⟨by simp [Listener.done, at_pc], moved_backOff trivial (Option.some.inj step)⟩
  -- message
  · rename_i at_pc
    refine ⟨by simp [Listener.done, at_pc], ?_⟩
    split at step
    · cases step
      exact .quiet rfl (receives _)
    · cases step
      exact .quiet rfl fun _ => ListenerPc.noConfusion
    · cases step
      exact .frame rfl (receive_done _ _)
  -- timedOut
  · rename_i at_pc
    obtain ⟨_, after⟩ := Option.ite_none_right_eq_some.mp step
    cases after
    exact ⟨by simp [Listener.done, at_pc], .quiet rfl (receives _)⟩
  -- disconnected, socketClosed
  · rename_i at_pc
    cases step
    exact ⟨by simp [Listener.done, at_pc], .quiet rfl fun _ => ListenerPc.noConfusion⟩
  · rename_i at_pc
    exact ⟨by simp [Listener.done, at_pc], moved_backOff trivial (Option.some.inj step)⟩
  -- awake
  · rename_i at_pc
    obtain ⟨_, after⟩ := Option.ite_none_right_eq_some.mp step
    exact ⟨by simp [Listener.done, at_pc], moved_reconnect trivial (Option.some.inj after)⟩
  · cases step

/-! ## What holds until the source is closed -/

variable (src) in
structure Watched (s : SourceState S) : Prop where
  clock : s.lastUse ≤ s.now
  kept : ∀ since, .waiting since ∈ s.calls → ∃ i l, s.task = some i ∧ s.listeners[i]? = some l
  early : ∀ since, .waiting since ∈ s.calls → since ≤ s.lastUse
  /-- A listener that was idle was so for the whole timeout of every call that waits. -/
  late : ∀ i l since, s.task = some i → s.listeners[i]? = some l → l.pc = .idle →
    .waiting since ∈ s.calls →
    since + src.idleTimeout ≤ s.now
  /-- Only the task whose handle is kept may be running. -/
  single : ∀ i l, s.listeners[i]? = some l → l.done = false → s.task = some i
  buffered : ∀ i l, s.task = some i → s.listeners[i]? = some l → l.done = false →
    s.frameEvent = true →
    s.hasFrame = true

theorem Watched.fewer {s : SourceState S} (h : src.Watched s) {calls : List CallPc}
    (waiting : ∀ since, .waiting since ∈ calls → .waiting since ∈ s.calls) :
    src.Watched { s with calls } where
  clock := h.clock
  kept since waits := h.kept since (waiting since waits)
  early since waits := h.early since (waiting since waits)
  late i l since task at_i idle waits := h.late i l since task at_i idle (waiting since waits)
  single := h.single
  buffered := h.buffered

theorem waiting_set {calls : List CallPc} {i : Nat} {pc : CallPc}
    (settled : ∀ since, pc ≠ .waiting since) :
    ∀ since, .waiting since ∈ calls.set i pc → .waiting since ∈ calls := by
  intro since member
  cases List.mem_or_eq_of_mem_set member with
  | inl old => exact old
  | inr new => exact absurd new.symm (settled since)

theorem not_waiting_release {calls : List CallPc} {since : ℚ} :
    .waiting since ∉ calls.map CallPc.release := by
  intro member
  obtain ⟨pc, _, same⟩ := List.mem_map.mp member
  cases pc <;> cases same

theorem Watched.advance {s : SourceState S} (h : src.Watched s) {elapsed : ℚ}
    (forward : 0 ≤ elapsed) : src.Watched { s with now := s.now + elapsed } where
  clock := by
    have := h.clock
    show s.lastUse ≤ s.now + elapsed
    linarith
  kept := h.kept
  early := h.early
  late i l since task at_i idle waits := by
    have := h.late i l since task at_i idle waits
    show since + src.idleTimeout ≤ s.now + elapsed
    linarith
  single := h.single
  buffered := h.buffered

theorem running_iff {s : SourceState S} :
    running s = true ↔ ∃ i l, s.task = some i ∧ s.listeners[i]? = some l ∧ l.done = false := by
  unfold running
  rw [Option.any_eq_true]
  simp only [Option.bind_eq_some_iff, Bool.not_eq_true']
  grind

/-- After `_ensure_running` the kept task runs, and an event still set means a frame. -/
theorem Watched.ensureRunning {s : SourceState S} (h : src.Watched s) :
    let s' := ensureRunning { s with lastUse := s.now }
    src.Watched s' ∧ (∃ i l, s'.task = some i ∧ s'.listeners[i]? = some l ∧ l.done = false)
      ∧ (s'.frameEvent = true → s'.hasFrame = true)
      ∧ s'.closed = s.closed ∧ s'.hasFrame = s.hasFrame
      ∧ s'.calls = s.calls ∧ s'.lastUse = s.now ∧ s'.now = s.now := by
  intro s'
  have same : running { s with lastUse := s.now } = running s := rfl
  by_cases isRunning : running s = true
  · have kept : s' = { s with lastUse := s.now } := if_pos (same.trans isRunning)
    obtain ⟨i, l, task, at_i, undone⟩ := running_iff.mp isRunning
    rw [kept]
    refine ⟨⟨le_refl _, h.kept, ?_, h.late, h.single, h.buffered⟩, ⟨i, l, task, at_i, undone⟩, ?_,
      rfl, rfl, rfl, rfl, rfl⟩
    · intro since waits
      exact (h.early since waits).trans h.clock
    · exact h.buffered i l task at_i undone
  · have created : s' = { s with
        lastUse := s.now
        frameEvent := false
        task := some s.listeners.length
        listeners :=
          s.listeners ++
            [{ pc := .starting, backoff := reconnectInitial, cancelling := false }] } :=
      if_neg isRunning
    have newest :
        (s.listeners ++
          [({ pc := .starting, backoff := reconnectInitial, cancelling := false } :
            Listener)])[s.listeners.length]? =
              some { pc := .starting, backoff := reconnectInitial, cancelling := false } :=
                List.getElem?_concat_length
    rw [created]
    refine ⟨⟨le_refl _, ?_, ?_, ?_, ?_, ?_⟩, ⟨_, _, rfl, newest, rfl⟩, ?_, rfl, rfl, rfl, rfl, rfl⟩
    · intro since _
      exact ⟨_, _, rfl, newest⟩
    · intro since waits
      exact (h.early since waits).trans h.clock
    · intro i l since task at_i idle
      cases task
      cases newest.symm.trans at_i
      cases idle
    · intro i l at_i undone
      by_cases old : i < s.listeners.length
      · have at_old : s.listeners[i]? = some l := (List.getElem?_append_left old).symm.trans at_i
        exact absurd (running_iff.mpr ⟨i, l, h.single i l at_old undone, at_old, undone⟩) isRunning
      · have within := (List.getElem?_eq_some_iff.mp at_i).1
        rw [List.length_append, List.length_singleton] at within
        exact congrArg some (by omega)
    · intro _ _ _ _ _ set
      cases set
    · intro set
      cases set

theorem Watched.getOverrides {s : SourceState S} (h : src.Watched s) (isOpen : s.closed = false) :
    src.Watched (getOverrides s).1 := by
  obtain ⟨watched, ⟨i, l, task, at_i, undone⟩, buffered, _, _, calls, lastUse, now⟩ :=
    h.ensureRunning
  unfold OverridesWsSource.getOverrides
  rw [if_neg (by simp [isOpen])]
  simp only
  split
  · apply watched.fewer
    intro since waits
    simpa using waits
  · rename_i unframed
    rw [if_neg fun set => unframed (buffered set)]
    refine ⟨watched.clock, fun _ _ => ⟨i, l, task, at_i⟩, ?_, ?_, watched.single, watched.buffered⟩
    · intro since waits
      cases List.mem_append.mp waits with
      | inl old => exact watched.early since old
      | inr new =>
          cases List.mem_singleton.mp new
          exact (now.trans lastUse.symm).le
    · intro j l' since task' at_j idle _
      cases task.symm.trans task'
      cases at_i.symm.trans at_j
      simp [Listener.done, idle] at undone

theorem Watched.listener {s s' : SourceState S} {i : Nat} {l l' : Listener} {a : ListenerStep D}
    {events : List (SourceEvent S)} (h : src.Watched s) (isOpen : s.closed = false)
    (at_i : s.listeners[i]? = some l) (step : src.listenerStep s l a = some (s', l', events)) :
    src.Watched { s' with listeners := s.listeners.set i l' } := by
  obtain ⟨undone, moved⟩ := listenerStep_moved step
  have task := h.single i l at_i undone
  have within : i < s.listeners.length := (List.getElem?_eq_some_iff.mp at_i).1
  have here : (s.listeners.set i l')[i]? = some l' := List.getElem?_set_self within
  have kept : ∀ since, .waiting since ∈ s.calls → ∃ j k, s.task = some j ∧
      (s.listeners.set i l')[j]? = some k :=
    fun _ _ => ⟨i, l', task, here⟩
  have single : ∀ j k, (s.listeners.set i l')[j]? = some k → k.done = false → s.task = some j := by
    intro j k at_j undone_k
    by_cases same : i = j
    · exact same ▸ task
    · rw [List.getElem?_set_ne same] at at_j
      exact h.single j k at_j undone_k
  -- what is asked of the kept task is asked of `l'`
  have only : ∀ {j k}, s.task = some j → (s.listeners.set i l')[j]? = some k → k = l' := by
    intro j k task' at_j
    cases task.symm.trans task'
    exact (Option.some.inj (here.symm.trans at_j)).symm
  cases moved with
  | quiet after quiet =>
      rw [after]
      refine ⟨h.clock, kept, h.early, ?_, single, ?_⟩
      · intro j k since task' at_j idle _
        cases only task' at_j
        exact absurd idle (quiet (by simp [Listener.done, idle]))
      · intro j k task' at_j _ set
        exact h.buffered i l task at_i undone set
  | frame after running =>
      rw [after]
      refine ⟨h.clock, ?_, ?_, ?_, single, fun _ _ _ _ _ _ => rfl⟩
      · intro since waits
        exact absurd waits not_waiting_release
      · intro since waits
        exact absurd waits not_waiting_release
      · intro j k since _ _ _ waits
        exact absurd waits not_waiting_release
  | idle ends _ elapsed after at_idle =>
      rw [after]
      refine ⟨h.clock, kept, h.early, ?_, single, ?_⟩
      · intro j k since _ _ _ waits
        have := h.early since waits
        unfold idleRemaining at elapsed
        show since + src.idleTimeout ≤ s.now
        linarith
      · intro j k task' at_j undone_k
        cases only task' at_j
        simp [Listener.done, at_idle] at undone_k
  | stopped isClosed => exact absurd (isOpen.symm.trans isClosed) Bool.false_ne_true

theorem ensureRunning_closed (s : SourceState S) : (ensureRunning s).closed = s.closed := by
  unfold ensureRunning
  split <;> rfl

theorem getOverrides_closed (s : SourceState S) : (getOverrides s).1.closed = s.closed := by
  unfold getOverrides
  split
  · rfl
  · simp only
    split <;> exact ensureRunning_closed _

theorem Moved.closed {s s' : SourceState S} {l l' : Listener} {a : ListenerStep D}
    {events : List (SourceEvent S)} (moved : src.Moved s l a s' l' events) :
    s'.closed = s.closed := by
  cases moved with
  | quiet after | frame after | idle _ _ _ after | stopped _ after => rw [after]

theorem Watched.step {s s' : SourceState S} {label : SourceLabel D} {events : List (SourceEvent S)}
    (h : s.closed = false → src.Watched s) (step : src.machine.step s label = some (s', events)) :
    s'.closed = false → src.Watched s' := by
  intro isOpen
  cases label with
  | advance elapsed =>
      obtain ⟨forward, after⟩ := Option.ite_none_right_eq_some.mp step
      cases after
      exact (h isOpen).advance forward
  | getOverrides =>
      have after : (OverridesWsSource.getOverrides s).1 = s' :=
        congrArg Prod.fst (Option.some.inj step)
      rw [← after, getOverrides_closed] at isOpen
      exact after ▸ (h isOpen).getOverrides isOpen
  | resume call =>
      obtain ⟨_, resumed⟩ := Option.ite_none_right_eq_some.mp step
      have after : (OverridesWsSource.resume s call).1 = s' :=
        congrArg Prod.fst (Option.some.inj resumed)
      subst after
      unfold OverridesWsSource.resume at isOpen ⊢
      split at isOpen
      · rename_i isClosed
        exact absurd (isClosed.symm.trans isOpen) Bool.false_ne_true.symm
      · rename_i unclosed
        rw [if_neg unclosed]
        exact (h isOpen).fewer (waiting_set fun _ => CallPc.noConfusion)
  | timeout call =>
      unfold machine OverridesWsSource.step at step
      simp only at step
      split at step
      · obtain ⟨_, after⟩ := Option.ite_none_right_eq_some.mp step
        cases after
        exact (h isOpen).fewer (waiting_set fun _ => CallPc.noConfusion)
      · cases step
  | listener i a =>
      obtain ⟨l, at_i, moved⟩ := Option.bind_eq_some_iff.mp step
      obtain ⟨⟨next, l', given⟩, stepped, after⟩ := Option.map_eq_some_iff.mp moved
      cases after
      have same : next.closed = s.closed := (listenerStep_moved stepped).2.closed
      have unclosed : s.closed = false := same.symm.trans isOpen
      exact (h unclosed).listener unclosed at_i stepped
  | close =>
      cases step
      cases isOpen

theorem watched_start : src.Watched src.startState where
  clock := le_refl _
  kept since waits := by cases waits
  early since waits := by cases waits
  late i l since task := by cases task
  single i l at_i := by cases at_i
  buffered i l task := by cases task

theorem watched {C : SourceState S → SourceLabel D → Prop} {labels : List (SourceLabel D)}
    {s : SourceState S} {trace : List (SourceEvent S)}
    (run : src.machine.RunsWhere C labels s trace) : s.closed = false → src.Watched s := by
  apply run.invariant (I := fun s => s.closed = false → src.Watched s)
  · exact fun _ => watched_start
  · intro s a s' events h _ step
    exact Watched.step h step

end OverridesWsSource

/-! ## A waiting call and the idle listener -/

/-- While not closed, whoever waits within the first-frame timeout has a listener that did not
return for idleness. -/
def SourceState.Attended (firstFrameTimeout : ℚ) (s : SourceState S) : Prop :=
  s.closed = false → ∀ since, .waiting since ∈ s.calls → s.now < since + firstFrameTimeout →
    ∃ i l, s.task = some i ∧ s.listeners[i]? = some l ∧ l.pc ≠ .idle

namespace OverridesWsSource

variable {src : OverridesWsSource S D}

theorem attended {labels : List (SourceLabel D)} {s : SourceState S} {trace : List (SourceEvent S)}
    (longer : src.firstFrameTimeout ≤ src.idleTimeout) (run : src.machine.Runs labels s trace) :
    s.Attended src.firstFrameTimeout := by
  intro isOpen since waits within
  have h := watched run isOpen
  obtain ⟨i, l, task, at_i⟩ := h.kept since waits
  refine ⟨i, l, task, at_i, ?_⟩
  intro idle
  have := h.late i l since task at_i idle waits
  linarith

variable (src) in
/-- A call waits, the idle timeout passes, and the listener finds it passed. -/
def idleState : SourceState S where
  now := src.idleTimeout
  snapshot := src.initial
  hasFrame := false
  closed := false
  lastUse := 0
  lastError := none
  task := some 0
  frameEvent := false
  listeners := [{ pc := .idle, backoff := reconnectInitial, cancelling := false }]
  calls := [.waiting 0]

theorem idle_run (nonneg : 0 ≤ src.idleTimeout) :
    src.machine.Runs [.getOverrides, .advance src.idleTimeout, .listener 0 (.start true)]
      src.idleState [.idleExit] := by
  apply Machine.runs_of_run
  simp [Machine.run, machine, step, startState, getOverrides, ensureRunning, running, nonneg,
    listenerStep, reconnect, idleRemaining, exit, idleState]

theorem not_attended (shorter : src.idleTimeout < src.firstFrameTimeout) :
    ¬ src.idleState.Attended src.firstFrameTimeout := by
  intro attended
  obtain ⟨i, l, task, at_i, notIdle⟩ :=
    attended rfl 0 (by simp [idleState]) (by simpa [idleState] using shorter)
  cases task
  cases at_i
  exact notIdle rfl

end OverridesWsSource

/-! ## After an idle exit -/

namespace SourceEvent

def IsIdleExit : SourceEvent S → Prop
  | idleExit => True
  | _ => False

def IsFrame : SourceEvent S → Prop
  | frameHandled => True
  | _ => False

def IsReturned : SourceEvent S → Prop
  | returned _ _ => True
  | _ => False

def IsRaised : SourceEvent S → Prop
  | raisedClosed _ | raisedTimeout _ _ => True
  | _ => False

end SourceEvent

namespace OverridesWsSource

variable (src : OverridesWsSource S D)

/-- No listener returns for idleness while a released call has yet to resume. -/
def ResumedFirst (s : SourceState S) : SourceLabel D → Prop
  | .listener _ a => a.Ends → s.closed = false → src.idleRemaining s ≤ 0 → .released ∉ s.calls
  | _ => True

/-- Nothing has become returnable. -/
def Withheld (s s' : SourceState S) : Prop :=
  s.closed = false → s'.closed = true ∨ s'.hasFrame = s.hasFrame ∧
    (.released ∈ s'.calls → .released ∈ s.calls)

/-- What a step gives off, by what it makes returnable. -/
inductive Gives (s s' : SourceState S) : List (SourceEvent S) → Prop
  | raised {events} : (∀ e ∈ events, e.IsRaised) → (s.closed = true → s'.closed = true) →
      Withheld s s' → Gives s s' events
  | returned (call : Nat) (snapshot : S) :
      s.closed = false → s.hasFrame = true ∨ .released ∈ s.calls →
      Gives s s' [.returned call snapshot]
  | frame : Gives s s' [.frameHandled]
  | idle : s'.hasFrame = false → .released ∉ s'.calls → Gives s s' [.idleExit]

variable {src}

theorem released_set {calls : List CallPc} {i : Nat} {pc : CallPc} (settled : pc ≠ .released) :
    .released ∈ calls.set i pc → .released ∈ calls := by
  intro member
  cases List.mem_or_eq_of_mem_set member with
  | inl old => exact old
  | inr new => exact absurd new.symm settled

theorem step_emits_by_returnable {s s' : SourceState S} {label : SourceLabel D}
    {events : List (SourceEvent S)} (h : s.closed = false → src.Watched s)
    (resumed : src.ResumedFirst s label)
    (step : src.machine.step s label = some (s', events)) : Gives s s' events := by
  cases label with
  | advance elapsed =>
      obtain ⟨_, after⟩ := Option.ite_none_right_eq_some.mp step
      cases after
      exact .raised (by simp) id fun _ => .inr ⟨rfl, id⟩
  | getOverrides =>
      have after := Option.some.inj step
      unfold getOverrides at after
      split at after
      · rename_i isClosed
        cases after
        exact .raised (by simp [SourceEvent.IsRaised]) id fun _ => .inl isClosed
      · rename_i unclosed
        have isOpen : s.closed = false := Bool.not_eq_true _ ▸ unclosed
        obtain ⟨_, _, buffered, closed, hasFrame, calls, _⟩ := (h isOpen).ensureRunning
        simp only at after
        split at after
        · rename_i framed
          cases after
          exact .returned _ _ isOpen (.inl (hasFrame.symm.trans framed))
        · rename_i unframed
          cases after
          refine .raised (by simp) (fun isClosed => absurd isClosed unclosed) fun _ =>
            .inr ⟨hasFrame, ?_⟩
          rw [if_neg fun set => unframed (buffered set), calls]
          simp
  | resume call =>
      obtain ⟨released, after⟩ := Option.ite_none_right_eq_some.mp step
      unfold resume at after
      split at after
      · rename_i isClosed
        cases after
        exact .raised (by simp [SourceEvent.IsRaised]) id fun _ => .inl isClosed
      · rename_i unclosed
        cases after
        exact .returned _ _ (Bool.not_eq_true _ ▸ unclosed) (.inr (List.mem_of_getElem? released))
  | timeout call =>
      unfold machine OverridesWsSource.step at step
      simp only at step
      split at step
      · obtain ⟨_, after⟩ := Option.ite_none_right_eq_some.mp step
        cases after
        exact .raised (by simp [SourceEvent.IsRaised]) id fun _ =>
          .inr ⟨rfl, released_set CallPc.noConfusion⟩
      · cases step
  | listener i a =>
      obtain ⟨l, at_i, moved⟩ := Option.bind_eq_some_iff.mp step
      obtain ⟨⟨next, l', given⟩, stepped, after⟩ := Option.map_eq_some_iff.mp moved
      cases after
      cases (listenerStep_moved stepped).2 with
      | quiet after =>
          rw [after]
          exact .raised (by simp) id fun _ => .inr ⟨rfl, id⟩
      | frame => exact .frame
      | idle ends isOpen elapsed after =>
          rw [after]
          exact .idle rfl (resumed ends isOpen elapsed)
      | stopped isClosed after =>
          rw [after]
          exact .raised (by simp) id fun _ => .inl isClosed
  | close =>
      cases step
      exact .raised (by simp) (fun _ => rfl) fun _ => .inl rfl

open Machine

/-- While an idle exit has no frame after it, nothing is returnable. -/
theorem idle_exit_withholds_until_frame {labels : List (SourceLabel D)} {s : SourceState S}
    {trace : List (SourceEvent S)} (run : src.machine.RunsWhere src.ResumedFirst labels s trace) :
    Separated SourceEvent.IsIdleExit SourceEvent.IsFrame SourceEvent.IsReturned trace
      ∧ (Open SourceEvent.IsIdleExit SourceEvent.IsFrame trace →
          s.closed = true ∨ s.hasFrame = false ∧ .released ∉ s.calls) := by
  induction run with
  | start => exact ⟨separated_nil, fun due => absurd due not_open_nil⟩
  | @step labels s trace label s' events run resumed step ih =>
      obtain ⟨separated, due⟩ := ih
      cases step_emits_by_returnable (watched run) resumed step with
      | raised inert closed withheld =>
          have kinds : ∀ e ∈ events, ¬ e.IsIdleExit ∧ ¬ e.IsReturned := by
            intro e member
            have := inert e member
            cases e <;>
              simp_all [SourceEvent.IsIdleExit, SourceEvent.IsReturned, SourceEvent.IsRaised]
          refine ⟨separated_append_inert separated fun e member => (kinds e member).2, ?_⟩
          intro still
          have before := due (still.of_append fun e member => (kinds e member).1)
          cases isClosed : s.closed with
          | true => exact .inl (closed isClosed)
          | false =>
              have nothing := before.resolve_left (by simp [isClosed])
              refine (withheld isClosed).imp_right ?_
              rintro ⟨same, released⟩
              exact ⟨same.trans nothing.1, fun member => nothing.2 (released member)⟩
      | returned call snapshot isOpen returnable =>
          have cleared : ¬ Open SourceEvent.IsIdleExit SourceEvent.IsFrame trace := by
            intro still
            have nothing := (due still).resolve_left (by simp [isOpen])
            cases returnable with
            | inl framed => exact absurd (nothing.1.symm.trans framed) Bool.false_ne_true
            | inr released => exact nothing.2 released
          refine ⟨separated_concat separated fun _ => cleared, ?_⟩
          intro still
          exact absurd (still.of_append (by simp [SourceEvent.IsIdleExit])) cleared
      | frame =>
          refine ⟨separated_concat separated fun isReturned => isReturned.elim, ?_⟩
          intro still
          rw [open_concat] at still
          simp [SourceEvent.IsIdleExit, SourceEvent.IsFrame] at still
      | idle unframed unreleased =>
          exact ⟨separated_concat separated fun isReturned => isReturned.elim,
            fun _ => .inr ⟨unframed, unreleased⟩⟩

/-- Whoever waits is attended in every run exactly when the first-frame timeout is no longer than
the idle timeout; and where released calls resume first, none returns between an idle exit
and the next frame handled. -/
theorem override_stream_attended (nonneg : 0 ≤ src.idleTimeout) :
    ((∀ labels s trace, src.machine.Runs labels s trace → s.Attended src.firstFrameTimeout) ↔
        src.firstFrameTimeout ≤ src.idleTimeout)
      ∧ ∀ labels s trace, src.machine.RunsWhere src.ResumedFirst labels s trace →
          Separated SourceEvent.IsIdleExit SourceEvent.IsFrame SourceEvent.IsReturned trace := by
  refine ⟨⟨?_, ?_⟩, fun labels s trace run => (idle_exit_withholds_until_frame run).1⟩
  · intro always
    by_contra shorter
    exact not_attended (lt_of_not_ge shorter) (always _ _ _ (idle_run nonneg))
  · intro longer labels s trace run
    exact attended longer run

end OverridesWsSource

/-! ## Timeouts -/

namespace Sample

/-- A source whose frames are their own snapshots. -/
def source (idleTimeout : ℚ) : OverridesWsSource String String where
  firstFrameTimeout := 5
  idleTimeout := idleTimeout
  initial := ""
  handleFrame _ data := .applied data

/-- A call four seconds into its wait, its listener connecting. -/
def waiting : SourceState String where
  now := 4
  snapshot := ""
  hasFrame := false
  closed := false
  lastUse := 0
  lastError := none
  task := some 0
  frameEvent := false
  listeners := [{ pc := .connecting, backoff := reconnectInitial, cancelling := false }]
  calls := [.waiting 0]

theorem run :
    (source 30).machine.Runs [.getOverrides, .listener 0 (.start true), .advance 4] waiting [] := by
  apply Machine.runs_of_run
  norm_num [Machine.run, OverridesWsSource.machine, OverridesWsSource.step,
    OverridesWsSource.startState, OverridesWsSource.getOverrides, OverridesWsSource.ensureRunning,
    OverridesWsSource.running,
    OverridesWsSource.listenerStep, OverridesWsSource.reconnect, OverridesWsSource.idleRemaining,
    source, waiting]

end Sample

/-- With `idle_timeout = 0` the listener returns before it connects, and the call waits on. -/
theorem idle_timeout_zero_unattended :
    (Sample.source 0).machine.Runs [.getOverrides, .advance 0, .listener 0 (.start true)]
      (Sample.source 0).idleState [.idleExit]
      ∧ ¬ (Sample.source 0).idleState.Attended 5 :=
  ⟨OverridesWsSource.idle_run le_rfl, @OverridesWsSource.not_attended _ _ (Sample.source 0)
    (by norm_num [Sample.source])⟩

theorem override_stream_attended_default :
    CallPc.waiting 0 ∈ Sample.waiting.calls ∧ Sample.waiting.Attended 5 := by
  have nonneg : 0 ≤ (Sample.source 30).idleTimeout := by norm_num [Sample.source]
  have longer : (Sample.source 30).firstFrameTimeout ≤ (Sample.source 30).idleTimeout := by
    norm_num [Sample.source]
  have always := (OverridesWsSource.override_stream_attended nonneg).1.mpr longer
  exact ⟨by simp [Sample.waiting], always _ _ _ Sample.run⟩

end PropAMM.Python
