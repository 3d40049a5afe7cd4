import PropAMM.Lib.Machine

/-! # The Rust SDK's stream connection

`WsConnection` as a machine: each section under the mutex, each atomic access and
each start or end of a task is one step. A call and a read loop stand for the code
between two steps; time is in nanoseconds.
-/

namespace PropAMM.Rust

/-- The parameters of a connection and its `WsHandler`. -/
structure WsConnection (S E : Type) where
  idleTimeout : Nat
  firstFrameTimeout : Nat
  initial : S
  /-- The snapshot after the frame, and whether it was updated. -/
  applyFrame : S → String → S × Bool
  closedError : E
  timeoutError : Nat → E

/-- Where a `get_snapshot` call stands. -/
inductive CallPc (S E : Type) where
  /-- The use is recorded and the lock released; `waiters` is not yet raised. -/
  | counting
  | registering (deadline : Nat)
  | checking (deadline : Nat) (notified : Bool)
  | waiting (deadline : Nat) (notified : Bool)
  /-- Waited for; `waiters` is not yet lowered. -/
  | leaving (result : Except E S)
  | returned (result : Except E S)

/-- Where a `run_ws_loop` task stands. -/
inductive LoopPc where
  | connecting
  /-- `idle_deadline`, before it loads `waiters`. -/
  | arming
  | armingLock
  | selecting (deadline : Nat)
  | framing (text : String)
  | notifying
  | sleeping (wakeAt : Nat)
  /-- `idle_expired`, before it loads `waiters`. -/
  | probing (connected : Bool)
  | probingLock (connected : Bool)
  /-- `idle_expired` returned true. -/
  | exiting
  | finished
  deriving DecidableEq

structure ReadLoop where
  pc : LoopPc
  backoff : Nat
  aborted : Bool

structure WsState (S E : Type) where
  now : Nat
  snapshot : S
  hasFrame : Bool
  closed : Bool
  lastUse : Option Nat
  /-- The task whose handle is kept. -/
  task : Option Nat
  waiters : Nat
  /-- Every task spawned. -/
  loops : List ReadLoop
  calls : List (CallPc S E)
  closeCalled : Bool
  /-- The tasks spawned by `close` that have yet to take the lock. -/
  closing : Nat
  /-- Those that have yet to notify. -/
  closeNotifying : Nat

inductive Message where
  | text (text : String)
  | other
  /-- An error, or the end of the stream. -/
  | ended

inductive CallStep where
  | raise
  | register
  | check
  | wake
  | timeout
  | lower

inductive LoopStep where
  | connect (ok : Bool)
  | load
  | lock
  | message (message : Message)
  | due
  | notify
  | wake
  | finish
  | abort

inductive WsLabel where
  | tick (elapsed : Nat)
  | getSnapshot
  | call (i : Nat) (a : CallStep)
  | loop (i : Nat) (a : LoopStep)
  | close
  | closeSection
  | closeNotify

def second : Nat := 1000000000
def reconnectInitial : Nat := second
def reconnectMax : Nat := 30 * second

/-- `notify_waiters` reaches every `Notified` that was created before it. -/
def CallPc.notify {S E : Type} : CallPc S E → CallPc S E
  | checking deadline _ => checking deadline true
  | waiting deadline _ => waiting deadline true
  | pc => pc

namespace WsConnection

variable {S E : Type} (conn : WsConnection S E)

def startState : WsState S E where
  now := 0
  snapshot := conn.initial
  hasFrame := false
  closed := false
  lastUse := none
  task := none
  waiters := 0
  loops := []
  calls := []
  closeCalled := false
  closing := 0
  closeNotifying := 0

/-- The kept handle is of a task that is not finished. -/
def running (s : WsState S E) : Bool :=
  (s.task.bind fun i => s.loops[i]?).any fun loop => loop.pc ≠ .finished

/-- The first section of `get_snapshot`. -/
def getSnapshot (s : WsState S E) : WsState S E × List (Nat × Except E S) :=
  let call := s.calls.length
  if s.closed then
    ({ s with calls := s.calls ++ [.returned (.error conn.closedError)] },
      [(call, .error conn.closedError)])
  else
    let s := { s with lastUse := some s.now }
    let s := if running s then s else { s with
      task := some s.loops.length
      loops := s.loops ++ [{ pc := .connecting, backoff := reconnectInitial, aborted := false }] }
    if s.hasFrame then
      ({ s with calls := s.calls ++ [.returned (.ok s.snapshot)] }, [(call, .ok s.snapshot)])
    else ({ s with calls := s.calls ++ [.counting] }, [])

def callStep (s : WsState S E) (i : Nat) (pc : CallPc S E) (a : CallStep) :
    Option (WsState S E × List (Nat × Except E S)) :=
  let goto (pc' : CallPc S E) : WsState S E := { s with calls := s.calls.set i pc' }
  match pc, a with
  | .counting, .raise =>
    some ({ goto (.registering (s.now + conn.firstFrameTimeout)) with waiters := s.waiters + 1 },
      [])
  | .registering deadline, .register => some (goto (.checking deadline false), [])
  | .checking deadline notified, .check =>
    some (goto (if s.closed then .leaving (.error conn.closedError)
      else if s.hasFrame then .leaving (.ok s.snapshot) else .waiting deadline notified), [])
  | .waiting deadline true, .wake => some (goto (.registering deadline), [])
  | .waiting deadline false, .timeout =>
    if deadline ≤ s.now then
      some (goto (.leaving (.error (conn.timeoutError conn.firstFrameTimeout))), [])
    else none
  | .leaving result, .lower =>
      some ({ goto (.returned result) with waiters := s.waiters - 1 }, [(i, result)])
  | _, _ => none

/-- The condition that `idle_expired` tests under the lock. -/
def idleElapsed (s : WsState S E) : Bool :=
  s.lastUse.all fun lastUse => conn.idleTimeout ≤ s.now - lastUse

/-- Where a loop goes on that has not expired. -/
def resume (connected : Bool) : LoopPc := if connected then .arming else .connecting

def loopStep (s : WsState S E) (loop : ReadLoop) (a : LoopStep) : Option (WsState S E × ReadLoop) :=
  let goto (pc : LoopPc) : ReadLoop := { loop with pc }
  match loop.pc, a with
  | _, .abort => if loop.aborted then some (s, goto .finished) else none
  | .connecting, .connect true => some (s, { goto .arming with backoff := reconnectInitial })
  | .connecting, .connect false => some (s, goto (.sleeping (s.now + loop.backoff)))
  | .arming, .load =>
      some (s, goto (if s.waiters > 0 then .selecting (s.now + second) else .armingLock))
  | .armingLock, .lock =>
    some (s, goto (.selecting (s.now + (conn.idleTimeout - (s.now - s.lastUse.getD s.now)))))
  | .selecting _, .message (.text text) => some (s, goto (.framing text))
  | .selecting _, .message .other => some (s, goto .arming)
  | .selecting _, .message .ended => some (s, goto (.sleeping (s.now + loop.backoff)))
  | .selecting deadline, .due => if deadline ≤ s.now then some (s, goto (.probing true)) else none
  | .framing text, .lock =>
    let applied := conn.applyFrame s.snapshot text
    some ({ s with snapshot := applied.1, hasFrame := s.hasFrame || applied.2 },
      goto (if applied.2 then .notifying else .arming))
  | .notifying, .notify => some ({ s with calls := s.calls.map CallPc.notify }, goto .arming)
  | .sleeping wakeAt, .wake =>
    if wakeAt ≤ s.now then
      some (s, { goto (.probing false) with backoff := min (loop.backoff * 2) reconnectMax })
    else none
  | .probing connected, .load =>
    some (s, goto (if s.waiters > 0 then resume connected else .probingLock connected))
  | .probingLock connected, .lock =>
    if conn.idleElapsed s then some ({ s with hasFrame := false }, goto .exiting)
    else some (s, goto (resume connected))
  | .exiting, .finish => some (s, goto .finished)
  | _, _ => none

def step (s : WsState S E) : WsLabel → Option (WsState S E × List (Nat × Except E S))
  | .tick elapsed => some ({ s with now := s.now + elapsed }, [])
  | .getSnapshot => some (conn.getSnapshot s)
  | .call i a => s.calls[i]?.bind fun pc => conn.callStep s i pc a
  | .loop i a => s.loops[i]?.bind fun loop => (conn.loopStep s loop a).map fun r =>
    ({ r.1 with loops := s.loops.set i r.2 }, [])
  | .close => some ({ s with closeCalled := true, closing := s.closing + 1 }, [])
  | .closeSection =>
    if s.closing = 0 then none
    else some ({ s with
      closed := true
      task := none
      loops := match s.task with
        | some i => s.loops.modify i fun loop => { loop with aborted := true }
        | none => s.loops
      closing := s.closing - 1
      closeNotifying := s.closeNotifying + 1 }, [])
  | .closeNotify =>
    if s.closeNotifying = 0 then none
    else
      some ({ s with calls := s.calls.map CallPc.notify, closeNotifying := s.closeNotifying - 1 },
        [])

/-- Every order of the steps of any number of calls and of the tasks they spawn. -/
def machine : Machine (WsState S E) WsLabel (Nat × Except E S) where
  start := conn.startState
  step := conn.step

end WsConnection

/-! ## Waiting calls and live loops -/

variable {S E : Type}

/-- The call has recorded its use and waits for a first frame. -/
def CallPc.Waits : CallPc S E → Prop
  | counting | registering _ | checking _ _ | waiting _ _ => True
  | leaving _ | returned _ => False

/-- The task has not decided to exit. -/
def ReadLoop.Live (loop : ReadLoop) : Prop := loop.pc ≠ .exiting ∧ loop.pc ≠ .finished

namespace WsState

def Waiting (s : WsState S E) : Prop := ∃ pc ∈ s.calls, pc.Waits

def Reading (s : WsState S E) : Prop := ∃ loop ∈ s.loops, loop.Live

/-- Until `close` is called, whoever waits has a live read loop. -/
def Served (s : WsState S E) : Prop := s.closeCalled = false → s.Waiting → s.Reading

end WsState

namespace WsConnection

variable (conn : WsConnection S E)

/-- The steps that leave a waiting call its loop: until `close` is called, the idle timeout is
not found elapsed while a call waits, and no call that will wait records its use while
the task is on its way out. -/
def Guarded (s : WsState S E) : WsLabel → Prop
  | .getSnapshot => s.closeCalled = false → s.hasFrame = false →
      ∀ i loop, s.task = some i → s.loops[i]? = some loop → loop.pc ≠ .exiting
  | .loop i .lock => s.closeCalled = false → ∀ loop connected, s.loops[i]? = some loop →
      loop.pc = .probingLock connected → conn.idleElapsed s = true → ¬ s.Waiting
  | _ => True

/-- What holds until `close` is called. -/
structure Serving (s : WsState S E) : Prop where
  isOpen : s.closed = false
  noCloser : s.closing = 0
  unaborted : ∀ loop ∈ s.loops, loop.aborted = false
  /-- Only the task whose handle is kept may be unfinished. -/
  single : ∀ i loop, s.loops[i]? = some loop → loop.pc ≠ .finished → s.task = some i
  served : s.Waiting → s.Reading

variable {conn}

theorem callPc_notify_waits (pc : CallPc S E) : pc.notify.Waits ↔ pc.Waits := by
  cases pc <;> rfl

theorem waiting_notify {s s' : WsState S E} (notified : s'.calls = s.calls.map CallPc.notify) :
    s'.Waiting ↔ s.Waiting := by
  unfold WsState.Waiting
  simp only [notified, List.mem_map, exists_exists_and_eq_and, callPc_notify_waits]

/-- A step of a call touches no loop, and no call starts to wait. -/
theorem callStep_cases {s s' : WsState S E} {i : Nat} {pc : CallPc S E} {a : CallStep}
    {events : List (Nat × Except E S)} (step : conn.callStep s i pc a = some (s', events)) :
    ∃ pc', (pc'.Waits → pc.Waits)
      ∧ s' = { s with calls := s.calls.set i pc', waiters := s'.waiters } := by
  unfold callStep at step
  simp only at step
  split at step
  · cases step
    exact ⟨_, fun _ => trivial, rfl⟩
  · cases step
    exact ⟨_, fun _ => trivial, rfl⟩
  · cases step
    exact ⟨_, fun _ => trivial, rfl⟩
  · cases step
    exact ⟨_, fun _ => trivial, rfl⟩
  · obtain ⟨_, timedOut⟩ := Option.ite_none_right_eq_some.mp step
    cases timedOut
    exact ⟨_, fun _ => trivial, rfl⟩
  · cases step
    exact ⟨_, False.elim, rfl⟩
  · cases step

/-- What a step of a loop does: it stays live, it finds the idle timeout elapsed, or it ends. -/
theorem loopStep_cases {s s' : WsState S E} {loop loop' : ReadLoop} {a : LoopStep}
    (step : conn.loopStep s loop a = some (s', loop')) :
    s' = { s with snapshot := s'.snapshot, hasFrame := s'.hasFrame, calls := s'.calls }
      ∧ (s'.Waiting ↔ s.Waiting) ∧ loop'.aborted = loop.aborted
      ∧ (loop.Live ∧ loop'.Live
        ∨ (a = .lock ∧ (∃ connected, loop.pc = .probingLock connected) ∧ conn.idleElapsed s = true
            ∧ loop'.pc = .exiting)
        ∨ loop.pc = .exiting ∧ loop'.pc = .finished
        ∨ loop.aborted = true ∧ loop'.pc = .finished) := by
  have resumed : ∀ connected, resume connected ≠ .exiting ∧ resume connected ≠ .finished := by
    decide
  unfold loopStep at step
  simp only at step
  split at step
  · obtain ⟨aborted, ended⟩ := Option.ite_none_right_eq_some.mp step
    cases ended
    exact ⟨rfl, .rfl, rfl, .inr (.inr (.inr ⟨aborted, rfl⟩))⟩
  -- connecting
  · rename_i at_pc
    cases step
    exact ⟨rfl, .rfl, rfl, .inl (by simp [ReadLoop.Live, at_pc])⟩
  · rename_i at_pc
    cases step
    exact ⟨rfl, .rfl, rfl, .inl (by simp [ReadLoop.Live, at_pc])⟩
  -- arming
  · rename_i at_pc
    cases step
    refine ⟨rfl, .rfl, rfl, .inl ⟨by simp [ReadLoop.Live, at_pc], ?_⟩⟩
    unfold ReadLoop.Live
    split <;> simp
  · rename_i at_pc
    cases step
    exact ⟨rfl, .rfl, rfl, .inl (by simp [ReadLoop.Live, at_pc])⟩
  -- selecting
  · rename_i at_pc
    cases step
    exact ⟨rfl, .rfl, rfl, .inl (by simp [ReadLoop.Live, at_pc])⟩
  · rename_i at_pc
    cases step
    exact ⟨rfl, .rfl, rfl, .inl (by simp [ReadLoop.Live, at_pc])⟩
  · rename_i at_pc
    cases step
    exact ⟨rfl, .rfl, rfl, .inl (by simp [ReadLoop.Live, at_pc])⟩
  · rename_i at_pc
    obtain ⟨_, due⟩ := Option.ite_none_right_eq_some.mp step
    cases due
    exact ⟨rfl, .rfl, rfl, .inl (by simp [ReadLoop.Live, at_pc])⟩
  -- framing
  · rename_i at_pc
    cases step
    refine ⟨rfl, .rfl, rfl, .inl ⟨by simp [ReadLoop.Live, at_pc], ?_⟩⟩
    unfold ReadLoop.Live
    split <;> simp
  · rename_i at_pc
    cases step
    exact ⟨rfl, waiting_notify rfl, rfl, .inl (by simp [ReadLoop.Live, at_pc])⟩
  -- sleeping
  · rename_i at_pc
    obtain ⟨_, awake⟩ := Option.ite_none_right_eq_some.mp step
    cases awake
    exact ⟨rfl, .rfl, rfl, .inl (by simp [ReadLoop.Live, at_pc])⟩
  -- probing
  · rename_i at_pc
    cases step
    refine ⟨rfl, .rfl, rfl, .inl ⟨by simp [ReadLoop.Live, at_pc], ?_⟩⟩
    unfold ReadLoop.Live
    split
    · exact resumed _
    · simp
  · rename_i connected at_pc
    split at step
    · rename_i elapsed
      cases step
      exact ⟨rfl, .rfl, rfl, .inr (.inl ⟨rfl, ⟨connected, at_pc⟩, elapsed, rfl⟩)⟩
    · cases step
      exact ⟨rfl, .rfl, rfl, .inl ⟨by simp [ReadLoop.Live, at_pc], resumed _⟩⟩
  -- exiting
  · rename_i at_pc
    cases step
    exact ⟨rfl, .rfl, rfl, .inr (.inr (.inl ⟨at_pc, rfl⟩))⟩
  · cases step

/-! ## Every run -/

/-- A step that leaves the loops alone and makes no call wait. -/
theorem Serving.of_same {s s' : WsState S E} (h : Serving s) (closed : s'.closed = s.closed)
    (closing : s'.closing = s.closing) (loops : s'.loops = s.loops) (task : s'.task = s.task)
    (waiting : s'.Waiting → s.Waiting) : Serving s' where
  isOpen := closed.trans h.isOpen
  noCloser := closing.trans h.noCloser
  unaborted := loops ▸ h.unaborted
  single := by
    rw [loops, task]
    exact h.single
  served waits := by
    unfold WsState.Reading
    rw [loops]
    exact h.served (waiting waits)

theorem Serving.call {s s' : WsState S E} {i : Nat} {pc : CallPc S E} {a : CallStep}
    {events : List (Nat × Except E S)} (h : Serving s) (at_i : s.calls[i]? = some pc)
    (step : conn.callStep s i pc a = some (s', events)) : Serving s' := by
  obtain ⟨pc', keeps, after⟩ := callStep_cases step
  rw [after]
  refine h.of_same rfl rfl rfl rfl ?_
  rintro ⟨p, member, waits⟩
  cases List.mem_or_eq_of_mem_set member with
  | inl old => exact ⟨p, old, waits⟩
  | inr new =>
      subst new
      exact ⟨pc, List.mem_of_getElem? at_i, keeps waits⟩

theorem Serving.loop {s s' : WsState S E} {i : Nat} {loop loop' : ReadLoop} {a : LoopStep}
    (h : Serving s) (at_i : s.loops[i]? = some loop) (guarded : conn.Guarded s (.loop i a))
    (before : s.closeCalled = false) (step : conn.loopStep s loop a = some (s', loop')) :
    Serving ({ s' with loops := s.loops.set i loop' } : WsState S E) := by
  obtain ⟨after, waiting, aborted, moved⟩ := loopStep_cases step
  have within : i < s.loops.length := (List.getElem?_eq_some_iff.mp at_i).1
  have mine : loop.aborted = false := h.unaborted loop (List.mem_of_getElem? at_i)
  rw [after]
  refine ⟨h.isOpen, h.noCloser, ?_, ?_, ?_⟩
  · intro l member
    cases List.mem_or_eq_of_mem_set member with
    | inl old => exact h.unaborted l old
    | inr new =>
        subst new
        exact aborted.trans mine
  · intro j l at_j unfinished
    by_cases same : i = j
    · subst same
      rw [List.getElem?_set_self within] at at_j
      cases at_j
      apply h.single i loop at_i
      rcases moved with ⟨live, _⟩ | ⟨_, ⟨connected, at_pc⟩, _, _⟩ | ⟨_, ended⟩ | ⟨_, ended⟩
      · exact live.2
      · rw [at_pc]
        exact LoopPc.noConfusion
      · exact absurd ended unfinished
      · exact absurd ended unfinished
    · rw [List.getElem?_set_ne same] at at_j
      exact h.single j l at_j unfinished
  · intro waits
    have waited : s.Waiting := waiting.mp (after ▸ waits)
    obtain ⟨l, member, live⟩ := h.served waited
    obtain ⟨j, at_j⟩ := List.getElem?_of_mem member
    by_cases same : i = j
    · subst same
      cases at_i.symm.trans at_j
      rcases moved with ⟨_, live'⟩ | ⟨locked, ⟨connected, at_pc⟩, elapsed, _⟩ |
        ⟨decided, _⟩ | ⟨ended, _⟩
      · exact ⟨loop', List.mem_set within loop', live'⟩
      · subst locked
        exact absurd waited (guarded before loop connected at_i at_pc elapsed)
      · exact absurd decided live.1
      · exact absurd (mine.symm.trans ended) Bool.false_ne_true
    · refine ⟨l, List.mem_of_getElem? (i := j) ?_, live⟩
      rw [List.getElem?_set_ne same]
      exact at_j

theorem running_iff {s : WsState S E} :
    running s = true ↔ ∃ i loop, s.task = some i ∧ s.loops[i]? = some loop
    ∧ loop.pc ≠ .finished := by
  unfold running
  rw [Option.any_eq_true]
  simp only [Option.bind_eq_some_iff, decide_eq_true_eq]
  grind

/-- What the first section of a call leaves, while open. -/
theorem getSnapshot_eq {s : WsState S E} (isOpen : s.closed = false) :
    (conn.getSnapshot s).1 = { s with
      lastUse := some s.now
      task := if running s then s.task else some s.loops.length
      loops := if running s then s.loops
        else s.loops ++ [{ pc := .connecting, backoff := reconnectInitial, aborted := false }]
      calls := s.calls ++ [if s.hasFrame then .returned (.ok s.snapshot) else .counting] } := by
  have touched : running { s with lastUse := some s.now } = running s := rfl
  unfold getSnapshot
  simp only [isOpen, Bool.false_eq_true, if_false]
  split <;> split <;> simp_all

theorem getSnapshot_closeCalled (s : WsState S E) :
    (conn.getSnapshot s).1.closeCalled = s.closeCalled := by
  by_cases isClosed : s.closed = true
  · simp [getSnapshot, isClosed]
  · rw [getSnapshot_eq (Bool.not_eq_true _ ▸ isClosed)]

theorem Serving.getSnapshot {s : WsState S E} (h : Serving s)
    (guarded : conn.Guarded s .getSnapshot) (before : s.closeCalled = false) :
    Serving (conn.getSnapshot s).1 := by
  rw [getSnapshot_eq h.isOpen]
  by_cases isRunning : running s = true
  · simp only [if_pos isRunning]
    refine ⟨h.isOpen, h.noCloser, h.unaborted, h.single, ?_⟩
    rintro ⟨pc, member, waits⟩
    cases List.mem_append.mp member with
    | inl old => exact h.served ⟨pc, old, waits⟩
    | inr new =>
        obtain ⟨i, loop, kept, at_i, unfinished⟩ := running_iff.mp isRunning
        have unframed : s.hasFrame = false := by
          rw [List.mem_singleton.mp new] at waits
          cases framed : s.hasFrame with
          | false => rfl
          | true =>
              rw [framed] at waits
              exact waits.elim
        exact ⟨loop, List.mem_of_getElem? at_i, guarded before unframed i loop kept at_i,
          unfinished⟩
  · simp only [if_neg isRunning]
    refine ⟨h.isOpen, h.noCloser, ?_, ?_, ?_⟩
    · intro loop member
      cases List.mem_append.mp member with
      | inl old => exact h.unaborted loop old
      | inr new => rw [List.mem_singleton.mp new]
    · intro j loop at_j unfinished
      by_cases old : j < s.loops.length
      · rw [List.getElem?_append_left old] at at_j
        have kept := h.single j loop at_j unfinished
        exact absurd (running_iff.mpr ⟨j, loop, kept, at_j, unfinished⟩) isRunning
      · have within := (List.getElem?_eq_some_iff.mp at_j).1
        rw [List.length_append, List.length_singleton] at within
        exact congrArg some (by omega)
    · intro _
      exact ⟨_, List.mem_append_right _ (List.mem_singleton.mpr rfl), LoopPc.noConfusion,
        LoopPc.noConfusion⟩

/-- Until `close` is called, a guarded step keeps what holds. -/
theorem Serving.step {s s' : WsState S E} {label : WsLabel} {events : List (Nat × Except E S)}
    (h : s.closeCalled = false → Serving s) (guarded : conn.Guarded s label)
    (step : conn.machine.step s label = some (s', events)) :
    s'.closeCalled = false → Serving s' := by
  cases label with
  | tick elapsed =>
      cases step
      intro before
      exact (h before).of_same rfl rfl rfl rfl id
  | getSnapshot =>
      have after : (conn.getSnapshot s).1 = s' := congrArg Prod.fst (Option.some.inj step)
      intro before
      have unclosed : s.closeCalled = false := by
        rw [← after, getSnapshot_closeCalled] at before
        exact before
      exact after ▸ (h unclosed).getSnapshot guarded unclosed
  | call i a =>
      obtain ⟨pc, at_i, called⟩ := Option.bind_eq_some_iff.mp step
      obtain ⟨pc', _, after⟩ := callStep_cases called
      intro before
      exact (h (by rw [after] at before; exact before)).call at_i called
  | loop i a =>
      obtain ⟨loop, at_i, looped⟩ := Option.bind_eq_some_iff.mp step
      obtain ⟨⟨next, loop'⟩, moved, after⟩ := Option.map_eq_some_iff.mp looped
      cases after
      intro before
      have unclosed : s.closeCalled = false := by
        rw [(loopStep_cases moved).1] at before
        exact before
      exact (h unclosed).loop at_i guarded unclosed moved
  | close =>
      cases step
      intro before
      cases before
  | closeSection =>
      obtain ⟨closing, after⟩ := Option.ite_none_left_eq_some.mp step
      cases after
      intro before
      exact absurd (h before).noCloser closing
  | closeNotify =>
      obtain ⟨_, after⟩ := Option.ite_none_left_eq_some.mp step
      cases after
      intro before
      exact (h before).of_same rfl rfl rfl rfl (waiting_notify rfl).mp

/-- The other steps leave a waiting call without a loop. -/
theorem Serving.broken {s s' : WsState S E} {label : WsLabel} {events : List (Nat × Except E S)}
    (h : s.closeCalled = false → Serving s) (unguarded : ¬ conn.Guarded s label)
    (step : conn.machine.step s label = some (s', events)) : ¬ s'.Served := by
  intro served
  cases label with
  | getSnapshot =>
      unfold Guarded at unguarded
      push Not at unguarded
      obtain ⟨unclosed, unframed, i, loop, kept, at_i, exiting⟩ := unguarded
      have h := h unclosed
      have isRunning : running s = true := running_iff.mpr ⟨i, loop, kept, at_i, by simp [exiting]⟩
      have after : (conn.getSnapshot s).1 = s' := congrArg Prod.fst (Option.some.inj step)
      rw [getSnapshot_eq h.isOpen, unframed, if_pos isRunning, if_pos isRunning] at after
      subst after
      obtain ⟨other, member, live⟩ :=
        served unclosed ⟨.counting, List.mem_append_right _ (by simp), trivial⟩
      obtain ⟨j, at_j⟩ := List.getElem?_of_mem member
      cases kept.symm.trans (h.single j other at_j live.2)
      cases at_i.symm.trans at_j
      exact live.1 exiting
  | loop i a =>
      cases a with
      | lock =>
          unfold Guarded at unguarded
          push Not at unguarded
          obtain ⟨unclosed, loop, connected, at_i, at_pc, elapsed, waiting⟩ := unguarded
          have h := h unclosed
          have within : i < s.loops.length := (List.getElem?_eq_some_iff.mp at_i).1
          have expired : conn.loopStep s loop .lock = some ({ s with hasFrame := false },
              { loop with pc := .exiting }) := by
            simp [loopStep, at_pc, elapsed]
          have after :
              s' =
                { s with
                  hasFrame := false, loops := s.loops.set i { loop with pc := .exiting } } := by
            have := step
            simp [machine, WsConnection.step, at_i, expired] at this
            exact this.1.symm
          subst after
          obtain ⟨other, member, live⟩ := served unclosed waiting
          obtain ⟨j, at_j⟩ := List.getElem?_of_mem member
          have mine := h.single i loop at_i (by simp [at_pc])
          by_cases same : i = j
          · subst same
            rw [List.getElem?_set_self within] at at_j
            cases at_j
            exact live.1 rfl
          · rw [List.getElem?_set_ne same] at at_j
            exact same (Option.some.inj (mine.symm.trans (h.single j other at_j live.2)))
      | _ => exact unguarded trivial
  | _ => exact unguarded trivial

/-- A waiting call has a live read loop in every state of a run exactly when the run's steps
are guarded. -/
theorem waiting_calls_served_iff {labels : List WsLabel} {s : WsState S E}
    {trace : List (Nat × Except E S)} (run : conn.machine.Runs labels s trace) :
    (∀ before s' trace', before <+: labels → conn.machine.Runs before s' trace' → s'.Served) ↔
      conn.machine.RunsWhere conn.Guarded labels s trace := by
  refine Machine.RunsWhere.always_iff (J := fun s => s.closeCalled = false → Serving s) ?_ ?_ ?_
    Serving.broken run
  · intro _
    refine ⟨rfl, rfl, by simp [machine, startState], by simp [machine, startState], ?_⟩
    rintro ⟨pc, member, _⟩
    cases member
  · intro s a s' events h guarded step
    exact Serving.step h guarded step
  · intro s h before waiting
    exact (h before).served waiting

end WsConnection

/-! ## A caller between the exit and the end of the loop -/

namespace Stranded

/-- The default timeouts of the overrides source. -/
def source : WsConnection String String where
  idleTimeout := 30 * second
  firstFrameTimeout := 5 * second
  initial := ""
  applyFrame _ text := (text, true)
  closedError := "overrides source is closed"
  timeoutError _ := "no overrides frame received within 5s"

/-- A first call gets its frame, thirty seconds pass, the loop decides to exit, and before its
task ends a second call records its use. -/
def labels : List WsLabel := [
  .getSnapshot, .call 0 .raise, .call 0 .register, .call 0 .check,
  .loop 0 (.connect true), .loop 0 .load, .loop 0 (.message (.text "a")), .loop 0 .lock,
  .loop 0 .notify, .call 0 .wake, .call 0 .register, .call 0 .check, .call 0 .lower,
  .loop 0 .load, .loop 0 .lock, .tick (30 * second),
  .loop 0 .due, .loop 0 .load, .loop 0 .lock, .getSnapshot]

def state : WsState String String where
  now := 30 * second
  snapshot := "a"
  hasFrame := false
  closed := false
  lastUse := some (30 * second)
  task := some 0
  waiters := 0
  loops := [{ pc := .exiting, backoff := reconnectInitial, aborted := false }]
  calls := [.returned (.ok "a"), .counting]
  closeCalled := false
  closing := 0
  closeNotifying := 0

theorem run : source.machine.Runs labels state [(0, .ok "a")] := Machine.runs_of_run rfl

theorem unserved : ¬ state.Served := by
  intro served
  obtain ⟨loop, member, live⟩ := served rfl ⟨.counting, by simp [state], trivial⟩
  cases List.mem_singleton.mp member
  exact live.1 rfl

end Stranded

/-- With the default timeouts a call is left waiting with no loop to read its frame. -/
theorem idle_exit_strands_caller :
    Stranded.source.machine.Runs Stranded.labels Stranded.state [(0, .ok "a")]
    ∧ ¬ Stranded.state.Served :=
  ⟨Stranded.run, Stranded.unserved⟩

theorem waiting_calls_served_iff_stranded :
    ¬ Stranded.source.machine.RunsWhere Stranded.source.Guarded Stranded.labels Stranded.state
      [(0, .ok "a")] := by
  intro guarded
  have always := (WsConnection.waiting_calls_served_iff Stranded.run).mpr guarded
  exact Stranded.unserved (always _ _ _ (List.prefix_refl _) Stranded.run)

end PropAMM.Rust
