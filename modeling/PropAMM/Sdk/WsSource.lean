import Mathlib.Algebra.Order.Ring.Nat
import PropAMM.Lib.Machine

/-! # The TypeScript SDK's stream source

`WsSource` as a machine: a step is one call from the caller or one callback of the
event loop, run to its end together with the promise continuations it releases,
which JavaScript runs before the next callback. A socket is named by its number in
the order of creation.
-/

namespace PropAMM.TypeScript

/-- A subclass of `WsSource` with its options, and whether there is a global `WebSocket`. -/
structure WsSource (T R : Type) where
  name : String
  firstFrameTimeoutMs : Nat
  /-- `none` for `Infinity`. -/
  idleTimeoutMs : Option Nat
  webSocket : Bool
  initial : T
  /-- The snapshot after the frame, and whether the hook returned without throwing. -/
  applyFrame : T → String → T × Bool
  copySnapshot : T → R

structure WsState (T : Type) where
  ws : Option Nat
  closed : Bool
  reconnectAttempts : Nat
  /-- The delay of the pending timer. -/
  reconnectTimer : Option Nat
  /-- The delay of the pending timer. -/
  idleTimer : Option Nat
  hasFrame : Bool
  frameWaiters : List Nat
  snapshot : T
  /-- How many sockets were created. -/
  sockets : Nat
  /-- The sockets that `close()` was called on. -/
  closeCalled : List Nat
  /-- The sockets that dispatched `close`. -/
  closeFired : List Nat
  /-- How many times `getSnapshot` was called. -/
  calls : Nat

inductive WsLabel where
  | getSnapshot
  | close
  | socketOpen (socket : Nat)
  /-- `none` for data that is not a string. -/
  | socketMessage (socket : Nat) (data : Option String)
  | socketError (socket : Nat)
  | socketClose (socket : Nat)
  | reconnectTimer
  | idleTimer
  | firstFrameTimeout (call : Nat)

inductive WsEvent (R : Type) where
  | resolved (call : Nat) (snapshot : R)
  | rejected (call : Nat) (message : String)
  | frameApplied
  | idleTeardown

def reconnectInitialMs : Nat := 1000
def reconnectMaxMs : Nat := 30000

namespace WsSource

variable {T R : Type} (src : WsSource T R)

def startState : WsState T where
  ws := none
  closed := false
  reconnectAttempts := 0
  reconnectTimer := none
  idleTimer := none
  hasFrame := false
  frameWaiters := []
  snapshot := src.initial
  sockets := 0
  closeCalled := []
  closeFired := []
  calls := 0

/-- `this.ws?.close()` and `this.ws = undefined`, in either order. -/
def dropSocket (s : WsState T) : WsState T :=
  { s with ws := none, closeCalled := s.ws.toList ++ s.closeCalled }

def connect (s : WsState T) : Except String (WsState T) :=
  if s.ws.isSome || s.reconnectTimer.isSome || s.closed then .ok s
  else if !src.webSocket then
    .error "no global WebSocket available (Node >= 22 or a browser is required)"
  else .ok { s with ws := some s.sockets, sockets := s.sockets + 1 }

def scheduleReconnect (s : WsState T) : WsState T :=
  if s.closed || s.reconnectTimer.isSome then s
  else { s with
    reconnectTimer := some (min (reconnectInitialMs * 2 ^ s.reconnectAttempts) reconnectMaxMs)
    reconnectAttempts := s.reconnectAttempts + 1 }

def armIdleTimer (s : WsState T) : WsState T :=
  { s with idleTimer := if s.closed then none else src.idleTimeoutMs }

def idleClose (s : WsState T) : WsState T × List (WsEvent R) :=
  if s.frameWaiters ≠ [] then (src.armIdleTimer s, [])
  else ({ dropSocket s with reconnectTimer := none, reconnectAttempts := 0, hasFrame := false },
    [.idleTeardown])

def handleFrame (s : WsState T) (data : Option String) : WsState T × List (WsEvent R) :=
  match data with
  | none => (s, [])
  | some text =>
    let applied := src.applyFrame s.snapshot text
    if !applied.2 then ({ s with snapshot := applied.1 }, [])
    else
      -- each released call returns its copy and rearms the timer on its way out
      let s' := { s with snapshot := applied.1, hasFrame := true, frameWaiters := [] }
      (s.frameWaiters.foldl (fun s _ => src.armIdleTimer s) s',
        .frameApplied :: s.frameWaiters.map fun call => .resolved call (src.copySnapshot applied.1))

def getSnapshot (s : WsState T) : WsState T × List (WsEvent R) :=
  let call := s.calls
  let s := { s with calls := s.calls + 1 }
  if s.closed then (s, [.rejected call s!"{src.name} source is closed"])
  else match src.connect s with
    | .error message => (src.armIdleTimer s, [.rejected call message])
    | .ok s =>
      if !s.hasFrame then ({ s with frameWaiters := s.frameWaiters ++ [call] }, [])
      else (src.armIdleTimer s, [.resolved call (src.copySnapshot s.snapshot)])

def close (s : WsState T) : WsState T × List (WsEvent R) :=
  let s' :=
    { dropSocket s with
      closed := true, reconnectTimer := none, idleTimer := none, frameWaiters := [] }
  (s.frameWaiters.foldl (fun s _ => src.armIdleTimer s) s',
    s.frameWaiters.map fun call =>
      .rejected call s!"{src.name} source closed while waiting for the first frame")

/-- A socket dispatches no `close` twice and nothing after it, and no message once `close()`
    was called on it. -/
def Enabled (s : WsState T) : WsLabel → Prop
  | .getSnapshot | .close => True
  | .socketMessage socket _ => socket < s.sockets ∧ socket ∉ s.closeCalled ∧ socket ∉ s.closeFired
  | .socketOpen socket | .socketError socket | .socketClose socket =>
    socket < s.sockets ∧ socket ∉ s.closeFired
  | .reconnectTimer => s.reconnectTimer.isSome
  | .idleTimer => s.idleTimer.isSome
  | .firstFrameTimeout call => call ∈ s.frameWaiters

instance (s : WsState T) : ∀ label, Decidable (Enabled s label)
  | .getSnapshot | .close => .isTrue trivial
  | .socketMessage socket _ =>
    inferInstanceAs
      (Decidable (socket < s.sockets ∧ socket ∉ s.closeCalled ∧ socket ∉ s.closeFired))
  | .socketOpen socket | .socketError socket | .socketClose socket =>
    inferInstanceAs (Decidable (socket < s.sockets ∧ socket ∉ s.closeFired))
  | .reconnectTimer => inferInstanceAs (Decidable (s.reconnectTimer.isSome = true))
  | .idleTimer => inferInstanceAs (Decidable (s.idleTimer.isSome = true))
  | .firstFrameTimeout call => inferInstanceAs (Decidable (call ∈ s.frameWaiters))

def handle (s : WsState T) : WsLabel → WsState T × List (WsEvent R)
  | .getSnapshot => src.getSnapshot s
  | .close => src.close s
  | .socketOpen _ => ({ s with reconnectAttempts := 0 }, [])
  | .socketMessage _ data => src.handleFrame s data
  | .socketError _ => (s, [])
  | .socketClose socket =>
    let fired := { s with closeFired := socket :: s.closeFired }
    (if s.ws ≠ some socket then fired else scheduleReconnect { fired with ws := none }, [])
  | .reconnectTimer =>
    -- what `connect` throws is lost in the timer's callback
    let s := { s with reconnectTimer := none }
    ((src.connect s).toOption.getD s, [])
  | .idleTimer => src.idleClose { s with idleTimer := none }
  | .firstFrameTimeout call =>
    (src.armIdleTimer { s with frameWaiters := s.frameWaiters.filter (· ≠ call) },
      [.rejected call s!"no {src.name} frame received within {src.firstFrameTimeoutMs}ms"])

/-- Every order of calls, socket events and timer firings. -/
def machine : Machine (WsState T) WsLabel (WsEvent R) where
  start := src.startState
  step s label := if Enabled s label then some (src.handle s label) else none

/-! ## The fields -/

structure Invariant (s : WsState T) : Prop where
  /-- Whoever waits, waits for a socket or for the timer that opens one. -/
  served : s.frameWaiters ≠ [] → s.ws.isSome ∨ s.reconnectTimer.isSome
  exclusive : s.ws.isSome → s.reconnectTimer = none
  /-- Every socket but the current one is closed. -/
  dropped : ∀ socket < s.sockets, s.ws ≠ some socket → socket ∈ s.closeCalled
    ∨ socket ∈ s.closeFired
  closed : s.closed = true → s.frameWaiters = []
  absent : src.webSocket = false → s.ws = none ∧ s.reconnectTimer = none

variable {src}

theorem invariant_start : src.Invariant src.startState where
  served waiting := absurd rfl waiting
  exclusive set := by cases set
  dropped socket created := absurd created (Nat.not_lt_zero _)
  closed _ := rfl
  absent _ := ⟨rfl, rfl⟩

theorem Invariant.armIdleTimer {s : WsState T} (h : src.Invariant s) :
    src.Invariant (src.armIdleTimer s) :=
  ⟨h.served, h.exclusive, h.dropped, h.closed, h.absent⟩

theorem Invariant.foldl_armIdleTimer {s : WsState T} (h : src.Invariant s) (calls : List Nat) :
    src.Invariant (calls.foldl (fun s _ => src.armIdleTimer s) s) := by
  induction calls generalizing s with
  | nil => exact h
  | cons call calls ih => exact ih h.armIdleTimer

theorem foldl_armIdleTimer_hasFrame (s : WsState T) (calls : List Nat) :
    (calls.foldl (fun s _ => src.armIdleTimer s) s).hasFrame = s.hasFrame := by
  induction calls generalizing s with
  | nil => rfl
  | cons call calls ih => exact ih _

/-- The sockets once the current one is dropped. -/
theorem Invariant.all_dropped {s : WsState T} (h : src.Invariant s) :
    ∀ socket < s.sockets, socket ∈ (dropSocket s).closeCalled ∨ socket ∈ s.closeFired := by
  intro socket created
  by_cases current : s.ws = some socket
  · exact .inl (List.mem_append_left _ (by simp [current]))
  · cases h.dropped socket created current with
    | inl called => exact .inl (List.mem_append_right _ called)
    | inr fired => exact .inr fired

/-- With no timer pending, `connect` leaves a socket, unless closed or without a `WebSocket`. -/
theorem Invariant.connect {s s' : WsState T} (h : src.Invariant s)
    (connected : src.connect s = .ok s') :
    src.Invariant s' ∧ s'.closed = s.closed ∧ s'.frameWaiters = s.frameWaiters
    ∧ s'.hasFrame = s.hasFrame
      ∧ (s.closed = false → s'.ws.isSome ∨ s'.reconnectTimer.isSome) := by
  unfold WsSource.connect at connected
  split at connected
  · rename_i kept
    cases connected
    refine ⟨h, rfl, rfl, rfl, ?_⟩
    intro isOpen
    simpa [isOpen] using kept
  · rename_i fresh
    simp only [Bool.or_eq_true, not_or, Bool.not_eq_true, Option.isSome_eq_false_iff,
      Option.isNone_iff_eq_none] at fresh
    split at connected
    · cases connected
    · rename_i present
      cases connected
      refine ⟨⟨fun _ => .inl rfl, fun _ => fresh.1.2, ?_, h.closed, ?_⟩, rfl, rfl, rfl,
        fun _ => .inl rfl⟩
      · intro socket created other
        have older : socket < s.sockets := by
          have : socket ≠ s.sockets := fun same => other (same ▸ rfl)
          have : socket < s.sockets + 1 := created
          omega
        exact h.dropped socket older (by simp [fresh.1.1])
      · intro absent
        simp [absent] at present

theorem Invariant.getSnapshot {s : WsState T} (h : src.Invariant s) :
    src.Invariant (src.getSnapshot s).1 := by
  have counted : src.Invariant { s with calls := s.calls + 1 } :=
    ⟨h.served, h.exclusive, h.dropped, h.closed, h.absent⟩
  unfold WsSource.getSnapshot
  simp only
  split
  · exact counted
  · rename_i isOpen
    split
    · exact counted.armIdleTimer
    · rename_i s' connected
      obtain ⟨h', closed, _, _, serves⟩ := counted.connect connected
      have isOpen' : s'.closed = false := closed.trans (Bool.not_eq_true _ ▸ isOpen)
      split
      · refine ⟨fun _ => serves (Bool.not_eq_true _ ▸ isOpen), h'.exclusive, h'.dropped,
          ?_, h'.absent⟩
        intro isClosed
        exact absurd (isOpen'.symm.trans isClosed) Bool.false_ne_true
      · exact h'.armIdleTimer

theorem Invariant.close {s : WsState T} (h : src.Invariant s) : src.Invariant (src.close s).1 := by
  apply foldl_armIdleTimer
  exact ⟨fun waiting => absurd rfl waiting, fun _ => rfl, fun socket created _ =>
    h.all_dropped socket created, fun _ => rfl, fun _ => ⟨rfl, rfl⟩⟩

theorem Invariant.handleFrame {s : WsState T} (h : src.Invariant s) (data : Option String) :
    src.Invariant (src.handleFrame s data).1 := by
  unfold WsSource.handleFrame
  cases data with
  | none => exact h
  | some text =>
      simp only
      split
      · exact ⟨h.served, h.exclusive, h.dropped, h.closed, h.absent⟩
      · apply foldl_armIdleTimer
        exact ⟨fun waiting => absurd rfl waiting, h.exclusive, h.dropped, fun _ => rfl, h.absent⟩

theorem Invariant.idleClose {s : WsState T} (h : src.Invariant s) :
    src.Invariant (src.idleClose s).1 := by
  unfold WsSource.idleClose
  split
  · exact h.armIdleTimer
  · rename_i nobody
    exact ⟨fun waiting => absurd waiting nobody, fun _ => rfl, fun socket created _ =>
      h.all_dropped socket created, h.closed, fun _ => ⟨rfl, rfl⟩⟩

/-- The current socket dispatches `close`. -/
theorem Invariant.socketClosed {s : WsState T} (h : src.Invariant s) {socket : Nat}
    (current : s.ws = some socket) :
    src.Invariant
      (scheduleReconnect { s with ws := none, closeFired := socket :: s.closeFired }) := by
  have noTimer : s.reconnectTimer = none := h.exclusive (by simp [current])
  have present : src.webSocket ≠ false := by
    intro absent
    simp [(h.absent absent).1] at current
  have others : ∀ k < s.sockets, k ∈ s.closeCalled ∨ k ∈ socket :: s.closeFired := by
    intro k created
    by_cases same : k = socket
    · exact .inr (by simp [same])
    · have other : s.ws ≠ some k := by
        rw [current]
        intro pair
        exact same (Option.some.inj pair).symm
      cases h.dropped k created other with
      | inl called => exact .inl called
      | inr fired => exact .inr (List.mem_cons_of_mem _ fired)
  unfold scheduleReconnect
  by_cases isClosed : s.closed = true
  · rw [if_pos (by simp [isClosed])]
    exact ⟨fun waiting => absurd (h.closed isClosed) waiting, fun _ => noTimer,
      fun k created _ => others k created, h.closed, fun absent => absurd absent present⟩
  · rw [if_neg (by simp [isClosed, noTimer])]
    exact ⟨fun _ => .inr rfl, fun set => absurd set Bool.false_ne_true,
      fun k created _ => others k created, h.closed, fun absent => absurd absent present⟩

/-- The reconnect timer fires. -/
theorem Invariant.reconnected {s : WsState T} (h : src.Invariant s)
    (pending : s.reconnectTimer.isSome) :
    src.Invariant ((src.connect { s with reconnectTimer := none }).toOption.getD
      { s with reconnectTimer := none }) := by
  have noSocket : s.ws = none := by
    cases socket : s.ws with
    | none => rfl
    | some k => simp [h.exclusive (by simp [socket])] at pending
  have present : src.webSocket = true := by
    cases absent : src.webSocket with
    | true => rfl
    | false => simp [(h.absent absent).2] at pending
  by_cases isClosed : s.closed = true
  · have kept : src.connect { s with reconnectTimer := none } =
        .ok { s with reconnectTimer := none } := by
      simp [WsSource.connect, isClosed]
    rw [kept]
    exact ⟨fun waiting => absurd (h.closed isClosed) waiting, fun _ => rfl, h.dropped, h.closed,
      fun _ => ⟨noSocket, rfl⟩⟩
  · have opened : src.connect { s with reconnectTimer := none }
        = .ok
          { s with ws := some s.sockets, sockets := s.sockets + 1, reconnectTimer := none } := by
      simp [WsSource.connect, isClosed, noSocket, present]
    rw [opened]
    refine ⟨fun _ => .inl rfl, fun _ => rfl, ?_, h.closed,
      fun absent => by simp [absent] at present⟩
    intro socket created other
    have older : socket < s.sockets := by
      have : socket ≠ s.sockets := fun same => other (same ▸ rfl)
      have : socket < s.sockets + 1 := created
      omega
    exact h.dropped socket older (by simp [noSocket])

theorem Invariant.handle {s : WsState T} {label : WsLabel} (h : src.Invariant s)
    (enabled : Enabled s label) : src.Invariant (src.handle s label).1 := by
  cases label with
  | getSnapshot => exact h.getSnapshot
  | close => exact h.close
  | socketOpen socket => exact ⟨h.served, h.exclusive, h.dropped, h.closed, h.absent⟩
  | socketMessage socket data => exact h.handleFrame data
  | socketError socket => exact h
  | socketClose socket =>
      unfold WsSource.handle
      simp only
      split
      · refine ⟨h.served, h.exclusive, ?_, h.closed, h.absent⟩
        intro k created other
        exact (h.dropped k created other).imp_right (List.mem_cons_of_mem _)
      · rename_i current
        exact h.socketClosed (not_not.mp current)
  | reconnectTimer => exact h.reconnected enabled
  | idleTimer => exact Invariant.idleClose ⟨h.served, h.exclusive, h.dropped, h.closed, h.absent⟩
  | firstFrameTimeout call =>
      apply Invariant.armIdleTimer
      refine ⟨?_, h.exclusive, h.dropped, ?_, h.absent⟩
      · intro waiting
        apply h.served
        intro nobody
        simp [nobody] at waiting
      · intro isClosed
        simp [h.closed isClosed]

theorem stepped {s s' : WsState T} {label : WsLabel} {events : List (WsEvent R)}
    (step : src.machine.step s label = some (s', events)) :
    Enabled s label ∧ src.handle s label = (s', events) := by
  obtain ⟨enabled, handled⟩ := Option.ite_none_right_eq_some.mp step
  exact ⟨enabled, Option.some.inj handled⟩

theorem Invariant.runs {labels : List WsLabel} {s : WsState T} {trace : List (WsEvent R)}
    (run : src.machine.Runs labels s trace) : src.Invariant s := by
  apply run.invariant invariant_start
  intro s label s' events h _ step
  obtain ⟨enabled, handled⟩ := stepped step
  have kept := h.handle enabled
  rw [handled] at kept
  exact kept

end WsSource

/-! ## The events -/

namespace WsEvent

variable {R : Type}

def IsTeardown : WsEvent R → Prop
  | idleTeardown => True
  | _ => False

def IsFrame : WsEvent R → Prop
  | frameApplied => True
  | _ => False

def IsResolved : WsEvent R → Prop
  | resolved _ _ => True
  | _ => False

def IsRejected : WsEvent R → Prop
  | rejected _ _ => True
  | _ => False

end WsEvent

namespace WsSource

variable {T R : Type} {src : WsSource T R}

/-- What a step gives off, by what becomes of `hasFrame`. -/
inductive Gives (s s' : WsState T) : List (WsEvent R) → Prop
  | quiet {events} : (∀ e ∈ events, e.IsRejected) → s'.hasFrame = s.hasFrame → Gives s s' events
  | buffered (call : Nat) (snapshot : R) : s.hasFrame = true → s'.hasFrame = true → Gives s s'
      [.resolved call snapshot]
  | frame (calls : List Nat) (snapshot : R) :
      s'.hasFrame = true
      → Gives s s' (.frameApplied :: calls.map fun call => .resolved call snapshot)
  | teardown : s'.hasFrame = false → Gives s s' [.idleTeardown]

theorem handle_emits_by_hasFrame {s : WsState T} (h : src.Invariant s) (label : WsLabel) :
    Gives s (src.handle s label).1 (src.handle s label).2 := by
  have unchanged : ∀ {s' : WsState T}, s'.hasFrame = s.hasFrame → Gives (R := R) s s' [] :=
    fun same => .quiet (by simp) same
  cases label with
  | getSnapshot =>
      unfold handle getSnapshot
      simp only
      split
      · exact .quiet (by simp [WsEvent.IsRejected]) rfl
      · split
        · exact .quiet (by simp [WsEvent.IsRejected]) rfl
        · rename_i s' connected
          have counted : src.Invariant { s with calls := s.calls + 1 } :=
            ⟨h.served, h.exclusive, h.dropped, h.closed, h.absent⟩
          have same : s'.hasFrame = s.hasFrame := (counted.connect connected).2.2.2.1
          split
          · exact unchanged same
          · rename_i framed
            rw [Bool.not_eq_true', Bool.not_eq_false] at framed
            exact .buffered _ _ (same.symm.trans framed) framed
  | close =>
      refine .quiet ?_ (foldl_armIdleTimer_hasFrame _ _)
      intro e member
      obtain ⟨call, _, rfl⟩ := List.mem_map.mp member
      trivial
  | socketOpen socket => exact unchanged rfl
  | socketMessage socket data =>
      unfold handle handleFrame
      cases data with
      | none => exact unchanged rfl
      | some text =>
          simp only
          split
          · exact unchanged rfl
          · exact .frame _ _ (foldl_armIdleTimer_hasFrame _ _)
  | socketError socket => exact unchanged rfl
  | socketClose socket =>
      apply unchanged
      unfold handle scheduleReconnect
      simp only
      split
      · rfl
      · split <;> rfl
  | reconnectTimer =>
      apply unchanged
      unfold handle connect
      simp only
      split
      · rfl
      · split <;> rfl
  | idleTimer =>
      show Gives s (src.idleClose { s with idleTimer := none }).1
        (src.idleClose { s with idleTimer := none }).2
      unfold idleClose
      split
      · exact unchanged rfl
      · exact .teardown rfl
  | firstFrameTimeout call => exact .quiet (by simp [handle, WsEvent.IsRejected]) rfl

open Machine

/-- While a teardown has no frame after it, none is buffered. -/
theorem teardown_withholds_until_frame {labels : List WsLabel} {s : WsState T}
    {trace : List (WsEvent R)} (run : src.machine.Runs labels s trace) :
    Separated WsEvent.IsTeardown WsEvent.IsFrame WsEvent.IsResolved trace
      ∧ (Open WsEvent.IsTeardown WsEvent.IsFrame trace → s.hasFrame = false) := by
  induction run with
  | start => exact ⟨separated_nil, fun due => absurd due not_open_nil⟩
  | @step labels s trace label s' events run _ step ih =>
      obtain ⟨separated, due⟩ := ih
      have given := handle_emits_by_hasFrame (Invariant.runs run) label
      rw [(stepped step).2] at given
      cases given with
      | quiet rejected same =>
          have inert : ∀ e ∈ events, ¬ e.IsTeardown ∧ ¬ e.IsResolved := by
            intro e member
            have := rejected e member
            cases e <;> simp_all [WsEvent.IsTeardown, WsEvent.IsResolved, WsEvent.IsRejected]
          refine ⟨separated_append_inert separated fun e member => (inert e member).2, ?_⟩
          intro still
          exact same.trans (due (still.of_append fun e member => (inert e member).1))
      | buffered call snapshot framed framed' =>
          have closed : ¬ Open WsEvent.IsTeardown WsEvent.IsFrame trace := by
            intro still
            exact absurd ((due still).symm.trans framed) Bool.false_ne_true
          refine ⟨separated_concat separated fun _ => closed, ?_⟩
          intro still
          exact absurd (still.of_append (by simp [WsEvent.IsTeardown])) closed
      | frame calls snapshot framed =>
          have cleared :
              ¬ Open WsEvent.IsTeardown
                WsEvent.IsFrame (trace ++ [WsEvent.frameApplied (R := R)]) := by
            rw [open_concat]
            simp [WsEvent.IsTeardown, WsEvent.IsFrame]
          have inert : ∀ e ∈ calls.map fun call => WsEvent.resolved call snapshot,
              ¬ e.IsTeardown := by
            intro e member
            obtain ⟨call, _, rfl⟩ := List.mem_map.mp member
            exact id
          have framed_trace := separated_concat separated (e := WsEvent.frameApplied)
            fun isBad => isBad.elim
          rw [List.append_cons]
          refine ⟨separated_append framed_trace ?_, ?_⟩
          · intro before x after parts _ still
            refine cleared (still.of_append ?_)
            intro e member
            exact inert e (by simp [parts, member])
          · intro still
            exact absurd (still.of_append inert) cleared
      | teardown unframed =>
          exact ⟨separated_concat separated (fun isBad => isBad.elim), fun _ => unframed⟩

/-- In every state that is reached, whoever waits is served by a socket or a pending timer,
an idle firing leaves them their socket, only the current socket is open, and no call
resolves between an idle teardown and the next frame applied. -/
theorem stream_source_sound {labels : List WsLabel} {s : WsState T} {trace : List (WsEvent R)}
    (run : src.machine.Runs labels s trace) :
    (s.closed = false → s.frameWaiters ≠ [] → s.ws.isSome ∨ s.reconnectTimer.isSome)
      ∧ (∀ s' events, src.machine.step s .idleTimer = some (s', events) → s.frameWaiters ≠ [] →
          s'.ws = s.ws ∧ s'.reconnectTimer = s.reconnectTimer ∧ s'.closeCalled = s.closeCalled)
      ∧ (∀ socket < s.sockets, s.ws ≠ some socket → socket ∈ s.closeCalled ∨ socket ∈ s.closeFired)
      ∧ (s.ws.isSome → s.reconnectTimer = none)
      ∧ Separated WsEvent.IsTeardown WsEvent.IsFrame WsEvent.IsResolved trace := by
  have h := Invariant.runs run
  refine ⟨fun _ => h.served, ?_, h.dropped, h.exclusive, (teardown_withholds_until_frame run).1⟩
  intro s' events step waiting
  have after : src.idleClose { s with idleTimer := none } = (s', events) := (stepped step).2
  rw [idleClose, if_pos waiting] at after
  cases after
  exact ⟨rfl, rfl, rfl⟩

end WsSource

/-! ## A run with a teardown -/

namespace Sample

def source : WsSource String String where
  name := "overrides"
  firstFrameTimeoutMs := 5000
  idleTimeoutMs := some 30000
  webSocket := true
  initial := ""
  applyFrame _ text := (text, true)
  copySnapshot snapshot := snapshot

def labels : List WsLabel :=
  [.getSnapshot, .socketOpen 0, .socketMessage 0 (some "a"), .idleTimer, .getSnapshot,
    .socketClose 0]

/-- The second call waits at the second socket. -/
def waiting : WsState String where
  ws := some 1
  closed := false
  reconnectAttempts := 0
  reconnectTimer := none
  idleTimer := none
  hasFrame := false
  frameWaiters := [1]
  snapshot := "a"
  sockets := 2
  closeCalled := [0]
  closeFired := [0]
  calls := 2

theorem run : source.machine.Runs labels waiting [.frameApplied, .resolved 0 "a", .idleTeardown] :=
  Machine.runs_of_run rfl

end Sample

theorem stream_source_sound_sample :
    Sample.waiting.frameWaiters ≠ []
    ∧ (Sample.waiting.ws.isSome ∨ Sample.waiting.reconnectTimer.isSome)
      ∧ Machine.Separated WsEvent.IsTeardown WsEvent.IsFrame WsEvent.IsResolved
          [WsEvent.frameApplied, .resolved 0 "a", .idleTeardown] := by
  obtain ⟨served, _, _, _, separated⟩ := WsSource.stream_source_sound Sample.run
  exact ⟨by decide, served rfl (by decide), separated⟩

end PropAMM.TypeScript
