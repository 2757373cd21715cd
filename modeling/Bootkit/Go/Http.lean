import Bootkit.Go.Errors
import Bootkit.Go.Machine

/-! The server of `net/http`: its accept loop, its connections, and its graceful shutdown. -/

namespace Go

/-- What `Serve` returns once `Shutdown` was called. -/
def errServerClosed : Sentinel := ⟨"http", "http: Server closed"⟩

/-- The listener that is given to `Serve`. -/
inductive HttpListener where
  | unbound
  | bound
  | closed
  deriving Repr, DecidableEq

/-- Where the goroutine is that calls `Serve`. -/
inductive HttpLoop where
  | unlaunched
  -- The goroutine exists, and `Serve` has not looked at the server.
  | launched
  -- The listener is tracked, and the loop waits for a connection.
  | accepting
  -- A connection was accepted, and the server does not know of it yet.
  | holding
  | returned (err : Err)
  deriving Repr, DecidableEq

/-- What a server knows of a connection. -/
inductive HttpConn where
  | absent
  -- No byte of a request has arrived.
  | fresh
  -- A request is being read, handled, or answered.
  | active
  | idle
  | closed
  deriving Repr, DecidableEq

/-- Where the call of `Shutdown` is, with the error of closing the listeners. -/
inductive HttpShutdown where
  | uncalled
  | called
  -- The flag is set, and the listeners are open.
  | flagged
  -- The listeners are closed, and the accept loops have not all returned.
  | waiting (lnerr : Option Err)
  -- About to close the idle connections.
  | polling (lnerr : Option Err)
  -- A connection was busy: waiting for the timer or for the context.
  | selecting (lnerr : Option Err)
  -- No connection was left, and the error of closing the listeners is returned.
  | drained (lnerr : Option Err)
  -- The context was done, and its error is returned.
  | gaveUp (err : Err)
  deriving Repr, DecidableEq

/-- A server with its connections, which are numbered in the order in which they came. -/
structure HttpServer where
  listener : HttpListener
  loop : HttpLoop
  inShutdown : Bool
  accepted : Nat
  conns : Nat → HttpConn
  shutdown : HttpShutdown

/-- A new server: nobody serves, and nobody shuts it down. -/
def newHttpServer : HttpServer where
  listener := .unbound
  loop := .unlaunched
  inShutdown := false
  accepted := 0
  conns := fun _ => .absent
  shutdown := .uncalled

/-- What can happen on a server. -/
inductive HttpAction where
  -- A goroutine is launched that calls `Serve` with a bound listener.
  | launch
  | serve
  | accept
  | track
  -- Accepting fails while the server is not shut down.
  | fail (err : Err)
  -- Accepting fails after the server was shut down.
  | leave
  -- The first byte of a request arrives.
  | request (conn : Nat)
  -- The handler has returned, and the connection is kept for another request or closed.
  | answer (conn : Nat) (keep : Bool)
  -- A connection without a request counts as idle after a few seconds.
  | stale (conn : Nat)
  -- The client closes a connection on which no request is in progress.
  | hangUp (conn : Nat)
  -- The steps of `Shutdown`.
  | call
  | flag
  | closeListeners (lnerr : Option Err)
  | loopsDone
  | poll
  | timer
  | giveUp (err : Err)
  deriving Repr, DecidableEq

/-- Whether the listener of an accept loop is tracked, so that `Shutdown` waits for the loop. -/
def HttpLoop.tracked : HttpLoop → Bool
  | .accepting | .holding => true
  | _ => false

/-- Whether `Shutdown` waits for a connection. -/
def HttpConn.busy : HttpConn → Bool
  | .fresh | .active => true
  | _ => false

/-- Whether there is no such connection, or not any more. -/
def HttpConn.gone : HttpConn → Bool
  | .absent | .closed => true
  | _ => false

namespace HttpServer

/-- The idle connections closed. -/
def closeIdleConns (s : HttpServer) : HttpServer :=
  { s with conns := fun conn => if s.conns conn = .idle then .closed else s.conns conn }

/-- Whether no connection is busy. -/
def quiescent (s : HttpServer) : Bool :=
  (List.range s.accepted).all fun conn => !(s.conns conn).busy

/-- One connection moved on. -/
def setConn (s : HttpServer) (conn : Nat) (phase : HttpConn) : HttpServer :=
  { s with conns := update s.conns conn phase }

end HttpServer

/-- One step on a server. -/
def httpStep (s : HttpServer) : HttpAction → Option HttpServer
  | .launch =>
    match s.loop with
    | .unlaunched => some { s with loop := .launched, listener := .bound }
    | _ => none
  | .serve =>
    match s.loop with
    -- A server that was shut down is not served again, and `Serve` closes its listener.
    | .launched =>
      if s.inShutdown then
        some { s with loop := .returned (.new errServerClosed), listener := .closed }
      else some { s with loop := .accepting }
    | _ => none
  | .accept =>
    match s.loop, s.listener with
    | .accepting, .bound => some { s with loop := .holding }
    | _, _ => none
  | .track =>
    match s.loop with
    | .holding => some { s.setConn s.accepted .fresh with
        loop := .accepting, accepted := s.accepted + 1 }
    | _ => none
  | .fail err =>
    match s.loop, s.inShutdown with
    | .accepting, false => some { s with loop := .returned err, listener := .closed }
    | _, _ => none
  | .leave =>
    match s.loop, s.inShutdown with
    | .accepting, true =>
      some { s with loop := .returned (.new errServerClosed), listener := .closed }
    | _, _ => none
  | .request conn =>
    match s.conns conn with
    | .fresh | .idle => some (s.setConn conn .active)
    | _ => none
  | .answer conn keep =>
    match s.conns conn with
    | .active => some (s.setConn conn (if keep then .idle else .closed))
    | _ => none
  | .stale conn =>
    match s.conns conn with
    | .fresh => some (s.setConn conn .idle)
    | _ => none
  | .hangUp conn =>
    match s.conns conn with
    | .fresh | .idle => some (s.setConn conn .closed)
    | _ => none
  | .call =>
    match s.shutdown with
    | .uncalled => some { s with shutdown := .called }
    | _ => none
  | .flag =>
    match s.shutdown with
    | .called => some { s with shutdown := .flagged, inShutdown := true }
    | _ => none
  | .closeListeners lnerr =>
    match s.shutdown with
    -- A listener that `Serve` has not taken up yet is not tracked, and stays open.
    | .flagged => some { s with
        shutdown := .waiting lnerr
        listener := if s.loop.tracked then .closed else s.listener }
    | _ => none
  | .loopsDone =>
    match s.shutdown with
    | .waiting lnerr => if s.loop.tracked then none else some { s with shutdown := .polling lnerr }
    | _ => none
  | .poll =>
    match s.shutdown with
    | .polling lnerr => some { s.closeIdleConns with
        shutdown := if s.quiescent then .drained lnerr else .selecting lnerr }
    | _ => none
  | .timer =>
    match s.shutdown with
    | .selecting lnerr => some { s with shutdown := .polling lnerr }
    | _ => none
  | .giveUp err =>
    match s.shutdown with
    | .selecting _ => some { s with shutdown := .gaveUp err }
    | _ => none

/-- Whether the flag of a server is set. -/
def HttpShutdown.begun : HttpShutdown → Bool
  | .uncalled | .called => false
  | _ => true

/-- Whether `Shutdown` has seen the accept loops return. -/
def HttpShutdown.pastLoops : HttpShutdown → Bool
  | .polling _ | .selecting _ | .drained _ | .gaveUp _ => true
  | _ => false

/-- The steps on a server, as a relation between states. -/
inductive HttpMove (s : HttpServer) : HttpAction → HttpServer → Prop
  | launch (phase : s.loop = .unlaunched) :
    HttpMove s .launch { s with loop := .launched, listener := .bound }
  | serve (phase : s.loop = .launched) (live : s.inShutdown = false) :
    HttpMove s .serve { s with loop := .accepting }
  | accept (phase : s.loop = .accepting) (bound : s.listener = .bound) :
    HttpMove s .accept { s with loop := .holding }
  | track (phase : s.loop = .holding) :
    HttpMove s .track { s.setConn s.accepted .fresh with
      loop := .accepting, accepted := s.accepted + 1 }
  -- `Serve` returns, and its listener is closed.
  | end_ {action : HttpAction} {err : Err} (launched : s.loop ≠ .unlaunched) :
    HttpMove s action { s with loop := .returned err, listener := .closed }
  -- Something happens on a connection that the server has.
  | conn {action : HttpAction} {conn : Nat} {phase : HttpConn}
      (present : (s.conns conn).gone = false) : HttpMove s action (s.setConn conn phase)
  | call (phase : s.shutdown = .uncalled) : HttpMove s .call { s with shutdown := .called }
  | flag (phase : s.shutdown = .called) :
    HttpMove s .flag { s with shutdown := .flagged, inShutdown := true }
  | closeListeners {lnerr : Option Err} (phase : s.shutdown = .flagged) :
    HttpMove s (.closeListeners lnerr) { s with
      shutdown := .waiting lnerr, listener := if s.loop.tracked then .closed else s.listener }
  | loopsDone {lnerr : Option Err} (phase : s.shutdown = .waiting lnerr)
      (left : s.loop.tracked = false) : HttpMove s .loopsDone { s with shutdown := .polling lnerr }
  | drained {lnerr : Option Err} (phase : s.shutdown = .polling lnerr)
      (quiet : s.quiescent = true) :
    HttpMove s .poll { s.closeIdleConns with shutdown := .drained lnerr }
  | busy {lnerr : Option Err} (phase : s.shutdown = .polling lnerr)
      (loud : s.quiescent = false) :
    HttpMove s .poll { s.closeIdleConns with shutdown := .selecting lnerr }
  | timer {lnerr : Option Err} (phase : s.shutdown = .selecting lnerr) :
    HttpMove s .timer { s with shutdown := .polling lnerr }
  | giveUp {lnerr : Option Err} {err : Err} (phase : s.shutdown = .selecting lnerr) :
    HttpMove s (.giveUp err) { s with shutdown := .gaveUp err }

/-- Every step on a server is one of its moves. -/
theorem httpStep_move {s next : HttpServer} {action : HttpAction}
    (taken : httpStep s action = some next) : HttpMove s action next := by
  -- The ways in which `Serve` returns are one move, and so is whatever happens on a connection.
  cases action with
  | launch | track | call | flag | timer | closeListeners | giveUp =>
    simp only [httpStep] at taken
    split at taken <;> cases taken
    constructor
    assumption
  | accept =>
    simp only [httpStep] at taken
    split at taken <;> cases taken
    exact .accept (by assumption) (by assumption)
  | serve =>
    simp only [httpStep] at taken
    split at taken
    · rename_i phase
      split at taken <;> cases taken
      · exact .end_ (by simp [phase])
      · exact .serve phase (by simp_all)
    · cases taken
  | fail | leave =>
    simp only [httpStep] at taken
    split at taken <;> cases taken
    rename_i phase _
    exact .end_ (by simp [phase])
  | request | answer | stale | hangUp =>
    simp only [httpStep] at taken
    split at taken <;> cases taken
    all_goals
      rename_i phase
      exact .conn (by simp [phase, HttpConn.gone])
  | loopsDone =>
    simp only [httpStep] at taken
    split at taken
    · split at taken <;> cases taken
      exact .loopsDone (by assumption) (by simp_all)
    · cases taken
  | poll =>
    simp only [httpStep] at taken
    split at taken <;> cases taken
    rename_i lnerr phase
    by_cases quiet : s.quiescent = true
    · rw [if_pos quiet]
      exact .drained phase quiet
    · rw [if_neg quiet]
      exact .busy phase (by simpa using quiet)

/-- What holds on a server whatever its clients do. -/
structure HttpInvariant (s : HttpServer) : Prop where
  untaken : ∀ conn, s.accepted ≤ conn → s.conns conn = .absent
  unserved : s.loop = .unlaunched → s.accepted = 0
  flagged : s.shutdown.begun = true → s.inShutdown = true
  left : s.shutdown.pastLoops = true → s.loop.tracked = false
  drained : ∀ lnerr, s.shutdown = .drained lnerr → ∀ conn, (s.conns conn).gone = true

/-- A connection that exists was accepted. -/
theorem HttpInvariant.taken {s : HttpServer} (holds : HttpInvariant s) {conn : Nat}
    (present : (s.conns conn).gone = false) : conn < s.accepted := by
  -- What was not accepted is absent.
  by_contra beyond
  rw [holds.untaken conn (by omega)] at present
  cases present

/-- Without a launched loop there are no connections. -/
theorem HttpInvariant.silent {s : HttpServer} (holds : HttpInvariant s)
    (unlaunched : s.loop = .unlaunched) (conn : Nat) : (s.conns conn).gone = true := by
  -- Without a loop nothing was accepted.
  rw [holds.untaken conn (by simp [holds.unserved unlaunched])]
  rfl

/-- When no connection is busy, closing the idle ones leaves none. -/
theorem closeIdleConns_gone {s : HttpServer} (holds : HttpInvariant s)
    (quiet : s.quiescent = true) (conn : Nat) : (s.closeIdleConns.conns conn).gone = true := by
  -- Connections that were accepted are not busy, and the others do not exist.
  show (if s.conns conn = .idle then HttpConn.closed else s.conns conn).gone = true
  by_cases within : conn < s.accepted
  · have calm := List.all_eq_true.mp quiet conn (List.mem_range.mpr within)
    cases phase : s.conns conn <;> simp_all [HttpConn.busy, HttpConn.gone]
  · rw [holds.untaken conn (by omega)]
    rfl

/-- Closing the idle connections creates none. -/
theorem closeIdleConns_untaken {s : HttpServer} (holds : HttpInvariant s) (conn : Nat)
    (beyond : s.accepted ≤ conn) : s.closeIdleConns.conns conn = .absent := by
  -- An absent connection is not idle.
  show (if s.conns conn = .idle then HttpConn.closed else s.conns conn) = .absent
  rw [holds.untaken conn beyond]
  rfl

/-- Every step on a server keeps what holds on it. -/
theorem httpInvariant_move {s next : HttpServer} {action : HttpAction}
    (moved : HttpMove s action next) (holds : HttpInvariant s) : HttpInvariant next := by
  -- Only an accept loop adds connections, and `Shutdown` has outlived it before it polls.
  cases moved with
  | launch phase =>
    exact ⟨holds.untaken, by simp, holds.flagged, fun _ => rfl, holds.drained⟩
  | serve phase live =>
    refine ⟨holds.untaken, by simp, holds.flagged, ?_, holds.drained⟩
    intro past
    -- A server that is not flagged cannot be past its accept loops.
    have begun : s.shutdown.begun = true := by
      cases phase : s.shutdown <;> simp_all [HttpShutdown.begun, HttpShutdown.pastLoops]
    simp [holds.flagged begun] at live
  | accept phase bound =>
    refine ⟨holds.untaken, by simp, holds.flagged, ?_, holds.drained⟩
    intro past
    have left := holds.left past
    simp [phase, HttpLoop.tracked] at left
  | track phase =>
    have inside : s.shutdown.pastLoops = false := by
      by_contra past
      have left := holds.left (by simpa using past)
      simp [phase, HttpLoop.tracked] at left
    refine ⟨?_, by simp, holds.flagged, ?_, ?_⟩
    · intro conn beyond
      have beyond : s.accepted + 1 ≤ conn := beyond
      have other : conn ≠ s.accepted := by omega
      show update s.conns s.accepted .fresh conn = .absent
      rw [update_other _ _ other]
      exact holds.untaken conn (by omega)
    · intro past
      have past : s.shutdown.pastLoops = true := past
      simp [inside] at past
    · intro lnerr ended
      have ended : s.shutdown = .drained lnerr := ended
      simp [ended, HttpShutdown.pastLoops] at inside
  | end_ launched => exact ⟨holds.untaken, by simp, holds.flagged, fun _ => rfl, holds.drained⟩
  | @conn _ at_ phase present =>
    have known := holds.taken present
    refine ⟨?_, holds.unserved, holds.flagged, holds.left, ?_⟩
    · intro conn beyond
      have beyond : s.accepted ≤ conn := beyond
      have other : conn ≠ at_ := by omega
      show update s.conns at_ phase conn = .absent
      rw [update_other _ _ other]
      exact holds.untaken conn beyond
    · intro lnerr ended
      -- A drained server has no connection on which something could happen.
      have gone := holds.drained lnerr ended at_
      rw [present] at gone
      cases gone
  | call phase => exact ⟨holds.untaken, holds.unserved, by simp [HttpShutdown.begun],
      by simp [HttpShutdown.pastLoops], by simp⟩
  | flag phase => exact ⟨holds.untaken, holds.unserved, fun _ => rfl,
      by simp [HttpShutdown.pastLoops], by simp⟩
  | closeListeners phase =>
    have flagged := holds.flagged (by rw [phase]; rfl)
    exact ⟨holds.untaken, holds.unserved, fun _ => flagged, by simp [HttpShutdown.pastLoops],
      by simp⟩
  | loopsDone phase left =>
    have flagged := holds.flagged (by rw [phase]; rfl)
    exact ⟨holds.untaken, holds.unserved, fun _ => flagged, fun _ => left, by simp⟩
  | drained phase quiet =>
    have flagged := holds.flagged (by rw [phase]; rfl)
    have left := holds.left (by rw [phase]; rfl)
    exact ⟨closeIdleConns_untaken holds, holds.unserved, fun _ => flagged, fun _ => left,
      fun _ _ => closeIdleConns_gone holds quiet⟩
  | busy phase loud =>
    have flagged := holds.flagged (by rw [phase]; rfl)
    have left := holds.left (by rw [phase]; rfl)
    exact ⟨closeIdleConns_untaken holds, holds.unserved, fun _ => flagged, fun _ => left,
      by simp⟩
  | timer phase | giveUp phase =>
    have flagged := holds.flagged (by rw [phase]; rfl)
    have left := holds.left (by rw [phase]; rfl)
    exact ⟨holds.untaken, holds.unserved, fun _ => flagged, fun _ => left, by simp⟩

/-- What `Shutdown` returns, once it does. -/
def HttpShutdown.result : HttpShutdown → Option (Option Err)
  | .drained lnerr => some lnerr
  | .gaveUp err => some (some err)
  | _ => none

/-- What `Shutdown` has returned does not change. -/
theorem HttpMove.result {s next : HttpServer} {action : HttpAction}
    (moved : HttpMove s action next) {result : Option Err}
    (ended : s.shutdown.result = some result) : next.shutdown.result = some result := by
  -- Every move of `Shutdown` itself starts from a phase without a result.
  cases moved with
  | call phase | flag phase | closeListeners phase | loopsDone phase | drained phase
  | busy phase | timer phase | giveUp phase => simp [phase, HttpShutdown.result] at ended
  | _ => exact ended

/-- The error with which the context was done, if `Shutdown` gave up. -/
def HttpShutdown.abandoned : HttpShutdown → Option Err
  | .gaveUp err => some err
  | _ => none

/-- Only giving up ends in having given up. -/
theorem HttpMove.abandoned {s next : HttpServer} {action : HttpAction}
    (moved : HttpMove s action next) {err : Err} (ended : next.shutdown.abandoned = some err) :
    s.shutdown.abandoned = some err ∨ action = .giveUp err := by
  -- Giving up is the only way into this phase, and nothing leads out of it.
  cases moved with
  | giveUp phase =>
    obtain rfl : _ = err := Option.some.inj ended
    exact .inr rfl
  | call | flag | closeListeners | loopsDone | drained | busy | timer => cases ended
  | _ => exact .inl ended

/-- Only launching a loop makes a server serve. -/
theorem HttpMove.unlaunched {s next : HttpServer} {action : HttpAction}
    (moved : HttpMove s action next) (unlaunched : s.loop = .unlaunched)
    (other : action ≠ .launch) : next.loop = .unlaunched := by
  -- The accept loop takes its steps, and returns, only after it was launched.
  cases moved with
  | launch phase => exact absurd rfl other
  | serve phase | accept phase | track phase =>
    rw [unlaunched] at phase
    cases phase
  | end_ launched => exact absurd unlaunched launched
  | _ => exact unlaunched

end Go
