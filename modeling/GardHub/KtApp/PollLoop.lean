import GardHub.Foundation.Runs

/-!
# The loop of the IPC thread

Each round of `kt_app_ipc` polls the two listening sockets and the client of the
request socket, accepts what is waiting, and acts on what was polled for the
client.  Connections are numbered in the order in which they are accepted, so
that a number stands for one client for good, which a descriptor does not.
-/

namespace GardHub
namespace KtApp

open Foundation

/-!
## Rounds
-/

/-- The `revents` of a polled descriptor. -/
structure PollEvents where
  pollin : Bool
  pollhup : Bool
  pollerr : Bool
  pollnval : Bool
deriving DecidableEq

/-- `POLLERR | POLLHUP | POLLNVAL` -/
def PollEvents.failed (events : PollEvents) : Bool :=
  events.pollerr || events.pollhup || events.pollnval

/-- Nothing that the loop looks for was reported. -/
def PollEvents.quiet (events : PollEvents) : Bool :=
  !events.failed && !events.pollin

/-- How a call of `poll` ends.  The events of the client mean something only if
there is one. -/
inductive PollResult where
  | interrupted
  | failed
  | timeout
  | ready (streamListener reqRespListener client : PollEvents)
deriving DecidableEq

/-- What one round meets: the flag in front of `poll` and behind it, what `poll`
reports, and whether the calls of `accept` return a connection. -/
structure IpcRound where
  exitBefore : Bool
  poll : PollResult
  exitAfter : Bool
  acceptStream : Bool
  acceptReqResp : Bool
deriving DecidableEq

/-- The round comes to `accept` for the request socket and gets a connection. -/
def IpcRound.acceptsReqResp (round : IpcRound) : Bool :=
  match round.poll with
  | .ready streamListener reqRespListener _ =>
      !round.exitBefore && !round.exitAfter && !streamListener.failed &&
        !reqRespListener.failed && reqRespListener.pollin && round.acceptReqResp
  | _ => false

/-- Nothing was reported for the client. -/
def IpcRound.clientQuiet (round : IpcRound) : Bool :=
  match round.poll with
  | .ready _ _ client => client.quiet
  | _ => true

/-- What the loop does to a client on account of an event. -/
inductive ClientAction where
  | disconnect
  | handleRequest
deriving DecidableEq

/-- An event was polled on one connection and something was done to one. -/
structure ClientEvent where
  polled : Nat
  actedOn : Nat
  action : ClientAction
deriving DecidableEq

/-- The sockets of the application.  A client is one of the connections that
were accepted. -/
structure IpcSockets where
  running : Bool
  streamAccepted : Nat
  streamClient : Option Nat
  streamIpcConnected : Bool
  reqRespAccepted : Nat
  reqRespClient : Option Nat
  reqRespIpcConnected : Bool
  events : List ClientEvent
  reqRespClient_lt : forall client, reqRespClient = some client ->
    client < reqRespAccepted

/-- The listening sockets have been created. -/
def ipcSocketsStart : IpcSockets where
  running := true
  streamAccepted := 0
  streamClient := none
  streamIpcConnected := false
  reqRespAccepted := 0
  reqRespClient := none
  reqRespIpcConnected := false
  events := []
  reqRespClient_lt := by simp

namespace IpcSockets

/-- The stream listener: if `accept` returns a connection, it takes the place of
the stream client, which is closed. -/
def acceptStream (s : IpcSockets) (accepted : Bool) : IpcSockets :=
  if accepted then
    { s with
      streamAccepted := s.streamAccepted + 1
      streamClient := some s.streamAccepted
      streamIpcConnected := true }
  else s

/-- The request listener: if `accept` returns a connection, it takes the place
of the client, which is closed. -/
def acceptReqResp (s : IpcSockets) (accepted : Bool) : IpcSockets :=
  if accepted then
    { s with
      reqRespAccepted := s.reqRespAccepted + 1
      reqRespClient := some s.reqRespAccepted
      reqRespIpcConnected := true
      reqRespClient_lt := by
        intro client hclient
        cases hclient
        exact Nat.lt_succ_self _ }
  else s

/-- The loop has been left and all sockets are closed. -/
def shutDown (s : IpcSockets) : IpcSockets :=
  { s with
    running := false
    streamClient := none
    streamIpcConnected := false
    reqRespClient := none
    reqRespIpcConnected := false
    reqRespClient_lt := by simp }

/-- Act on the events that were polled for the client: on a failure the client
is closed, on input a request is handled. -/
def handleClientEvents (s : IpcSockets) (polled : Nat) (client : Nat)
    (events : PollEvents) : IpcSockets :=
  if events.failed then
    { s with
      reqRespClient := none
      reqRespIpcConnected := false
      events := s.events ++ [⟨polled, client, .disconnect⟩]
      reqRespClient_lt := by simp }
  else if events.pollin then
    { s with events := s.events ++ [⟨polled, client, .handleRequest⟩] }
  else s

/-- The part of a round behind `poll`.  The entry for the client is in the poll
set if there was a client in front of `poll`, and it is used if there is a
client at the end. -/
def handlePolled (s : IpcSockets) (round : IpcRound)
    (streamListener reqRespListener client : PollEvents) : IpcSockets :=
  let polled := s.reqRespClient
  if streamListener.failed then s.shutDown
  else
    let s := s.acceptStream (streamListener.pollin && round.acceptStream)
    if reqRespListener.failed then s.shutDown
    else
      let s := s.acceptReqResp (reqRespListener.pollin && round.acceptReqResp)
      match polled, s.reqRespClient with
      | some polled, some current => s.handleClientEvents polled current client
      | _, _ => s

/-- A round of `kt_app_ipc`. -/
def ktAppIpcRound (s : IpcSockets) (round : IpcRound) : Option IpcSockets :=
  if !s.running then none
  else if round.exitBefore then some s.shutDown
  else
    match round.poll with
    | .interrupted => some s
    | .failed => some s.shutDown
    | .timeout => if round.exitAfter then some s.shutDown else some s
    | .ready streamListener reqRespListener client =>
        if round.exitAfter then some s.shutDown
        else some (s.handlePolled round streamListener reqRespListener client)

/-!
## Events that are acted on for the wrong client
-/

/-- Whatever was done was done to the connection the event was reported for. -/
def EventsMatch (s : IpcSockets) : Prop :=
  forall event, event ∈ s.events -> event.actedOn = event.polled

/-- No client is accepted in place of one for which an event was reported. -/
def ClientKept (s : IpcSockets) (round : IpcRound) : Prop :=
  s.reqRespClient ≠ none -> round.acceptsReqResp = true ->
    round.clientQuiet = true

instance (s : IpcSockets) (round : IpcRound) :
    Decidable (s.ClientKept round) := by
  unfold ClientKept
  infer_instance

@[simp] theorem acceptStream_events (s : IpcSockets) (accepted : Bool) :
    (s.acceptStream accepted).events = s.events := by
  cases accepted <;> rfl

@[simp] theorem acceptStream_reqRespClient (s : IpcSockets) (accepted : Bool) :
    (s.acceptStream accepted).reqRespClient = s.reqRespClient := by
  cases accepted <;> rfl

@[simp] theorem acceptReqResp_events (s : IpcSockets) (accepted : Bool) :
    (s.acceptReqResp accepted).events = s.events := by
  cases accepted <;> rfl

theorem eventsMatch_congr {s s' : IpcSockets} (h : s'.events = s.events) :
    s'.EventsMatch <-> s.EventsMatch := by
  rw [EventsMatch, EventsMatch, h]

/-- Acting on the events of another client is a mismatch unless there is nothing
to act on. -/
theorem handleClientEvents_match_iff (s : IpcSockets) (polled client : Nat)
    (events : PollEvents) :
    (s.handleClientEvents polled client events).EventsMatch <->
      s.EventsMatch ∧ (client = polled ∨ events.quiet = true) := by
  cases hfailed : events.failed with
  | true =>
      simp [handleClientEvents, EventsMatch, PollEvents.quiet, hfailed,
        or_imp, forall_and]
  | false =>
      cases hin : events.pollin with
      | true =>
          simp [handleClientEvents, EventsMatch, PollEvents.quiet, hfailed, hin,
            or_imp, forall_and]
      | false =>
          simp [handleClientEvents, PollEvents.quiet, hfailed, hin]

theorem acceptReqResp_client {s : IpcSockets} {polled current : Nat}
    {accepted : Bool} (hpolled : s.reqRespClient = some polled)
    (hcurrent : (s.acceptReqResp accepted).reqRespClient = some current) :
    current = polled <-> accepted = false := by
  have hlt := s.reqRespClient_lt polled hpolled
  cases accepted with
  | false =>
      have hsame : s.reqRespClient = some current := hcurrent
      rw [hpolled] at hsame
      simp [Option.some_inj.mp hsame]
  | true =>
      have hnew : some s.reqRespAccepted = some current := hcurrent
      have hne : current ≠ polled := by
        rw [← Option.some_inj.mp hnew]
        exact Nat.ne_of_gt hlt
      simp [hne]

theorem acceptReqResp_isSome {s : IpcSockets} {polled : Nat}
    (hpolled : s.reqRespClient = some polled) (accepted : Bool) :
    exists current, (s.acceptReqResp accepted).reqRespClient = some current := by
  cases accepted with
  | false =>
      exact ⟨polled, hpolled⟩
  | true =>
      exact ⟨s.reqRespAccepted, rfl⟩

/-- What was polled is acted on for the client it was polled for, unless there
is something to act on and another client has been accepted. -/
theorem handlePolled_match_iff {s : IpcSockets} (round : IpcRound)
    (streamListener reqRespListener client : PollEvents) (h : s.EventsMatch) :
    (s.handlePolled round streamListener reqRespListener client).EventsMatch <->
      (s.reqRespClient ≠ none -> streamListener.failed = false ->
        reqRespListener.failed = false ->
        (reqRespListener.pollin && round.acceptReqResp) = true ->
        client.quiet = true) := by
  rw [handlePolled]
  cases hstream : streamListener.failed with
  | true =>
      have hkept : s.shutDown.EventsMatch := h
      simpa using hkept
  | false =>
      cases hreqResp : reqRespListener.failed with
      | true =>
          have hkept : (s.acceptStream
              (streamListener.pollin && round.acceptStream)).shutDown.EventsMatch :=
            (eventsMatch_congr (acceptStream_events s _)).mpr h
          simpa using hkept
      | false =>
          simp only [Bool.false_eq_true, if_false, true_implies]
          generalize hs1 : s.acceptStream
            (streamListener.pollin && round.acceptStream) = s1
          generalize (reqRespListener.pollin && round.acceptReqResp) = accepted
          have hclient : s1.reqRespClient = s.reqRespClient := by
            rw [← hs1, acceptStream_reqRespClient]
          have hmatch : (s1.acceptReqResp accepted).EventsMatch := by
            rw [eventsMatch_congr (acceptReqResp_events s1 accepted),
              ← hs1, eventsMatch_congr (acceptStream_events s _)]
            exact h
          cases hpolled : s.reqRespClient with
          | none =>
              simpa using hmatch
          | some polled =>
              rw [hpolled] at hclient
              rcases acceptReqResp_isSome hclient accepted with
                ⟨current, hcurrent⟩
              have hsame := acceptReqResp_client hclient hcurrent
              simp only [hcurrent]
              rw [handleClientEvents_match_iff, hsame]
              cases accepted <;> simp [hmatch]

/-- One round keeps every event with its client exactly when no client is
accepted in place of one for which an event was reported. -/
theorem ktAppIpcRound_match_iff (s : IpcSockets) (round : IpcRound)
    (s' : IpcSockets) (h : s.EventsMatch)
    (hround : s.ktAppIpcRound round = some s') :
    s'.EventsMatch <-> s.ClientKept round := by
  -- A round that does not come to the listeners changes no client by an event.
  have hidle : forall next : IpcSockets, next.EventsMatch ->
      round.acceptsReqResp = false ->
      (next.EventsMatch <-> s.ClientKept round) := by
    intro next hnext hnone
    simp [hnext, ClientKept, hnone]
  have hstopped : s.shutDown.EventsMatch := h
  rw [ktAppIpcRound] at hround
  cases hrunning : s.running with
  | false =>
      simp [hrunning] at hround
  | true =>
      simp only [hrunning, Bool.not_true, Bool.false_eq_true, if_false] at hround
      cases hbefore : round.exitBefore with
      | true =>
          rw [hbefore, if_pos rfl] at hround
          cases hround
          apply hidle _ hstopped
          cases hpoll : round.poll <;>
            simp [IpcRound.acceptsReqResp, hpoll, hbefore]
      | false =>
          simp only [hbefore, Bool.false_eq_true, if_false] at hround
          cases hpoll : round.poll with
          | interrupted =>
              rw [hpoll] at hround
              cases hround
              exact hidle _ h (by rw [IpcRound.acceptsReqResp, hpoll])
          | failed =>
              rw [hpoll] at hround
              cases hround
              exact hidle _ hstopped (by rw [IpcRound.acceptsReqResp, hpoll])
          | timeout =>
              have hnone : round.acceptsReqResp = false := by
                rw [IpcRound.acceptsReqResp, hpoll]
              simp only [hpoll] at hround
              cases hafter : round.exitAfter with
              | true =>
                  rw [hafter] at hround
                  cases hround
                  exact hidle _ hstopped hnone
              | false =>
                  rw [hafter] at hround
                  cases hround
                  exact hidle _ h hnone
          | ready streamListener reqRespListener client =>
              simp only [hpoll] at hround
              cases hafter : round.exitAfter with
              | true =>
                  rw [hafter] at hround
                  cases hround
                  exact hidle _ hstopped
                    (by simp [IpcRound.acceptsReqResp, hpoll, hafter])
              | false =>
                  rw [hafter] at hround
                  cases hround
                  rw [handlePolled_match_iff round _ _ _ h]
                  simp [ClientKept, IpcRound.acceptsReqResp,
                    IpcRound.clientQuiet, hpoll, hbefore, hafter]

end IpcSockets

/-- In every run of the loop an event that was reported for one client is acted
on for that client only exactly when no round accepts a client of the request
socket while an event is reported for the one before it. -/
theorem ktAppIpc_eventsMatch_iff (rounds : List IpcRound) :
    (forall s, s ∈ reachedStates IpcSockets.ktAppIpcRound ipcSocketsStart rounds ->
        s.EventsMatch) <->
      RunMeets IpcSockets.ktAppIpcRound IpcSockets.ClientKept ipcSocketsStart
        rounds := by
  have hstart : ipcSocketsStart.EventsMatch := by
    intro event hevent
    cases hevent
  exact reachedStates_all_iff
    (fun s round s' => IpcSockets.ktAppIpcRound_match_iff s round s') hstart
    rounds

/-- A round with nothing but the given events and a connection for the request
listener if it is reported. -/
def listenerRound (reqRespListener client : PollEvents) : IpcRound where
  exitBefore := false
  poll := .ready ⟨false, false, false, false⟩ reqRespListener client
  exitAfter := false
  acceptStream := false
  acceptReqResp := reqRespListener.pollin

/-- A client connects, hangs up and connects again: when the loop hears of both
at once, it closes the new connection for the hang-up of the old one. -/
theorem ktAppIpc_closes_new_client :
    exists s, runActions IpcSockets.ktAppIpcRound ipcSocketsStart
        [listenerRound ⟨true, false, false, false⟩ ⟨false, false, false, false⟩,
          listenerRound ⟨true, false, false, false⟩ ⟨false, true, false, false⟩] =
          some s ∧
      s.events = [⟨0, 1, .disconnect⟩] ∧ s.reqRespClient = none ∧
      ¬ s.EventsMatch := by
  refine ⟨_, rfl, rfl, rfl, ?_⟩
  intro h
  have hsame := h ⟨0, 1, .disconnect⟩ List.mem_cons_self
  cases hsame

end KtApp
end GardHub
