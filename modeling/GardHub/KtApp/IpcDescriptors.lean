import GardHub.Foundation.Descriptors
import GardHub.KtApp.PollLoop

/-!
# The descriptors of the IPC thread

`kt_app_ipc` with the descriptors that it keeps in the context of the
application: the two listening sockets and a client of each.  The other threads
open and close descriptors of their own all the while, and a number that the
thread has closed may be given to any of them, or to the thread itself.
-/

namespace GardHub
namespace KtApp

open Foundation

/-!
## Descriptors and what they are for
-/

/-- What the thread holds descriptors for.  Connections are numbered in the
order in which they are accepted. -/
inductive IpcFile where
  | streamServer
  | streamClient (connection : Nat)
  | reqRespServer
  | reqRespClient (connection : Nat)
deriving DecidableEq

/-- The calls that are given a descriptor.  The calls of `recv` and `send` for a
request count as one. -/
inductive IpcCall where
  | bind
  | listen
  | poll
  | accept
  | request
  | shutdown
  | close
deriving DecidableEq

/-- The descriptors that a call is meant for. -/
def IpcCall.fits : IpcCall -> IpcFile -> Bool
  | .bind, .streamServer | .bind, .reqRespServer => true
  | .listen, .streamServer | .listen, .reqRespServer => true
  | .poll, .streamServer | .poll, .reqRespServer | .poll, .reqRespClient _ => true
  | .accept, .streamServer | .accept, .reqRespServer => true
  | .request, .reqRespClient _ => true
  | .shutdown, .streamClient _ | .shutdown, .reqRespClient _ => true
  | .close, _ => true
  | _, _ => false

/-- An event was polled on one descriptor and something was done to one, each
with its holder at the time. -/
structure DescriptorEvent where
  polled : Option (Holder IpcFile)
  actedOn : Option (Holder IpcFile)
  action : ClientAction
deriving DecidableEq

/-- The event in terms of connections. -/
def ClientEvent.onDescriptors (event : ClientEvent) : DescriptorEvent where
  polled := some (.thread (.reqRespClient event.polled))
  actedOn := some (.thread (.reqRespClient event.actedOn))
  action := event.action

/-- The fields of `struct kt_app_ctx` for the two sockets. -/
structure IpcFields where
  streamServerSockfd : Int
  streamClientSockfd : Int
  reqRespServerSockfd : Int
  reqRespClientSockfd : Int
  streamIpcConnected : Bool
  reqRespIpcConnected : Bool

/-- The context before the thread has set anything. -/
def zeroFields : IpcFields := ⟨0, 0, 0, 0, false, false⟩

/-- The thread with its descriptors, and the connections accepted so far. -/
structure IpcThread extends IpcFields where
  running : Bool
  descriptors : Descriptors IpcCall IpcFile
  streamAccepted : Nat
  reqRespAccepted : Nat
  events : List DescriptorEvent

/-!
## The thread
-/

section Thread

variable (system : DescriptorSystem)

/-- `shutdown` and `close` -/
def endClient (fd : Int) (d : Descriptors IpcCall IpcFile) :
    Descriptors IpcCall IpcFile :=
  (d.make system [(.shutdown, fd)]).close system .close fd

/-- The client is closed if there is one. -/
def endAnyClient (fd : Int) (d : Descriptors IpcCall IpcFile) :
    Descriptors IpcCall IpcFile :=
  if 0 ≤ fd then endClient system fd d else d

/-- The listening socket is closed if there is one. -/
def endAnyServer (fd : Int) (d : Descriptors IpcCall IpcFile) :
    Descriptors IpcCall IpcFile :=
  if 0 ≤ fd then d.close system .close fd else d

/-- `accept`.  If there is a new client, the one before it is closed. -/
def acceptClient (server client : Int) (file : IpcFile) (accepted : Bool)
    (d : Descriptors IpcCall IpcFile) :
    Option Nat × Descriptors IpcCall IpcFile :=
  let d := d.make system [(.accept, server)]
  if accepted then
    let (cfd, d) := d.install system (.thread file)
    (some cfd, endAnyClient system client d)
  else (none, d)

/-- What the calls in `kt_app_ipc_create_socket` answer, should they be made. -/
structure SocketAnswers where
  opened : Bool
  pathExists : Bool
  pathRemoved : Bool
  bound : Bool
  listening : Bool

/-- Every call that is made succeeds. -/
def SocketAnswers.creates (answers : SocketAnswers) : Bool :=
  answers.opened && (!answers.pathExists || answers.pathRemoved) &&
    answers.bound && answers.listening

/-- `kt_app_ipc_create_socket`: whether it succeeds, and the descriptor in
`*p_server_sockfd`, which a failure after `socket` leaves there closed. -/
def ktAppIpcCreateSocket (answers : SocketAnswers) (file : IpcFile)
    (d : Descriptors IpcCall IpcFile) :
    Bool × Int × Descriptors IpcCall IpcFile :=
  let d := d.turn system
  if !answers.opened then (false, -1, d)
  else
    let (fd, d) := d.install system (.thread file)
    if answers.pathExists && !answers.pathRemoved then
      (false, fd, d.close system .close fd)
    else
      let d := d.make system [(.bind, (fd : Int))]
      if !answers.bound then (false, fd, d.close system .close fd)
      else
        let d := d.make system [(.listen, (fd : Int))]
        if !answers.listening then (false, fd, d.close system .close fd)
        else (true, fd, d)

/-- `kt_app_ipc` up to its loop, which is not reached if a socket cannot be
created. -/
def ktAppIpcStart (stream reqResp : SocketAnswers) : IpcThread :=
  let (ret, fd, d) := ktAppIpcCreateSocket system stream .streamServer
    Descriptors.empty
  let fields := { zeroFields with streamServerSockfd := fd }
  if !ret then ⟨fields, false, d, 0, 0, []⟩
  else
    let fields := { fields with streamClientSockfd := -1 }
    let (ret, fd, d) := ktAppIpcCreateSocket system reqResp .reqRespServer d
    let fields := { fields with reqRespServerSockfd := fd }
    -- returns with the stream socket open
    if !ret then ⟨fields, false, d, 0, 0, []⟩
    else ⟨{ fields with reqRespClientSockfd := -1 }, true, d, 0, 0, []⟩

namespace IpcThread

/-- `accept` on the stream listener. -/
def acceptStream (t : IpcThread) (accepted : Bool) : IpcThread :=
  match acceptClient system t.streamServerSockfd t.streamClientSockfd
      (.streamClient t.streamAccepted) accepted t.descriptors with
  | (none, d) => { t with descriptors := d }
  | (some cfd, d) =>
      { t with
        streamClientSockfd := cfd
        streamIpcConnected := true
        streamAccepted := t.streamAccepted + 1
        descriptors := d }

/-- `accept` on the request listener. -/
def acceptReqResp (t : IpcThread) (accepted : Bool) : IpcThread :=
  match acceptClient system t.reqRespServerSockfd t.reqRespClientSockfd
      (.reqRespClient t.reqRespAccepted) accepted t.descriptors with
  | (none, d) => { t with descriptors := d }
  | (some cfd, d) =>
      { t with
        reqRespClientSockfd := cfd
        reqRespIpcConnected := true
        reqRespAccepted := t.reqRespAccepted + 1
        descriptors := d }

/-- The part of `kt_app_ipc` behind its loop. -/
def shutDown (t : IpcThread) : IpcThread :=
  let d := endAnyClient system t.reqRespClientSockfd t.descriptors
  let d := endAnyServer system t.reqRespServerSockfd d
  let d := endAnyClient system t.streamClientSockfd d
  let d := endAnyServer system t.streamServerSockfd d
  { t with
    running := false
    streamIpcConnected := false
    reqRespIpcConnected := false
    reqRespClientSockfd := -1
    reqRespServerSockfd := -1
    streamClientSockfd := -1
    streamServerSockfd := -1
    descriptors := d }

/-- Act on the events of the entry for the client, which was polled for
`polled`. -/
def handleClientEvents (t : IpcThread) (polled : Option (Holder IpcFile))
    (events : PollEvents) : IpcThread :=
  let actedOn := t.descriptors.holderOf t.reqRespClientSockfd
  if events.failed then
    { t with
      reqRespClientSockfd := -1
      reqRespIpcConnected := false
      descriptors := endClient system t.reqRespClientSockfd t.descriptors
      events := t.events ++ [⟨polled, actedOn, .disconnect⟩] }
  else if events.pollin then
    { t with
      descriptors :=
        t.descriptors.make system [(.request, t.reqRespClientSockfd)]
      events := t.events ++ [⟨polled, actedOn, .handleRequest⟩] }
  else t

/-- The part of a round behind `poll`. -/
def handlePolled (t : IpcThread) (round : IpcRound)
    (streamListener reqRespListener client : PollEvents) : IpcThread :=
  let clientPolled := 0 ≤ t.reqRespClientSockfd
  let polled := t.descriptors.holderOf t.reqRespClientSockfd
  if streamListener.failed then t.shutDown system
  else
    let t :=
      if streamListener.pollin then t.acceptStream system round.acceptStream
      else t
    if reqRespListener.failed then t.shutDown system
    else
      let t :=
        if reqRespListener.pollin then
          t.acceptReqResp system round.acceptReqResp
        else t
      if 0 ≤ t.reqRespClientSockfd ∧ clientPolled then
        t.handleClientEvents system polled client
      else t

/-- The descriptors that are polled. -/
def pollSet (t : IpcThread) : List (IpcCall × Int) :=
  [(.poll, t.streamServerSockfd), (.poll, t.reqRespServerSockfd)] ++
    if 0 ≤ t.reqRespClientSockfd then [(.poll, t.reqRespClientSockfd)] else []

/-- A round of the loop. -/
def ktAppIpcRound (t : IpcThread) (round : IpcRound) : Option IpcThread :=
  if !t.running then none
  else if round.exitBefore then some (t.shutDown system)
  else
    let t := { t with descriptors := t.descriptors.make system t.pollSet }
    match round.poll with
    | .interrupted => some t
    | .failed => some (t.shutDown system)
    | .timeout => if round.exitAfter then some (t.shutDown system) else some t
    | .ready streamListener reqRespListener client =>
        if round.exitAfter then some (t.shutDown system)
        else
          some (t.handlePolled system round streamListener reqRespListener
            client)

end IpcThread

/-- The thread holds a descriptor. -/
def IpcThread.Owns (t : IpcThread) (fd : Nat) : Prop :=
  exists file, t.descriptors.holders.get fd = some (.thread file)

/-- The fields for descriptors. -/
def IpcThread.sockfds (t : IpcThread) : List Int :=
  [t.streamServerSockfd, t.streamClientSockfd, t.reqRespServerSockfd,
    t.reqRespClientSockfd]

end Thread

/-!
## What the thread holds
-/

section Held

open Descriptors (Held)

variable (system : DescriptorSystem) {fdOf : IpcFile -> Option Nat}
  {d : Descriptors IpcCall IpcFile}

/-- A field has the descriptor of a file, or a negative number if there is
none. -/
def SockfdOf (fdOf : IpcFile -> Option Nat) (fd : Int) : Option IpcFile -> Prop
  | none => fd < 0
  | some file => exists n : Nat, fd = n ∧ fdOf file = some n

/-- Some file, if there is one, is closed. -/
def without (fdOf : IpcFile -> Option Nat) : Option IpcFile ->
    IpcFile -> Option Nat
  | none => fdOf
  | some file => Function.update fdOf file none

theorem without_apply (fdOf : IpcFile -> Option Nat) (file : Option IpcFile)
    (f : IpcFile) :
    without fdOf file f = if file = some f then none else fdOf f := by
  cases file with
  | none =>
      simp [without]
  | some file =>
      simp only [without, Function.update_apply, Option.some_inj,
        @eq_comm _ f]

theorem sockfdOf_of_iff {fd : Int} {file : Option IpcFile}
    (hiff : 0 ≤ fd <-> file.isSome = true)
    (hfd : forall f, file = some f -> fdOf f = some fd.toNat) :
    SockfdOf fdOf fd file := by
  cases file with
  | none =>
      exact Int.not_le.mp fun hle => Bool.false_ne_true (hiff.mp hle)
  | some file =>
      exact ⟨fd.toNat, (Int.toNat_of_nonneg (hiff.mpr rfl)).symm, hfd file rfl⟩

/-- A field keeps its descriptor when another file is closed. -/
theorem SockfdOf.without {fd : Int} {file closed : Option IpcFile}
    (h : SockfdOf fdOf fd file)
    (hne : forall f, file = some f -> closed ≠ some f) :
    SockfdOf (without fdOf closed) fd file := by
  cases file with
  | none =>
      exact h
  | some file =>
      rcases h with ⟨n, hfd, hn⟩
      exact ⟨n, hfd, by rw [without_apply, if_neg (hne file rfl), hn]⟩

theorem SockfdOf.eq_iff {fd : Int} {file : Option IpcFile} (h : SockfdOf fdOf fd file)
    (n : Nat) :
    (n : Int) = fd <-> exists f, file = some f ∧ fdOf f = some n := by
  cases file with
  | none =>
      have hneg : fd < 0 := h
      constructor
      · rintro rfl
        exact absurd (Int.natCast_nonneg n) (Int.not_le.mpr hneg)
      · rintro ⟨f, ⟨⟩, _⟩
  | some file =>
      rcases h with ⟨m, rfl, hm⟩
      simp [hm, eq_comm]

/-- Two fields have different descriptors. -/
theorem SockfdOf.ne (h : Held IpcCall.fits fdOf d) {fd fd' : Int}
    {file file' : Option IpcFile} (hfield : SockfdOf fdOf fd file)
    (hfield' : SockfdOf fdOf fd' file')
    (hfiles : forall f, file = some f -> file' ≠ some f) (hfd : 0 ≤ fd) :
    fd ≠ fd' := by
  rcases Int.eq_ofNat_of_zero_le hfd with ⟨n, rfl⟩
  intro hsame
  rcases (hfield.eq_iff n).mp rfl with ⟨f, hf, hn⟩
  rcases (hfield'.eq_iff n).mp hsame with ⟨f', hf', hn'⟩
  have hget := (h.holder_iff n f).mpr hn
  rw [(h.holder_iff n f').mpr hn'] at hget
  cases hget
  exact hfiles f hf hf'

theorem endClient_held (h : Held IpcCall.fits fdOf d) {file : IpcFile} {fd : Nat}
    (hfd : fdOf file = some fd) (hclient : IpcCall.shutdown.fits file = true) :
    Held IpcCall.fits (Function.update fdOf file none)
      (endClient system fd d) := by
  have hmake : Held IpcCall.fits fdOf
      (d.make system [(IpcCall.shutdown, (fd : Int))]) :=
    h.make system (by simpa using ⟨file, hfd, hclient⟩)
  exact hmake.close system hfd (by cases file <;> rfl)

theorem endAnyClient_held (h : Held IpcCall.fits fdOf d) {fd : Int}
    {file : Option IpcFile} (hfield : SockfdOf fdOf fd file)
    (hclient : forall f, file = some f -> IpcCall.shutdown.fits f = true) :
    Held IpcCall.fits (without fdOf file) (endAnyClient system fd d) := by
  cases file with
  | none =>
      rwa [endAnyClient, if_neg (Int.not_le.mpr hfield)]
  | some file =>
      rcases hfield with ⟨n, rfl, hn⟩
      rw [endAnyClient, if_pos (Int.natCast_nonneg n)]
      exact endClient_held system h hn (hclient file rfl)

theorem endAnyServer_held (h : Held IpcCall.fits fdOf d) {fd : Int}
    {file : Option IpcFile} (hfield : SockfdOf fdOf fd file) :
    Held IpcCall.fits (without fdOf file) (endAnyServer system fd d) := by
  cases file with
  | none =>
      rwa [endAnyServer, if_neg (Int.not_le.mpr hfield)]
  | some file =>
      rcases hfield with ⟨n, rfl, hn⟩
      rw [endAnyServer, if_pos (Int.natCast_nonneg n)]
      exact h.close system hn (by cases file <;> rfl)

/-- A new client takes the place of the one there was. -/
theorem acceptClient_held (h : Held IpcCall.fits fdOf d) {server : IpcFile}
    {serverFd clientFd : Int} (hserver : SockfdOf fdOf serverFd (some server))
    (haccepts : IpcCall.accept.fits server = true) {old : Option IpcFile}
    (hfield : SockfdOf fdOf clientFd old)
    (hclient : forall f, old = some f -> IpcCall.shutdown.fits f = true)
    {file : IpcFile} (hnew : fdOf file = none) (accepted : Bool) :
    if accepted then
      exists (cfd : Nat) (d' : Descriptors IpcCall IpcFile),
        acceptClient system serverFd clientFd file accepted d =
            (some cfd, d') ∧
          Held IpcCall.fits
            (without (Function.update fdOf file (some cfd)) old) d'
    else
      exists d', acceptClient system serverFd clientFd file accepted d =
            (none, d') ∧
          Held IpcCall.fits fdOf d' := by
  rcases hserver with ⟨n, rfl, hn⟩
  have hmake : Held IpcCall.fits fdOf
      (d.make system [(IpcCall.accept, (n : Int))]) :=
    h.make system (by simpa using ⟨server, hn, haccepts⟩)
  cases accepted with
  | false =>
      exact ⟨_, rfl, hmake⟩
  | true =>
      refine ⟨_, _, rfl, endAnyClient_held system (hmake.install system hnew) ?_
        hclient⟩
      cases old with
      | none =>
          exact hfield
      | some old =>
          rcases hfield with ⟨m, hfd, hold⟩
          have hne : old ≠ file := by
            rintro rfl
            rw [hnew] at hold
            cases hold
          exact ⟨m, hfd, by rw [Function.update_of_ne hne, hold]⟩

/-- A socket that cannot be created leaves nothing open. -/
theorem ktAppIpcCreateSocket_held (h : Held IpcCall.fits fdOf d)
    {file : IpcFile} (hnew : fdOf file = none)
    (hserver : IpcCall.listen.fits file = true) (answers : SocketAnswers) :
    if answers.creates then
      exists (fd : Nat) (d' : Descriptors IpcCall IpcFile),
        ktAppIpcCreateSocket system answers file d = (true, (fd : Int), d') ∧
          Held IpcCall.fits (Function.update fdOf file (some fd)) d'
    else
      exists (fd : Int) (d' : Descriptors IpcCall IpcFile),
        ktAppIpcCreateSocket system answers file d = (false, fd, d') ∧
          Held IpcCall.fits fdOf d' := by
  have hfits : IpcCall.bind.fits file = true := by
    cases file <;> simp_all [IpcCall.fits]
  have hturn := h.turn system
  generalize hd : d.turn system = d1 at hturn
  cases hopened : answers.opened with
  | false =>
      simp [SocketAnswers.creates, ktAppIpcCreateSocket, hopened, hd, hturn]
  | true =>
      have hinstall := hturn.install system hnew
      generalize hnext : d1.install system (.thread file) = next at hinstall
      rcases next with ⟨fd, d2⟩
      have hself : Function.update fdOf file (some fd) file = some fd :=
        Function.update_self file (some fd) fdOf
      -- Closing the new descriptor leads back to what was held before.
      have hclosed : forall d, Held IpcCall.fits
          (Function.update fdOf file (some fd)) d ->
          Held IpcCall.fits fdOf (d.close system .close fd) := by
        intro d hd
        have hclose : Held IpcCall.fits
            (Function.update (Function.update fdOf file (some fd)) file none)
            (d.close system .close fd) :=
          hd.close system hself (by cases file <;> rfl)
        rwa [Function.update_idem, ← hnew, Function.update_eq_self] at hclose
      have hbind : Held IpcCall.fits (Function.update fdOf file (some fd))
          (d2.make system [(IpcCall.bind, (fd : Int))]) :=
        hinstall.make system (by simpa using ⟨file, hself, hfits⟩)
      have hlisten : Held IpcCall.fits (Function.update fdOf file (some fd))
          ((d2.make system [(IpcCall.bind, (fd : Int))]).make system
            [(IpcCall.listen, (fd : Int))]) :=
        hbind.make system (by simpa using ⟨file, hself, hserver⟩)
      cases hpath : answers.pathExists && !answers.pathRemoved with
      | true =>
          have hcreates : answers.creates = false := by
            simp_all [SocketAnswers.creates]
          simp [ktAppIpcCreateSocket, hopened, hd, hnext, hpath, hcreates,
            hclosed _ hinstall]
      | false =>
          cases hbound : answers.bound with
          | false =>
              simp [SocketAnswers.creates, ktAppIpcCreateSocket, hopened, hd,
                hnext, hpath, hbound, hclosed _ hbind]
          | true =>
              cases hlistening : answers.listening with
              | false =>
                  simp [SocketAnswers.creates, ktAppIpcCreateSocket, hopened,
                    hd, hnext, hpath, hbound, hlistening, hclosed _ hlisten]
              | true =>
                  have hcreates : answers.creates = true := by
                    cases hexists : answers.pathExists <;>
                      simp_all [SocketAnswers.creates]
                  simp [ktAppIpcCreateSocket, hopened, hd, hnext, hpath, hbound,
                    hlistening, hcreates, hlisten]

end Held

/-!
## The loop over connections
-/

/-- The descriptor that the thread has for each file, as the clients are those
of the loop over connections. -/
def IpcThread.fdOf (t : IpcThread) (s : IpcSockets) : IpcFile -> Option Nat
  | .streamServer =>
      if s.running then some t.streamServerSockfd.toNat else none
  | .streamClient n =>
      if s.streamClient = some n then some t.streamClientSockfd.toNat else none
  | .reqRespServer =>
      if s.running then some t.reqRespServerSockfd.toNat else none
  | .reqRespClient n =>
      if s.reqRespClient = some n then some t.reqRespClientSockfd.toNat
      else none

/-- The thread with its descriptors is the loop over connections: in each field
is the descriptor of the connection that is the client, and what was done was
done to the connection that stands behind the descriptor. -/
structure Refines (t : IpcThread) (s : IpcSockets) : Prop where
  running_eq : t.running = s.running
  streamIpcConnected_eq : t.streamIpcConnected = s.streamIpcConnected
  reqRespIpcConnected_eq : t.reqRespIpcConnected = s.reqRespIpcConnected
  streamAccepted_eq : t.streamAccepted = s.streamAccepted
  reqRespAccepted_eq : t.reqRespAccepted = s.reqRespAccepted
  streamServer_iff : 0 ≤ t.streamServerSockfd <-> s.running = true
  reqRespServer_iff : 0 ≤ t.reqRespServerSockfd <-> s.running = true
  streamClient_iff : 0 ≤ t.streamClientSockfd <-> s.streamClient.isSome = true
  reqRespClient_iff : 0 ≤ t.reqRespClientSockfd <-> s.reqRespClient.isSome = true
  streamClient_lt : forall client, s.streamClient = some client ->
    client < s.streamAccepted
  stopped : s.running = false ->
    s.streamClient = none ∧ s.reqRespClient = none
  held : Descriptors.Held IpcCall.fits (t.fdOf s) t.descriptors
  events_eq : t.events = s.events.map ClientEvent.onDescriptors

namespace Refines

variable (system : DescriptorSystem) {t : IpcThread} {s : IpcSockets}

theorem streamClientField (h : Refines t s) :
    SockfdOf (t.fdOf s) t.streamClientSockfd
      (s.streamClient.map IpcFile.streamClient) := by
  refine sockfdOf_of_iff (by simpa using h.streamClient_iff) ?_
  intro file hfile
  rcases Option.map_eq_some_iff.mp hfile with ⟨client, hclient, rfl⟩
  simp [IpcThread.fdOf, hclient]

theorem reqRespClientField (h : Refines t s) :
    SockfdOf (t.fdOf s) t.reqRespClientSockfd
      (s.reqRespClient.map IpcFile.reqRespClient) := by
  refine sockfdOf_of_iff (by simpa using h.reqRespClient_iff) ?_
  intro file hfile
  rcases Option.map_eq_some_iff.mp hfile with ⟨client, hclient, rfl⟩
  simp [IpcThread.fdOf, hclient]

theorem streamServerField (h : Refines t s) (hrunning : s.running = true) :
    SockfdOf (t.fdOf s) t.streamServerSockfd (some .streamServer) :=
  sockfdOf_of_iff (by simpa [hrunning] using h.streamServer_iff) (by
    rintro file ⟨⟩
    simp [IpcThread.fdOf, hrunning])

theorem reqRespServerField (h : Refines t s) (hrunning : s.running = true) :
    SockfdOf (t.fdOf s) t.reqRespServerSockfd (some .reqRespServer) :=
  sockfdOf_of_iff (by simpa [hrunning] using h.reqRespServer_iff) (by
    rintro file ⟨⟩
    simp [IpcThread.fdOf, hrunning])

/-- Calls that are given descriptors of the thread. -/
theorem make (h : Refines t s) {made : List (IpcCall × Int)}
    (hmade : forall c, c ∈ made -> exists (fd : Nat) (file : IpcFile),
      c.2 = fd ∧ t.fdOf s file = some fd ∧ c.1.fits file = true) :
    Refines { t with descriptors := t.descriptors.make system made } s :=
  { h with held := h.held.make system hmade }

theorem acceptStream (h : Refines t s) (hrunning : s.running = true)
    (accepted : Bool) :
    Refines (t.acceptStream system accepted) (s.acceptStream accepted) := by
  have hne : s.streamClient ≠ some s.streamAccepted := fun hclient =>
    Nat.lt_irrefl _ (h.streamClient_lt _ hclient)
  have hnew : t.fdOf s (.streamClient t.streamAccepted) = none := by
    simp [IpcThread.fdOf, h.streamAccepted_eq, hne]
  have haccept := acceptClient_held system h.held (h.streamServerField hrunning)
    rfl h.streamClientField (by simp [IpcCall.fits]) hnew accepted
  cases accepted with
  | false =>
      rcases haccept with ⟨d', heq, hheld⟩
      simp only [IpcThread.acceptStream, heq]
      exact { h with held := hheld }
  | true =>
      rcases haccept with ⟨cfd, d', heq, hheld⟩
      simp only [IpcThread.acceptStream, heq]
      refine
        { h with
          streamIpcConnected_eq := rfl
          streamAccepted_eq := congrArg (· + 1) h.streamAccepted_eq
          streamClient_iff := by simp [IpcSockets.acceptStream]
          streamClient_lt := ?_
          stopped := by simp [IpcSockets.acceptStream, hrunning]
          held := ?_ }
      · rintro client ⟨⟩
        exact Nat.lt_succ_self _
      · refine hheld.congr fun file => ?_
        rw [without_apply, Function.update_apply, h.streamAccepted_eq]
        cases file with
        | streamClient n =>
            by_cases hn : n = s.streamAccepted
            · simp [IpcThread.fdOf, IpcSockets.acceptStream, hn, hne]
            · simp [IpcThread.fdOf, IpcSockets.acceptStream, hn, Ne.symm hn]
        | streamServer | reqRespServer | reqRespClient n =>
            simp [IpcThread.fdOf, IpcSockets.acceptStream]

theorem acceptReqResp (h : Refines t s) (hrunning : s.running = true)
    (accepted : Bool) :
    Refines (t.acceptReqResp system accepted) (s.acceptReqResp accepted) := by
  have hne : s.reqRespClient ≠ some s.reqRespAccepted := fun hclient =>
    Nat.lt_irrefl _ (s.reqRespClient_lt _ hclient)
  have hnew : t.fdOf s (.reqRespClient t.reqRespAccepted) = none := by
    simp [IpcThread.fdOf, h.reqRespAccepted_eq, hne]
  have haccept := acceptClient_held system h.held (h.reqRespServerField hrunning)
    rfl h.reqRespClientField (by simp [IpcCall.fits]) hnew accepted
  cases accepted with
  | false =>
      rcases haccept with ⟨d', heq, hheld⟩
      simp only [IpcThread.acceptReqResp, heq]
      exact { h with held := hheld }
  | true =>
      rcases haccept with ⟨cfd, d', heq, hheld⟩
      simp only [IpcThread.acceptReqResp, heq]
      refine
        { h with
          reqRespIpcConnected_eq := rfl
          reqRespAccepted_eq := congrArg (· + 1) h.reqRespAccepted_eq
          reqRespClient_iff := by simp [IpcSockets.acceptReqResp]
          stopped := by simp [IpcSockets.acceptReqResp, hrunning]
          held := ?_ }
      refine hheld.congr fun file => ?_
      rw [without_apply, Function.update_apply, h.reqRespAccepted_eq]
      cases file with
      | reqRespClient n =>
          by_cases hn : n = s.reqRespAccepted
          · simp [IpcThread.fdOf, IpcSockets.acceptReqResp, hn, hne]
          · simp [IpcThread.fdOf, IpcSockets.acceptReqResp, hn, Ne.symm hn]
      | streamServer | streamClient n | reqRespServer =>
          simp [IpcThread.fdOf, IpcSockets.acceptReqResp]

theorem shutDown (h : Refines t s) (hrunning : s.running = true) :
    Refines (t.shutDown system) s.shutDown := by
  have hclients : forall f, s.streamClient.map IpcFile.streamClient = some f ->
      IpcCall.shutdown.fits f = true := by simp [IpcCall.fits]
  have hreqResp := endAnyClient_held system h.held h.reqRespClientField
    (by simp [IpcCall.fits])
  have hreqRespServer := endAnyServer_held system hreqResp
    ((h.reqRespServerField hrunning).without (by simp))
  have hstream := endAnyClient_held system hreqRespServer
    ((h.streamClientField.without (by simp)).without (by simp)) hclients
  have hall := endAnyServer_held system hstream
    ((((h.streamServerField hrunning).without (by simp)).without
      (by simp)).without (by simp))
  exact
    { h with
      running_eq := rfl
      streamIpcConnected_eq := rfl
      reqRespIpcConnected_eq := rfl
      streamServer_iff := by simp [IpcThread.shutDown, IpcSockets.shutDown]
      reqRespServer_iff := by simp [IpcThread.shutDown, IpcSockets.shutDown]
      streamClient_iff := by simp [IpcThread.shutDown, IpcSockets.shutDown]
      reqRespClient_iff := by simp [IpcThread.shutDown, IpcSockets.shutDown]
      streamClient_lt := by simp [IpcSockets.shutDown]
      stopped := fun _ => ⟨rfl, rfl⟩
      held := by
        refine hall.congr fun file => ?_
        simp only [without_apply]
        cases file with
        | streamServer | reqRespServer =>
            simp [IpcThread.fdOf, IpcSockets.shutDown]
        | streamClient n | reqRespClient n =>
            simp [IpcThread.fdOf, IpcSockets.shutDown] }

theorem handleClientEvents (h : Refines t s) {polled current : Nat}
    (hcurrent : s.reqRespClient = some current) (events : PollEvents) :
    Refines
      (t.handleClientEvents system
        (some (.thread (.reqRespClient polled))) events)
      (s.handleClientEvents polled current events) := by
  have hfield := h.reqRespClientField
  rw [hcurrent] at hfield
  rcases hfield with ⟨n, hfd, hn⟩
  have hactedOn : t.descriptors.holderOf t.reqRespClientSockfd =
      some (.thread (.reqRespClient current)) := by
    rw [hfd]
    exact h.held.holderOf hn
  rw [IpcThread.handleClientEvents, IpcSockets.handleClientEvents, hactedOn]
  cases hfailed : events.failed with
  | true =>
      have hended := endClient_held system h.held hn rfl
      rw [← hfd] at hended
      exact
        { h with
          reqRespIpcConnected_eq := rfl
          reqRespClient_iff := by simp
          stopped := fun hrunning => ⟨(h.stopped hrunning).1, rfl⟩
          held := by
            refine hended.congr fun file => ?_
            rw [Function.update_apply]
            cases file with
            | reqRespClient m =>
                by_cases hm : m = current
                · simp [IpcThread.fdOf, hm]
                · simp [IpcThread.fdOf, hcurrent, hm, Ne.symm hm]
            | streamServer | streamClient m | reqRespServer =>
                simp [IpcThread.fdOf]
          events_eq := by
            simp [h.events_eq, ClientEvent.onDescriptors] }
  | false =>
      cases hin : events.pollin with
      | false =>
          exact h
      | true =>
          have hmake : Descriptors.Held IpcCall.fits (t.fdOf s)
              (t.descriptors.make system
                [(.request, t.reqRespClientSockfd)]) :=
            h.held.make system (by
              simpa [hfd] using ⟨.reqRespClient current, hn, rfl⟩)
          exact
            { h with
              held := hmake
              events_eq := by
                simp [h.events_eq, ClientEvent.onDescriptors] }

/-- The listener is asked for a client if something is reported for it. -/
theorem streamListener (h : Refines t s) (hrunning : s.running = true)
    (pollin accepted : Bool) :
    Refines (if pollin then t.acceptStream system accepted else t)
      (s.acceptStream (pollin && accepted)) := by
  cases pollin with
  | false =>
      exact h
  | true =>
      exact h.acceptStream system hrunning accepted

theorem reqRespListener (h : Refines t s) (hrunning : s.running = true)
    (pollin accepted : Bool) :
    Refines (if pollin then t.acceptReqResp system accepted else t)
      (s.acceptReqResp (pollin && accepted)) := by
  cases pollin with
  | false =>
      exact h
  | true =>
      exact h.acceptReqResp system hrunning accepted

theorem handlePolled (h : Refines t s) (hrunning : s.running = true)
    (round : IpcRound) (streamListener reqRespListener client : PollEvents) :
    Refines
      (t.handlePolled system round streamListener reqRespListener client)
      (s.handlePolled round streamListener reqRespListener client) := by
  rw [IpcThread.handlePolled, IpcSockets.handlePolled]
  cases hstream : streamListener.failed with
  | true =>
      exact h.shutDown system hrunning
  | false =>
      have hstreamed := h.streamListener system hrunning streamListener.pollin
        round.acceptStream
      have hrunning1 : (s.acceptStream
          (streamListener.pollin && round.acceptStream)).running = true := by
        rw [IpcSockets.acceptStream]
        split <;> exact hrunning
      cases hreqResp : reqRespListener.failed with
      | true =>
          exact hstreamed.shutDown system hrunning1
      | false =>
          have hboth := hstreamed.reqRespListener system hrunning1
            reqRespListener.pollin round.acceptReqResp
          simp only [Bool.false_eq_true, if_false]
          generalize (s.acceptStream
            (streamListener.pollin && round.acceptStream)).acceptReqResp
              (reqRespListener.pollin && round.acceptReqResp) = s2 at hboth ⊢
          generalize (if reqRespListener.pollin = true then
            (if streamListener.pollin = true then
              t.acceptStream system round.acceptStream
            else t).acceptReqResp system round.acceptReqResp
            else if streamListener.pollin = true then
              t.acceptStream system round.acceptStream
            else t) = t2 at hboth ⊢
          have hclient := h.reqRespClient_iff
          have hclient2 := hboth.reqRespClient_iff
          cases hpolled : s.reqRespClient with
          | none =>
              have hnone : ¬ 0 ≤ t.reqRespClientSockfd := by
                simpa [hpolled] using hclient
              simpa [hnone] using hboth
          | some polled =>
              have hfield := h.reqRespClientField
              rw [hpolled] at hfield
              rcases hfield with ⟨n, hfd, hn⟩
              have hholder : t.descriptors.holderOf t.reqRespClientSockfd =
                  some (.thread (.reqRespClient polled)) := by
                rw [hfd]
                exact h.held.holderOf hn
              cases hcurrent : s2.reqRespClient with
              | none =>
                  have hnone : ¬ 0 ≤ t2.reqRespClientSockfd := by
                    simpa [hcurrent] using hclient2
                  simpa [hnone] using hboth
              | some current =>
                  have hboth' : 0 ≤ t2.reqRespClientSockfd ∧
                      0 ≤ t.reqRespClientSockfd :=
                    ⟨hclient2.mpr (by simp [hcurrent]),
                      hclient.mpr (by simp [hpolled])⟩
                  rw [if_pos hboth', hholder]
                  exact hboth.handleClientEvents system hcurrent client

/-- The descriptors that are polled are descriptors of the thread. -/
theorem pollSet (h : Refines t s) (hrunning : s.running = true) :
    Refines
      { t with descriptors := t.descriptors.make system t.pollSet } s := by
  refine { h with held := h.held.make system ?_ }
  intro c hc
  rcases h.streamServerField hrunning with ⟨n, hstream, hn⟩
  rcases h.reqRespServerField hrunning with ⟨m, hreqResp, hm⟩
  rw [IpcThread.pollSet] at hc
  rcases List.mem_append.mp hc with hserver | hclient
  · rcases List.mem_cons.mp hserver with rfl | hother
    · exact ⟨n, _, hstream, hn, rfl⟩
    · rcases List.mem_singleton.mp hother with rfl
      exact ⟨m, _, hreqResp, hm, rfl⟩
  · have hfield := h.reqRespClientField
    cases hsome : s.reqRespClient with
    | none =>
        have hnone : ¬ 0 ≤ t.reqRespClientSockfd := by
          simpa [hsome] using h.reqRespClient_iff
        simp [hnone] at hclient
    | some client =>
        rw [hsome] at hfield
        rcases hfield with ⟨k, hfd, hk⟩
        have hc' : c = (.poll, t.reqRespClientSockfd) := by
          simpa [hfd] using hclient
        exact ⟨k, _, by rw [hc', hfd], hk, by rw [hc']; rfl⟩

/-- A round on descriptors is a round on connections. -/
theorem round (h : Refines t s) (round : IpcRound) :
    Option.Rel Refines (t.ktAppIpcRound system round)
      (s.ktAppIpcRound round) := by
  have hthread := h.running_eq
  rw [IpcThread.ktAppIpcRound, IpcSockets.ktAppIpcRound]
  cases hrunning : s.running with
  | false =>
      rw [if_pos (by simp [hthread, hrunning])]
      exact .none
  | true =>
      have hgoes : ¬ ((!t.running) = true) := by
        simp [hthread, hrunning]
      rw [if_neg hgoes]
      have hpoll := h.pollSet system hrunning
      cases round.exitBefore with
      | true =>
          exact .some (h.shutDown system hrunning)
      | false =>
          cases round.poll with
          | interrupted =>
              exact .some hpoll
          | failed =>
              exact .some (hpoll.shutDown system hrunning)
          | timeout =>
              cases round.exitAfter with
              | true =>
                  exact .some (hpoll.shutDown system hrunning)
              | false =>
                  exact .some hpoll
          | ready streamListener reqRespListener client =>
              cases round.exitAfter with
              | true =>
                  exact .some (hpoll.shutDown system hrunning)
              | false =>
                  exact .some (hpoll.handlePolled system hrunning round _ _ _)

end Refines

/-!
## Whole runs
-/

section Runs

variable (system : DescriptorSystem) {t : IpcThread} {s : IpcSockets}

/-- What the thread holds where it comes to its loop or gives up. -/
theorem ktAppIpcStart_held (stream reqResp : SocketAnswers) :
    if stream.creates && reqResp.creates then
      Refines (ktAppIpcStart system stream reqResp) ipcSocketsStart
    else
      (ktAppIpcStart system stream reqResp).running = false ∧
      Descriptors.Held IpcCall.fits
        (fun file =>
          if stream.creates && file = .streamServer then
            some (ktAppIpcStart system stream reqResp).streamServerSockfd.toNat
          else none)
        (ktAppIpcStart system stream reqResp).descriptors := by
  have hstream := @ktAppIpcCreateSocket_held system _ _
    (Descriptors.held_empty IpcCall.fits) .streamServer rfl rfl stream
  cases hcreates : stream.creates with
  | false =>
      rw [hcreates] at hstream
      rcases hstream with ⟨fd, d, heq, hheld⟩
      simp [ktAppIpcStart, heq, hheld]
  | true =>
      rw [hcreates] at hstream
      rcases hstream with ⟨fd, d, heq, hheld⟩
      have hreqResp := @ktAppIpcCreateSocket_held system _ _ hheld
        .reqRespServer rfl rfl reqResp
      cases hcreates' : reqResp.creates with
      | false =>
          rw [hcreates'] at hreqResp
          rcases hreqResp with ⟨fd', d', heq', hheld'⟩
          refine ⟨by simp [ktAppIpcStart, heq, heq'], ?_⟩
          have hfinal : Descriptors.Held IpcCall.fits
              (Function.update (fun _ => none) IpcFile.streamServer (some fd))
              (ktAppIpcStart system stream reqResp).descriptors := by
            simpa [ktAppIpcStart, heq, heq'] using hheld'
          refine hfinal.congr fun file => ?_
          cases file <;> simp [ktAppIpcStart, heq, heq']
      | true =>
          rw [hcreates'] at hreqResp
          rcases hreqResp with ⟨fd', d', heq', hheld'⟩
          have hstart : ktAppIpcStart system stream reqResp =
              ⟨⟨fd, -1, fd', -1, false, false⟩, true, d', 0, 0, []⟩ := by
            simp [ktAppIpcStart, heq, heq', zeroFields]
          rw [hstart]
          exact
            { running_eq := rfl
              streamIpcConnected_eq := rfl
              reqRespIpcConnected_eq := rfl
              streamAccepted_eq := rfl
              reqRespAccepted_eq := rfl
              streamServer_iff := by simp [ipcSocketsStart]
              reqRespServer_iff := by simp [ipcSocketsStart]
              streamClient_iff := by simp [ipcSocketsStart]
              reqRespClient_iff := by simp [ipcSocketsStart]
              streamClient_lt := by simp [ipcSocketsStart]
              stopped := by simp [ipcSocketsStart]
              held := hheld'.congr fun file => by
                cases file <;>
                  simp [IpcThread.fdOf, ipcSocketsStart]
              events_eq := rfl }

theorem Refines.owns_iff_fdOf (h : Refines t s) (fd : Nat) :
    t.Owns fd <-> exists file, t.fdOf s file = some fd :=
  exists_congr fun file => h.held.holder_iff fd file

/-- In the loop the descriptors of the thread are those in its fields. -/
theorem Refines.owns_iff (h : Refines t s) (hrunning : s.running = true)
    (fd : Nat) : t.Owns fd <-> (fd : Int) ∈ t.sockfds := by
  simp only [h.owns_iff_fdOf, IpcThread.sockfds, List.mem_cons,
    List.not_mem_nil, or_false, (h.streamServerField hrunning).eq_iff,
    h.streamClientField.eq_iff, (h.reqRespServerField hrunning).eq_iff,
    h.reqRespClientField.eq_iff]
  constructor
  · rintro ⟨file, hfile⟩
    cases file with
    | streamServer =>
        exact .inl ⟨_, rfl, hfile⟩
    | streamClient n =>
        have hclient : s.streamClient = some n := by
          by_contra hne
          simp [IpcThread.fdOf, hne] at hfile
        exact .inr (.inl ⟨_, by rw [hclient]; rfl, hfile⟩)
    | reqRespServer =>
        exact .inr (.inr (.inl ⟨_, rfl, hfile⟩))
    | reqRespClient n =>
        have hclient : s.reqRespClient = some n := by
          by_contra hne
          simp [IpcThread.fdOf, hne] at hfile
        exact .inr (.inr (.inr ⟨_, by rw [hclient]; rfl, hfile⟩))
  · rintro (⟨f, _, hf⟩ | ⟨f, _, hf⟩ | ⟨f, _, hf⟩ | ⟨f, _, hf⟩) <;>
      exact ⟨f, hf⟩

/-- No descriptor is in two fields. -/
theorem Refines.sockfds_nodup (h : Refines t s) (hrunning : s.running = true) :
    (t.sockfds.filter fun fd => 0 ≤ fd).Nodup := by
  have hstreamServer := h.streamServerField hrunning
  have hreqRespServer := h.reqRespServerField hrunning
  rw [List.Nodup, List.pairwise_filter]
  simp only [IpcThread.sockfds, decide_eq_true_eq, List.pairwise_cons,
    List.mem_cons, List.not_mem_nil, or_false, forall_eq_or_imp, forall_eq]
  refine ⟨⟨?_, ?_, ?_⟩, ⟨?_, ?_⟩, ?_, by simp⟩ <;> intro hfd _
  · exact hstreamServer.ne h.held h.streamClientField (by simp) hfd
  · exact hstreamServer.ne h.held hreqRespServer (by simp) hfd
  · exact hstreamServer.ne h.held h.reqRespClientField (by simp) hfd
  · exact h.streamClientField.ne h.held hreqRespServer (by simp) hfd
  · exact h.streamClientField.ne h.held h.reqRespClientField (by simp) hfd
  · exact hreqRespServer.ne h.held h.reqRespClientField (by simp) hfd

theorem Refines.not_owns (h : Refines t s) (hstopped : s.running = false)
    (fd : Nat) : ¬ t.Owns fd := by
  rw [h.owns_iff_fdOf]
  rintro ⟨file, hfile⟩
  rcases h.stopped hstopped with ⟨hstream, hreqResp⟩
  cases file <;> simp [IpcThread.fdOf, hstopped, hstream, hreqResp] at hfile

/-- For every way the calls end, whatever the other threads open and close
meanwhile: the thread with its descriptors is the loop over connections.  It
ends with the same round, and what is done for an event is done to the
connection that stands behind the descriptor. -/
theorem ktAppIpc_refines {stream reqResp : SocketAnswers}
    (hstream : stream.creates = true) (hreqResp : reqResp.creates = true)
    (rounds : List IpcRound) :
    Option.Rel Refines
      (runActions (IpcThread.ktAppIpcRound system)
        (ktAppIpcStart system stream reqResp) rounds)
      (runActions IpcSockets.ktAppIpcRound ipcSocketsStart rounds) := by
  have hstart := ktAppIpcStart_held system stream reqResp
  rw [hstream, hreqResp] at hstart
  exact runActions_rel (fun _ _ round h => h.round system round) rounds hstart

def createdSocket : SocketAnswers := ⟨true, false, false, true, true⟩

/-- The lowest number is given out.  Another thread opens two files before the
sockets are created, and one when the third client has been accepted. -/
def sharedNumbers : DescriptorSystem :=
  .lowest fun calls =>
    if calls = 0 then [.opens, .opens]
    else if calls = 13 then [.opens]
    else []

/-- Clients come to the stream listener in every round and to the request
listener in the first and the last; in the second there is a request. -/
def clientRounds : List IpcRound :=
  [(true, false), (false, true), (true, false)].map fun round =>
    { exitBefore := false
      poll := .ready ⟨true, false, false, false⟩ ⟨round.1, false, false, false⟩
        ⟨round.2, false, false, false⟩
      exitAfter := false
      acceptStream := true
      acceptReqResp := round.1 }

theorem ktAppIpc_refines_sharedNumbers :
    exists t s,
      runActions (IpcThread.ktAppIpcRound sharedNumbers)
          (ktAppIpcStart sharedNumbers createdSocket createdSocket)
          clientRounds = some t ∧
        t.sockfds = [2, 7, 3, 6] ∧ Refines t s ∧ s.streamClient = some 2 ∧
        s.reqRespClient = some 1 := by
  have hrel := @ktAppIpc_refines sharedNumbers createdSocket createdSocket rfl
    rfl clientRounds
  have hfds : (runActions (IpcThread.ktAppIpcRound sharedNumbers)
      (ktAppIpcStart sharedNumbers createdSocket createdSocket)
      clientRounds).map IpcThread.sockfds = some [2, 7, 3, 6] := by
    decide +kernel
  rcases Option.map_eq_some_iff.mp hfds with ⟨t, ht, hsockfds⟩
  rw [ht] at hrel
  exact ⟨t, _, ht, hsockfds, by cases hrel; assumption, rfl, rfl⟩

/-- Every call is given a descriptor that the thread has opened for it.  In the
loop the thread holds what is in its fields, and once it has ended it holds
nothing, unless the second socket could not be created: the first one then stays
open. -/
theorem ktAppIpc_closes_what_it_opens (stream reqResp : SocketAnswers)
    (rounds : List IpcRound)
    (hrun : runActions (IpcThread.ktAppIpcRound system)
      (ktAppIpcStart system stream reqResp) rounds = some t) :
    (forall use, use ∈ t.descriptors.uses -> use.Proper IpcCall.fits) ∧
      (t.running = true ->
        (forall fd, t.Owns fd <-> (fd : Int) ∈ t.sockfds) ∧
          (t.sockfds.filter fun fd => 0 ≤ fd).Nodup) ∧
      (t.running = false -> forall fd, t.Owns fd <->
        stream.creates = true ∧ reqResp.creates = false ∧
          fd = t.streamServerSockfd.toNat) := by
  have hstart := ktAppIpcStart_held system stream reqResp
  cases hcreates : stream.creates && reqResp.creates with
  | true =>
      rw [hcreates] at hstart
      have hrel := runActions_rel
        (fun _ _ round (h : Refines _ _) => h.round system round) rounds hstart
      rw [hrun] at hrel
      generalize runActions IpcSockets.ktAppIpcRound ipcSocketsStart rounds =
        ending at hrel
      cases hrel with
      | some h =>
          refine ⟨h.held.proper, ?_, ?_⟩
          · intro hrunning
            exact ⟨h.owns_iff (h.running_eq ▸ hrunning),
              h.sockfds_nodup (h.running_eq ▸ hrunning)⟩
          · intro hstopped fd
            have hnot := h.not_owns (h.running_eq ▸ hstopped) fd
            simp_all
  | false =>
      rw [hcreates] at hstart
      rcases hstart with ⟨hstopped, hheld⟩
      have hend : t = ktAppIpcStart system stream reqResp := by
        cases rounds with
        | nil =>
            exact (Option.some_inj.mp hrun).symm
        | cons round rest =>
            simp [runActions, IpcThread.ktAppIpcRound, hstopped] at hrun
      subst hend
      refine ⟨hheld.proper, fun h => ?_, fun _ fd => ?_⟩
      · rw [hstopped] at h
        cases h
      · have howns : (ktAppIpcStart system stream reqResp).Owns fd <-> _ :=
          exists_congr fun file => hheld.holder_iff fd file
        rw [howns]
        cases hstream : stream.creates with
        | false =>
            simp
        | true =>
            have hreqResp : reqResp.creates = false := by
              simpa [hstream] using hcreates
            simp [hreqResp, eq_comm]

/-- A client of each kind is accepted, the one with the requests hangs up, and
the end is asked for. -/
def endingRounds : List IpcRound :=
  [{ exitBefore := false
     poll := .ready ⟨true, false, false, false⟩ ⟨true, false, false, false⟩
       ⟨false, false, false, false⟩
     exitAfter := false
     acceptStream := true
     acceptReqResp := true },
    { exitBefore := false
      poll := .ready ⟨false, false, false, false⟩ ⟨false, false, false, false⟩
        ⟨false, true, false, false⟩
      exitAfter := false
      acceptStream := false
      acceptReqResp := false },
    { exitBefore := true
      poll := .timeout
      exitAfter := true
      acceptStream := false
      acceptReqResp := false }]

/-- Behind the hang-up the thread has the descriptors of the listeners and of the
other client, and in the end none.  A first socket without a second one stays. -/
theorem ktAppIpc_closes_endingRounds :
    (exists t, runActions (IpcThread.ktAppIpcRound sharedNumbers)
        (ktAppIpcStart sharedNumbers createdSocket createdSocket)
        (endingRounds.take 2) = some t ∧
      forall fd, t.Owns fd <-> (fd : Int) ∈ [2, 4, 3, -1]) ∧
    (exists t, runActions (IpcThread.ktAppIpcRound sharedNumbers)
        (ktAppIpcStart sharedNumbers createdSocket createdSocket)
        endingRounds = some t ∧ forall fd, ¬ t.Owns fd) ∧
    (ktAppIpcStart sharedNumbers createdSocket
      ⟨true, false, false, false, true⟩).Owns 2 := by
  have hloop : (runActions (IpcThread.ktAppIpcRound sharedNumbers)
      (ktAppIpcStart sharedNumbers createdSocket createdSocket)
      (endingRounds.take 2)).map (fun t => (t.running, t.sockfds)) =
        some (true, [2, 4, 3, -1]) := by
    decide +kernel
  have hended : (runActions (IpcThread.ktAppIpcRound sharedNumbers)
      (ktAppIpcStart sharedNumbers createdSocket createdSocket)
      endingRounds).map IpcThread.running = some false := by
    decide +kernel
  rcases Option.map_eq_some_iff.mp hloop with ⟨t, hrun, hfields⟩
  rcases Option.map_eq_some_iff.mp hended with ⟨t', hrun', hstopped⟩
  simp only [Prod.mk.injEq] at hfields
  refine ⟨⟨t, hrun, ?_⟩, ⟨t', hrun', fun fd howns => ?_⟩, ?_⟩
  · rw [← hfields.2]
    exact ((ktAppIpc_closes_what_it_opens _ _ _ _ hrun).2.1 hfields.1).1
  · have hcreated := ((ktAppIpc_closes_what_it_opens _ _ _ _ hrun').2.2 hstopped
      fd).mp howns
    exact absurd hcreated.2.1 (by decide)
  · exact ((ktAppIpc_closes_what_it_opens sharedNumbers createdSocket _ [] rfl).2.2 rfl
      2).mpr ⟨rfl, rfl, by decide +kernel⟩

end Runs

end KtApp
end GardHub
