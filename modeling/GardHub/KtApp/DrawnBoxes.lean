import GardHub.Foundation.Lists
import GardHub.KtApp.BoxState
import GardHub.KtApp.StreamedFaces

/-!
# From the line to the boxes

What is drawn of the users in the messages of the GARD.  The stream may break
off anywhere and be taken up on another connection, the boxes may be cleared and
copied at any time; what a reader copies comes from a single message, and from
it either the users who have been identified or the others.
-/

namespace GardHub
namespace KtApp

open Foundation
open Dal
open Interface
open Hub
open KtLib

/-!
## Connections
-/

/-- The message of a call, as it lies in memory. -/
def CallbackCall.bytes (call : CallbackCall) : List UInt8 :=
  call.heap.load call.pPpeData (structSize ppeDataFields +
    call.pdFaceCount * structSize faceDataFields)

/-- What a client is sent: the messages of some calls.  A socket on which a
message has not been sent whole takes nothing more. -/
def carriedBytes (client : StreamClient) :
    List (CallbackCall × List SendOutcome) -> List UInt8
  | [] => []
  | send :: rest =>
      let result := send.1.send client send.2
      if result.1 = some 0 then result.2 ++ carriedBytes client rest
      else result.2

/-- A connection to the stream socket: what is sent on it, and the stream that
the listener reads, which may be broken off. -/
structure StreamConnection where
  client : StreamClient
  sends : List (CallbackCall × List SendOutcome)
  sock : ChunkedStream
  arrives : sock.bytes <+: carriedBytes client sends

/-- A frame that a pass of the listener reads on one of the connections. -/
def Heard (connections : List StreamConnection) (faces : List EventData) :
    Prop :=
  exists connection, connection ∈ connections ∧
    exists passes, frameEvents faces ∈
      ChunkedStream.readAll (listenerPass recvExact) passes connection.sock

theorem sendFrom_front (data : List UInt8) (off : Nat)
    (outcomes : List SendOutcome) :
    (sendFrom data off outcomes).2 <+: data.drop off := by
  induction outcomes generalizing off with
  | nil =>
      unfold sendFrom
      split <;> exact List.nil_prefix
  | cons outcome rest ih =>
      unfold sendFrom
      split
      next hlt =>
        cases outcome with
        | interrupted =>
            exact ih off
        | failed =>
            exact List.nil_prefix
        | sent count =>
            have hrest := ih (off + count)
            rw [← List.drop_drop] at hrest
            have hwhole := (List.prefix_append_right_inj
              ((data.drop off).take count)).mpr hrest
            rw [List.take_append_drop] at hwhole
            exact hwhole
      next =>
        exact List.nil_prefix

theorem CallbackCall.send_front (client : StreamClient) (call : CallbackCall)
    (outcomes : List SendOutcome) :
    (call.send client outcomes).2 <+: call.bytes := by
  unfold CallbackCall.send
  split
  · unfold ktAppIpcSendDataOnFd
    split
    · exact List.nil_prefix
    · exact sendFrom_front call.bytes 0 outcomes
  · exact List.nil_prefix

theorem CallbackCall.send_whole {client : StreamClient} {call : CallbackCall}
    {outcomes : List SendOutcome}
    (h : (call.send client outcomes).1 = some 0) :
    (call.send client outcomes).2 = call.bytes := by
  unfold CallbackCall.send at h ⊢
  split at h
  next hconnected =>
    rw [if_pos hconnected]
    exact ktAppIpcSendDataOnFd_sent h
  next =>
    cases h

/-- What is sent is the front of the messages. -/
theorem carriedBytes_front (client : StreamClient)
    (sends : List (CallbackCall × List SendOutcome)) :
    carriedBytes client sends <+: sends.flatMap fun send => send.1.bytes := by
  induction sends with
  | nil =>
      exact List.prefix_rfl
  | cons send rest ih =>
      rw [carriedBytes, List.flatMap_cons]
      split
      next hwhole =>
        rw [CallbackCall.send_whole hwhole]
        exact (List.prefix_append_right_inj send.1.bytes).mpr ih
      next =>
        exact (send.1.send_front client send.2).trans (List.prefix_append _ _)

/-- A pass of the listener reads the same frame when more bytes follow. -/
theorem listenerPass_front : FrontReader (listenerPass takeBytes) := by
  intro input events rest more h
  rcases Option.bind_eq_some_iff.mp h with ⟨⟨header, behind⟩, hheader, hpass⟩
  have hfirst := takeBytes_front 4 input header behind more hheader
  rw [listenerPass, hfirst, Option.bind_some]
  dsimp only at hpass ⊢
  split at hpass
  next hzero =>
    cases hpass
    rw [if_pos hzero]
  next hcount =>
    rcases Option.map_eq_some_iff.mp hpass
      with ⟨⟨payload, last⟩, hpayload, hevents⟩
    cases hevents
    rw [if_neg hcount, takeBytes_front _ behind payload last more hpayload,
      Option.map_some]

/-- What the listener reads on a connection are the events of calls whose
messages went to it. -/
theorem mem_readAll_connection {connection : StreamConnection} {passes : Nat}
    {events : List FaceEvent}
    (hbools : forall send, send ∈ connection.sends -> send.1.Bools)
    (h : events ∈ ChunkedStream.readAll (listenerPass recvExact) passes
      connection.sock) :
    exists send, send ∈ connection.sends ∧
      events = reportEvents send.1.report := by
  have hwhole : (readMessages (listenerPass takeBytes) passes
      (connection.sends.flatMap fun send => send.1.bytes)).1 =
      (connection.sends.map fun send => reportEvents send.1.report).take
        passes := by
    apply readMessages_flatMap_take connection.sends _ rfl
    intro send hsend rest
    have hframe := hbools send hsend
    rw [← frame_events send.1 hframe]
    exact listenerPass_bytes (send.1.frame hframe) rest
  have hfront := readMessages_front listenerPass_front passes
    (connection.arrives.trans
      (carriedBytes_front connection.client connection.sends))
  rw [hwhole] at hfront
  rw [ChunkedStream.readAll_bytes (listenerPass_map recvExact_bytes)] at h
  rcases List.mem_map.mp (List.mem_of_mem_take (hfront.subset h))
    with ⟨send, hsend, hevents⟩
  exact ⟨send, hsend, hevents.symm⟩

/-!
## Users who are reported together
-/

/-- The faces of the users of a message who have been identified, or those of
the others. -/
def UsersTogether (payload : List UInt8) (faces : List FaceData) : Prop :=
  let rx := received payload.tail
  let ideal := idealUser rx payload.tail.length
  payload.head? = some AppLayerSendCommand.hmiMetadata.code ∧
    (faces = (identifiedUsers rx (loopCount rx)).map (fun i : Nat =>
        wireFace rx ideal (faceIdOfTrackedUser rx i) i) ∨
      exists faceId : Nat -> Nat -> Nat,
        faces = (unidentifiedUsers rx (loopCount rx)).mapIdx fun j i =>
          wireFace rx ideal (faceId j i) i)

theorem ReportsOf.together {payload : List UInt8} {reports : List Report}
    (h : ReportsOf payload reports) {report : Report}
    (hreport : report ∈ reports) : UsersTogether payload report.faces := by
  unfold ReportsOf at h
  split at h
  next hmessage =>
    rcases h with ⟨declared, declared', faceId, rfl⟩
    refine ⟨hmessage, ?_⟩
    rcases List.mem_append.mp hreport with hidentified | hunidentified
    · unfold identifiedReports at hidentified
      split at hidentified
      · cases hidentified
      · rcases List.mem_singleton.mp hidentified with rfl
        exact Or.inl rfl
    · unfold unidentifiedReports at hunidentified
      split at hunidentified
      · cases hunidentified
      · rcases List.mem_singleton.mp hunidentified with rfl
        exact Or.inr ⟨faceId, rfl⟩
  next =>
    rw [h] at hreport
    cases hreport

/-- The faces in the calls for a frame. -/
def eventFaces (events : List FaceEvent) : List EventData :=
  events.filterMap fun event =>
    if event.faceCount = 0 then none else some event.data

theorem eventFaces_frameEvents : Function.LeftInverse eventFaces frameEvents := by
  intro faces
  unfold eventFaces frameEvents
  by_cases hnone : faces = []
  · rw [if_pos hnone, hnone]
    rfl
  · have hcount : faces.length ≠ 0 := by
      simpa using hnone
    have hdata : (fun event : FaceEvent =>
          if event.faceCount = 0 then none else some event.data) ∘
        (fun face : EventData × Nat =>
          (⟨face.1, faces.length, face.2 + 1⟩ : FaceEvent)) =
        some ∘ Prod.fst := by
      funext face
      exact if_neg hcount
    rw [if_neg hnone, List.mapIdx_eq_zipIdx_map, List.filterMap_map]
    refine (congrArg (fun f => List.filterMap f faces.zipIdx) hdata).trans ?_
    rw [List.filterMap_eq_map, List.zipIdx_map_fst]

theorem CallbackCall.reportEvents_eq (call : CallbackCall) :
    reportEvents call.report = frameEvents (call.report.faces.map faceValues) := by
  have hcount : call.report.faces.length = call.report.pdFaceCount := by
    simp [CallbackCall.report, readPpeData]
  have hnil : call.report.faces.map faceValues = [] <->
      call.report.pdFaceCount = 0 := by
    rw [List.map_eq_nil_iff, ← List.length_eq_zero_iff, hcount]
  rw [reportEvents, frameEvents]
  by_cases hzero : call.report.pdFaceCount = 0
  · rw [if_pos hzero, if_pos (hnil.mpr hzero)]
  · rw [if_neg hzero, if_neg fun hfaces => hzero (hnil.mp hfaces),
      List.length_map, hcount]
    apply List.ext_getElem
    · simp
    · intro i _ _
      simp

/-- Boxes for users of one of the messages, with what was found in the file for
each of them. -/
def DrawnFrom (payloads : List (List UInt8)) (boxes : List FaceEntry) : Prop :=
  exists payload, payload ∈ payloads ∧
    exists (files : List FaceIds) (faces : List FaceData),
      UsersTogether payload faces ∧ files.length = faces.length ∧
      boxes = List.zipWith faceEntry files (faces.map faceValues)

/-- What `/api/live_detection` returns for a copy of the boxes. -/
structure LiveDetection where
  faceId : Option Int
  ideal : Option Int
  canRegisterFace : Bool

/-- `live_detection` -/
def liveDetection : List FaceEntry -> LiveDetection
  | [] => { faceId := none, ideal := none, canRegisterFace := false }
  | primary :: _ =>
      { faceId := some primary.faceId
        ideal := some primary.ideal
        canRegisterFace := primary.ideal = 1 ∧ primary.faceId = 0 }

theorem UsersTogether.ideal {payload : List UInt8} {faces : List FaceData}
    (h : UsersTogether payload faces) {face : FaceData} (hface : face ∈ faces)
    (hideal : face.idealPerson = true) :
    exists i, idealUser (received payload.tail) payload.tail.length = some i ∧
      i < loopCount (received payload.tail) := by
  rcases h with ⟨-, rfl | ⟨faceId, rfl⟩⟩
  · rcases List.mem_map.mp hface with ⟨i, hi, rfl⟩
    exact ⟨i, of_decide_eq_true hideal,
      List.mem_range.mp (List.mem_filter.mp hi).1⟩
  · rcases List.mem_mapIdx.mp hface with ⟨j, hj, rfl⟩
    exact ⟨_, of_decide_eq_true hideal,
      List.mem_range.mp (List.mem_filter.mp (List.getElem_mem hj)).1⟩

/-- Somebody can be registered only when a message has named one of its users as
the ideal one. -/
theorem DrawnFrom.canRegisterFace {payloads : List (List UInt8)}
    {boxes : List FaceEntry} (h : DrawnFrom payloads boxes)
    (hregister : (liveDetection boxes).canRegisterFace = true) :
    exists payload, payload ∈ payloads ∧
      exists i, idealUser (received payload.tail) payload.tail.length = some i ∧
        i < loopCount (received payload.tail) := by
  rcases h with ⟨payload, hpayload, files, faces, htogether, -, rfl⟩
  refine ⟨payload, hpayload, ?_⟩
  cases files with
  | nil =>
      cases hregister
  | cons file files =>
      cases faces with
      | nil =>
          cases hregister
      | cons face faces =>
          apply htogether.ideal List.mem_cons_self
          have hone := (of_decide_eq_true hregister).1
          change (if face.idealPerson then (1 : Int) else 0) = 1 at hone
          split at hone
          next hideal =>
            exact hideal
          next =>
            cases hone

/-!
## What is drawn
-/

/-- The frames of a run, and the one that was completed last, are frames that
the listener has heard. -/
theorem watchedStep_heard {heard : List EventData -> Prop}
    (w : BoxState × Observed) (a : BoxAction) (w' : BoxState × Observed)
    (h : (w.2.faces = [] ∨ heard w.2.faces) ∧
      (w.2.completedFaces = [] ∨ heard w.2.completedFaces))
    (hgood : forall faces, a = .frame faces -> heard faces)
    (hstep : watchedStep w a = some w') :
    (w'.2.faces = [] ∨ heard w'.2.faces) ∧
      (w'.2.completedFaces = [] ∨ heard w'.2.completedFaces) := by
  rcases Option.map_eq_some_iff.mp hstep with ⟨s, -, rfl⟩
  cases a with
  | frame faces =>
      exact ⟨Or.inr (hgood faces rfl), h.2⟩
  | emptyFrame =>
      exact ⟨h.1, Or.inl rfl⟩
  | commit =>
      exact ⟨h.1, h.1⟩
  | _ =>
      exact h

/-- A frame that is heard has the faces of a report of one of the messages. -/
theorem Heard.reported {connections : List StreamConnection}
    {faces : List EventData} (h : Heard connections faces)
    {called : List CallbackCall}
    (hbools : forall call, call ∈ called -> call.Bools)
    (hcalled : forall connection, connection ∈ connections ->
      forall send, send ∈ connection.sends -> send.1 ∈ called)
    {payloads : List (List UInt8)} {made : List (List Report)}
    (hall : List.Forall₂ ReportsOf payloads made)
    (hcalls : called.map CallbackCall.report =
      made.flatten.map fun report => { report with declared := 0 }) :
    exists payload, payload ∈ payloads ∧
      exists reported, UsersTogether payload reported ∧
        faces = reported.map faceValues := by
  rcases h with ⟨connection, hconnection, passes, hread⟩
  have hsent := hcalled connection hconnection
  rcases mem_readAll_connection (fun send hsend =>
      hbools send.1 (hsent send hsend)) hread with ⟨send, hsend, hevents⟩
  have hmade : send.1.report ∈ called.map CallbackCall.report :=
    List.mem_map_of_mem (hsent send hsend)
  rw [hcalls] at hmade
  rcases List.mem_map.mp hmade with ⟨report, hreport, hsame⟩
  rcases List.mem_flatten.mp hreport with ⟨reports, hreports, hmem⟩
  rcases exists_mem_of_forall₂ hall hreports with ⟨payload, hpayload, hof⟩
  have hfaces : send.1.report.faces = report.faces := by
    rw [← hsame]
  refine ⟨payload, hpayload, report.faces, hof.together hmem, ?_⟩
  rw [send.1.reportEvents_eq, hfaces] at hevents
  exact eventFaces_frameEvents.injective hevents

/-- The boxes of a frame with the faces of a report are drawn from its message. -/
theorem WholeFrame.drawnFrom {o : Observed} {boxes : List FaceEntry}
    {payloads : List (List UInt8)} (h : WholeFrame o boxes)
    (hcompleted : o.completedFaces = [] ∨
      exists payload, payload ∈ payloads ∧
        exists reported, UsersTogether payload reported ∧
          o.completedFaces = reported.map faceValues) :
    boxes = [] ∨ DrawnFrom payloads boxes := by
  rcases h with hempty | ⟨hlength, hboxes⟩
  · exact Or.inl hempty
  · rcases hcompleted with
      hnone | ⟨payload, hpayload, reported, htogether, hfaces⟩
    · rw [hnone, List.zipWith_nil_right] at hboxes
      exact Or.inl hboxes
    · rw [hfaces, List.length_map] at hlength
      rw [hfaces] at hboxes
      exact Or.inr ⟨payload, hpayload, o.completedFiles, reported, htogether,
        hlength, hboxes⟩

/-- Whatever junk and messages the GARD puts on the line, however the stream is
cut into reads and broken off, and in whatever order the threads take their
steps: whenever the boxes are copied, there is none, or they are those of the
users of one message that the checks have got to, either all who have been
identified or all others; and somebody can be registered only when a message has
named one of its users as the ideal one. -/
theorem copyBoxes_from_line (pool : BufferPool) (heap : Memory)
    (items : List StreamItem)
    (hitems : forall item, item ∈ items -> item.WellFormed stagingSize)
    (hdocumented : forall item, item ∈ items ->
      forall payload, payload ∈ item.payloads -> DocumentedPayload payload)
    (checks : Nat) (world : HubWorld ByteStream (KtContext StreamingApp))
    (hlistening : Listening stagingSize world)
    (hcbs : world.gard.pAppLayerCbs = some (ktAppLayerCbs streamingCallbacks))
    (hline : world.line.state.incoming = items.flatMap StreamItem.bytes)
    (happ : world.app = streamingMain pool heap) :
    exists next,
      runActions (performCall streamPort) world
          (List.replicate checks .checkAndExecuteGardCommand) = some next ∧
      forall (connections : List StreamConnection) (actions : List BoxAction),
        (forall connection, connection ∈ connections ->
          forall send, send ∈ connection.sends ->
            send.1 ∈ next.app.lib.app.called) ->
        (forall faces, .frame faces ∈ actions -> Heard connections faces) ->
        forall w, w ∈ reachedStates watchedStep (boxStart, observedStart)
            actions ->
          (copyBoxes w.1 = [] ∨
            DrawnFrom ((items.take checks).flatMap StreamItem.payloads)
              (copyBoxes w.1)) ∧
          ((liveDetection (copyBoxes w.1)).canRegisterFace = true ->
            exists payload,
              payload ∈ (items.take checks).flatMap StreamItem.payloads ∧
              exists i, idealUser (received payload.tail) payload.tail.length =
                  some i ∧
                i < loopCount (received payload.tail)) := by
  rcases checks_report pool heap items hitems hdocumented checks world
    hlistening hcbs hline happ with ⟨next, hrun, hbools, made, hall, hcalls⟩
  refine ⟨next, hrun, ?_⟩
  intro connections actions hcalled hframes w hw
  have hkeeps : forall (w : BoxState × Observed) (a : BoxAction)
      (w' : BoxState × Observed),
      (Consistent w ∧ (w.2.faces = [] ∨ Heard connections w.2.faces) ∧
        (w.2.completedFaces = [] ∨ Heard connections w.2.completedFaces)) ->
      (forall faces, a = .frame faces -> Heard connections faces) ->
      watchedStep w a = some w' ->
      (Consistent w' ∧ (w'.2.faces = [] ∨ Heard connections w'.2.faces) ∧
        (w'.2.completedFaces = [] ∨ Heard connections w'.2.completedFaces)) :=
    fun w a w' h hgood hstep => ⟨watchedStep_consistent w a w' h.1 hstep,
      watchedStep_heard w a w' h.2 hgood hstep⟩
  rcases reachedStates_of_meets hkeeps
    ⟨consistent_start, Or.inl rfl, Or.inl rfl⟩ actions
    (runMeets_of_mem _ fun a ha _ faces hframe => hframes faces (hframe ▸ ha))
    w hw with ⟨hconsistent, -, hcompleted⟩
  have hdrawn := hconsistent.whole.drawnFrom
    (hcompleted.imp_right fun h => h.reported hbools hcalled hall hcalls)
  refine ⟨hdrawn, ?_⟩
  intro hregister
  rcases hdrawn with hnone | hfrom
  · rw [hnone] at hregister
    cases hregister
  · exact hfrom.canRegisterFace hregister

theorem heard_wholeMessage {call : CallbackCall} (hbools : call.Bools)
    {connections : List StreamConnection} {connection : StreamConnection}
    (hconnection : connection ∈ connections)
    (hsock : connection.sock.bytes = call.bytes) :
    Heard connections (call.report.faces.map faceValues) := by
  have hread : (readMessages (listenerPass takeBytes) 1
      ([call].flatMap CallbackCall.bytes)).1 =
      ([call].map fun call => reportEvents call.report).take 1 := by
    apply readMessages_flatMap_take [call] _ rfl
    intro sent hsent rest
    rcases List.mem_singleton.mp hsent with rfl
    rw [← frame_events sent hbools]
    exact listenerPass_bytes (sent.frame hbools) rest
  refine ⟨connection, hconnection, 1, ?_⟩
  rw [ChunkedStream.readAll_bytes (listenerPass_map recvExact_bytes), hsock]
  rw [List.flatMap_singleton] at hread
  rw [hread, ← call.reportEvents_eq]
  exact List.mem_singleton.mpr rfl

theorem reportsOf_threeUsers {reports : List Report}
    (h : ReportsOf (7 :: threeUsers) reports) :
    exists report later face, reports = report :: later ∧
      report.faces = [face] := by
  have hmessage : (7 :: threeUsers).head? =
      some AppLayerSendCommand.hmiMetadata.code := rfl
  have hone : identifiedUsers (received threeUsers)
      (loopCount (received threeUsers)) = [1] := by
    decide +kernel
  rw [ReportsOf, if_pos hmessage] at h
  rcases h with ⟨declared, declared', faceId, rfl⟩
  simp only [List.tail_cons, identifiedReports, hone,
    if_neg (List.cons_ne_nil _ _), List.cons_append, List.nil_append]
  exact ⟨_, _, _, rfl, rfl⟩

/-- Of the three users one is identified, and the box for that user is drawn
alone. -/
theorem copyBoxes_from_line_threeUsers :
    exists next connections actions w,
      runActions (performCall streamPort) threeUsersWorld
          (List.replicate 2 .checkAndExecuteGardCommand) = some next ∧
      w ∈ reachedStates watchedStep (boxStart, observedStart) actions ∧
      (forall faces, .frame faces ∈ actions -> Heard connections faces) ∧
      (copyBoxes w.1).length = 1 ∧
      DrawnFrom [7 :: threeUsers] (copyBoxes w.1) := by
  rcases copyBoxes_from_line pagePool (fun _ => 0) threeUsersItems
    threeUsersItems_wellFormed threeUsersItems_documented 2 threeUsersWorld
    ⟨rfl, ⟨_, rfl, rfl⟩, ⟨_, rfl, ktAppLayerCbs_serves _⟩⟩ rfl
    threeUsersWorld_line rfl with ⟨next, hrun, hdraws⟩
  rcases checks_report pagePool (fun _ => 0) threeUsersItems
    threeUsersItems_wellFormed threeUsersItems_documented 2 threeUsersWorld
    ⟨rfl, ⟨_, rfl, rfl⟩, ⟨_, rfl, ktAppLayerCbs_serves _⟩⟩ rfl
    threeUsersWorld_line rfl with ⟨next', hrun', hbools, made, hall, hcalls⟩
  rw [hrun] at hrun'
  cases hrun'
  have hmade : List.Forall₂ ReportsOf [7 :: threeUsers] made := hall
  rcases List.forall₂_cons_left_iff.mp hmade with ⟨reports, rest, hof, hrest, rfl⟩
  rcases reportsOf_threeUsers hof with ⟨report, others, face, rfl, hface⟩
  rw [List.flatten_cons, List.cons_append, List.map_cons] at hcalls
  rcases List.map_eq_cons_iff.mp hcalls with ⟨call, later, hcalled, hreport, -⟩
  have hfaces : call.report.faces = [face] := by
    rw [hreport]
    exact hface
  have hmem : call ∈ next.app.lib.app.called := by
    rw [hcalled]
    exact List.mem_cons_self
  have hsent : AllSent ⟨true, 5⟩ (fun _ => [.sent (2 ^ 38)]) [call] :=
    allSent_atOnce _ (by decide) rfl _
  have hcarried : carriedBytes ⟨true, 5⟩ [(call, [.sent (2 ^ 38)])] =
      call.bytes := by
    have hwhole := hsent 0 call rfl
    simp only [carriedBytes, if_pos hwhole, List.append_nil]
    exact CallbackCall.send_whole hwhole
  let sock : ChunkedStream :=
    { chunks := call.bytes.map fun byte => [byte]
      nonempty := by simp }
  have hsock : sock.bytes = call.bytes := by
    simp [sock, ChunkedStream.bytes, ← List.flatMap_def]
  let connection : StreamConnection :=
    { client := ⟨true, 5⟩
      sends := [(call, [.sent (2 ^ 38)])]
      sock := sock
      arrives := by
        rw [hsock, hcarried] }
  have hheard : Heard [connection] (call.report.faces.map faceValues) :=
    heard_wholeMessage (hbools call hmem) (List.mem_singleton.mpr rfl) hsock
  rw [hfaces, List.map_singleton] at hheard
  let actions : List BoxAction :=
    [.frame [faceValues face], .accumulate none, .commit]
  have hframes : forall faces, .frame faces ∈ actions ->
      Heard [connection] faces := by
    intro faces hframe
    simp only [actions, List.mem_cons, BoxAction.frame.injEq, reduceCtorEq,
      List.not_mem_nil, or_false] at hframe
    rw [hframe]
    exact hheard
  have hlast : (reachedStates watchedStep (boxStart, observedStart)
      actions)[2]? = some _ := rfl
  have hw := List.mem_of_getElem? hlast
  have hsends : forall connection', connection' ∈ [connection] ->
      forall send, send ∈ connection'.sends ->
        send.1 ∈ next.app.lib.app.called := by
    intro connection' hconnection send hsend
    rcases List.mem_singleton.mp hconnection with rfl
    rcases List.mem_singleton.mp hsend with rfl
    exact hmem
  have hdrawn := (hdraws [connection] actions hsends hframes _ hw).1
  refine ⟨next, [connection], actions, _, hrun, hw, hframes, rfl, ?_⟩
  rcases hdrawn with hnone | hfrom
  · cases hnone
  · exact hfrom

end KtApp
end GardHub
