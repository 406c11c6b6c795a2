import GardHub.Hub.Calls

/-!
# Frames on a stream

A GARD frame on the line is an originator sync, the header with the 24-bit
payload size, and the payload.  Each check takes one frame off the line, or one
byte that does not start a frame.  `Took` says what a piece of the work did to
the line and to the App Layer; the pieces of a check are put together with
`Took.trans`.
-/

namespace GardHub
namespace Hub

open Foundation
open Dal
open Interface

variable {app : Type}

/-- The bytes of a frame. -/
def frameBytes (payload : List UInt8) : List UInt8 :=
  [HostRequestCommandId.originatorSync.code, originatorIdGard] ++
    (HostRequestCommandId.gardAppLayerSend.code ::
      leBytes 3 payload.length) ++ payload

/-- From one world to the next, the HUB left `rest` on the line, wrote bytes to
it, and delivered payloads. -/
structure Took (before after : HubWorld ByteStream app) (rest : List UInt8)
    (written : List UInt8) (delivered : List Delivery) : Prop where
  incoming : after.line.state.incoming = rest
  outgoing : after.line.state.outgoing =
    before.line.state.outgoing ++ written
  deliveries : after.deliveries = before.deliveries ++ delivered
  gard : after.gard = before.gard

theorem Took.trans {first second third : HubWorld ByteStream app}
    {rest rest' written written' : List UInt8}
    {delivered delivered' : List Delivery}
    (h : Took first second rest written delivered)
    (h' : Took second third rest' written' delivered') :
    Took first third rest' (written ++ written')
      (delivered ++ delivered') := by
  constructor
  · exact h'.incoming
  · rw [h'.outgoing, h.outgoing, List.append_assoc]
  · rw [h'.deliveries, h.deliveries, List.append_assoc]
  · rw [h'.gard, h.gard]

/-!
## Pieces of a check
-/

section Pieces

variable {bus : DalBus} {world : HubWorld ByteStream app}

/-- Waiting bytes are read in full, and nothing else changes. -/
theorem read_stream (hbus : bus.busType = .uart) (count : UInt32)
    {front back : List UInt8} (hcount : count.toNat < 2 ^ 31)
    (hfront : front.length = count.toNat)
    (hline : world.line.state.incoming = front ++ back) :
    exists next, world.read streamPort bus count =
        ((count.toNat : Int), front, next) ∧
      Took world next back [] [] ∧ next.app = world.app ∧
      next.buffers = world.buffers := by
  rw [HubWorld.read, dalRead_stream hbus hcount hfront hline]
  exact ⟨_, rfl, ⟨rfl, by simp, by simp, rfl⟩, rfl, rfl⟩

/-- A write is taken whole, and nothing else changes. -/
theorem write_stream (world : HubWorld ByteStream app)
    (hbus : bus.busType = .uart) (count : UInt32)
    {bytes : List UInt8} (hcount : count.toNat < 2 ^ 31)
    (hbytes : bytes.length = count.toNat) :
    exists next, world.write streamPort bus bytes count =
        ((count.toNat : Int), next) ∧
      Took world next world.line.state.incoming bytes [] ∧
      next.app = world.app := by
  rw [HubWorld.write, dalWrite_stream hbus hcount hbytes]
  exact ⟨_, rfl, ⟨rfl, rfl, by simp, rfl⟩, rfl⟩

theorem matchesSize_rest (payloadSize : UInt32)
    (hsize : 4 ≤ payloadSize.toNat) :
    matchesSize ((payloadSize - 4).toNat : Int)
      (payloadSize.toNat + 2 ^ 64 - appLayerPeekBufferSize) = true := by
  have hlt : payloadSize.toNat < 2 ^ 32 := payloadSize.toNat_lt
  have hsub : (payloadSize - 4).toNat = payloadSize.toNat - 4 :=
    UInt32.toNat_sub_of_le _ _ hsize
  rw [matchesSize, hsub, toSizeT_natCast (by lia), appLayerPeekBufferSize,
    show payloadSize.toNat + 2 ^ 64 - 4 =
      (payloadSize.toNat - 4) + 2 ^ 64 from by lia, Nat.add_mod_right,
    Nat.mod_eq_of_lt (by lia)]
  exact beq_self_eq_true _

theorem fillBuffer_stream (hbus : bus.busType = .uart) {payloadSize : UInt32}
    {peek tail back : List UInt8} (pBuffer : Nat) (bufferSize : UInt32)
    (hpeek : peek.length = 4)
    (hsize : payloadSize.toNat = 4 + tail.length)
    (hshort : payloadSize.toNat < 2 ^ 31)
    (hline : world.line.state.incoming = tail ++ back) :
    exists next, fillBuffer streamPort bus payloadSize peek pBuffer bufferSize
        world = (((payloadSize - 4).toNat : Int), next) ∧
      Took world next back [] [] ∧ next.app = world.app ∧
      (next.buffers pBuffer).load 0 payloadSize.toNat = peek ++ tail := by
  have hsub : (payloadSize - UInt32.ofNat appLayerPeekBufferSize).toNat =
      payloadSize.toNat - 4 :=
    UInt32.toNat_sub_of_le _ _ (by change 4 ≤ payloadSize.toNat; lia)
  have hcount : (payloadSize - UInt32.ofNat appLayerPeekBufferSize).toNat <
      2 ^ 31 := by
    lia
  have hread := dalRead_stream hbus hcount (by lia) hline
  have hload := Memory.load_store_append (world.buffers pBuffer) 0 peek tail
  simp only [fillBuffer, HubWorld.storeBuffer, HubWorld.read, hread]
  refine ⟨_, rfl, ⟨rfl, by simp, by simp, rfl⟩, rfl, ?_⟩
  rw [hsize, ← hpeek]
  simpa [hpeek, appLayerPeekBufferSize] using hload

/-- The App Layer has set both callbacks, and whenever it is shown a payload that
starts with one of its identifiers it gives a buffer of at least a certain
size. -/
def Serves (cbs : HubAppLayerCallbacks app)
    (limit : AppLayerSendCommand -> Nat) : Prop :=
  exists getBuffer handle, cbs.getBufferForGardSendData = some getBuffer ∧
    cbs.handleGardSend = some handle ∧
    forall a peek command, peek.head? = some command.code ->
      exists pBuffer bufferSize a',
        getBuffer a peek = (some (pBuffer, bufferSize), a') ∧
        limit command ≤ UInt32.toNat bufferSize

/-- The payload of a frame the App Layer has room for. -/
def WellFormedPayload (limit : AppLayerSendCommand -> Nat)
    (payload : List UInt8) : Prop :=
  4 ≤ payload.length ∧ payload.length < 2 ^ 24 ∧
    exists command : AppLayerSendCommand,
      payload.head? = some command.code ∧ payload.length ≤ limit command

/-- The App Layer has handled a payload: it was asked for a buffer with the peek
and then called back with the payload in that buffer. -/
def Handled (cbs : HubAppLayerCallbacks app) (payload : List UInt8)
    (before after : app) : Prop :=
  exists getBuffer handle pBuffer bufferSize asked buffers,
    cbs.getBufferForGardSendData = some getBuffer ∧
    cbs.handleGardSend = some handle ∧
    getBuffer before (payload.take 4) = (some (pBuffer, bufferSize), asked) ∧
    (buffers pBuffer).load 0 payload.length = payload ∧
    after = (handle asked buffers pBuffer (UInt32.ofNat payload.length)).2.1

/-- The App Layer has handled payloads one after another. -/
def HandledAll (cbs : HubAppLayerCallbacks app) :
    List (List UInt8) -> app -> app -> Prop
  | [], before, after => after = before
  | payload :: rest, before, after =>
      exists mid, Handled cbs payload before mid ∧
        HandledAll cbs rest mid after

theorem receivePayload_stream (hbus : bus.busType = .uart)
    {cbs : HubAppLayerCallbacks app} {limit : AppLayerSendCommand -> Nat}
    (hserves : Serves cbs limit) (hcbs : world.gard.pAppLayerCbs = some cbs)
    {payload back : List UInt8} (hpayload : WellFormedPayload limit payload)
    {payloadSize : UInt32} (hsize : payloadSize.toNat = payload.length)
    (hline : world.line.state.incoming = payload.drop 4 ++ back) :
    exists ret next, receivePayload streamPort bus payloadSize (payload.take 4)
        world = (.returned ret, next) ∧
      Took world next back [] [{ size := payloadSize, payload := payload }] ∧
      Handled cbs payload world.app next.app := by
  rcases hserves with ⟨getBuffer, handle, hget, hhandle, hanswers⟩
  rcases hpayload with ⟨hlow, hhigh, command, hhead, hlimit⟩
  have hpeekHead : (payload.take 4).head? = some command.code := by
    rw [List.head?_take, if_neg (by decide), hhead]
  rcases hanswers world.app (payload.take 4) command hpeekHead
    with ⟨pBuffer, bufferSize, a, hanswer, hroom⟩
  have hfits : ¬ bufferSize < payloadSize := by
    rw [UInt32.lt_iff_toNat_lt]
    lia
  have hpeek : (payload.take 4).length = 4 := by
    rw [List.length_take]
    lia
  have htail : payloadSize.toNat = 4 + (payload.drop 4).length := by
    rw [List.length_drop]
    lia
  have hworld : ({ world with app := a } : HubWorld ByteStream app
      ).line.state.incoming = payload.drop 4 ++ back := hline
  rcases fillBuffer_stream hbus pBuffer bufferSize hpeek htail (by lia) hworld
    with ⟨next, hfill, htook, happ, hload⟩
  rw [List.take_append_drop] at hload
  refine ⟨(next.deliver handle pBuffer payloadSize).1,
    (next.deliver handle pBuffer payloadSize).2, ?_, ?_, ?_⟩
  · unfold receivePayload
    simp only [hcbs, hget, hhandle, hanswer, if_neg hfits, hfill,
      matchesSize_rest payloadSize (by lia)]
    rfl
  · constructor
    · exact htook.incoming
    · exact htook.outgoing
    · simp only [HubWorld.deliver, hload, htook.deliveries, List.append_nil]
    · exact htook.gard
  · have hannounced : UInt32.ofNat payload.length = payloadSize := by
      rw [← hsize, UInt32.ofNat_toNat]
    refine ⟨getBuffer, handle, pBuffer, bufferSize, a, next.buffers, hget,
      hhandle, hanswer, ?_, ?_⟩
    · rw [← hsize]
      exact hload
    · rw [hannounced, HubWorld.deliver, happ]

theorem headerPayloadSize_frame {size : Nat} (h : size < 2 ^ 24) :
    headerPayloadSize (HostRequestCommandId.gardAppLayerSend.code ::
      leBytes 3 size) = UInt32.ofNat size := by
  rw [headerPayloadSize, fieldValue, List.drop_one, List.tail_cons,
    List.take_of_length_le (by simp), leValue_leBytes_of_lt h]

theorem toNat_payloadSize {size : Nat} (h : size < 2 ^ 24) :
    (UInt32.ofNat size).toNat = size :=
  UInt32.toNat_ofNat_of_lt' (lt_trans h (by decide))

/-- With a header and a payload on the line, the payload is received behind a
peek at its first four bytes. -/
theorem hubHandleAppLayerSendData_peek (hbus : bus.busType = .uart)
    (hactive : world.gard.activeDalBus = some bus)
    {payload back : List UInt8} (hlow : 4 ≤ payload.length)
    (hhigh : payload.length < 2 ^ 24)
    (hline : world.line.state.incoming =
      (HostRequestCommandId.gardAppLayerSend.code ::
        leBytes 3 payload.length) ++ (payload ++ back)) :
    exists peeked, hubHandleAppLayerSendData streamPort world =
        receivePayload streamPort bus (UInt32.ofNat payload.length)
          (payload.take 4) peeked ∧
      Took world peeked (payload.drop 4 ++ back) [] [] ∧
      peeked.app = world.app := by
  have hpeekLine :
      payload ++ back = payload.take 4 ++ (payload.drop 4 ++ back) := by
    rw [← List.append_assoc, List.take_append_drop]
  have hpeekLength : (payload.take 4).length = (4 : UInt32).toNat := by
    rw [List.length_take]
    change min 4 payload.length = 4
    lia
  rcases read_stream hbus 4 (by decide) (by simp) hline
    with ⟨header, hread, htookHeader, happHeader, -⟩
  rcases read_stream hbus 4 (by decide) hpeekLength
    (htookHeader.incoming.trans hpeekLine)
    with ⟨peeked, hpeek, htookPeek, happPeek, -⟩
  have hnonzero : UInt32.ofNat payload.length ≠ 0 := by
    intro hzero
    have hsize := toNat_payloadSize hhigh
    rw [hzero] at hsize
    simp at hsize
    lia
  have hmatch : matchesSize ((4 : UInt32).toNat : Int) 4 = true := by
    decide
  refine ⟨peeked, ?_, by simpa using htookHeader.trans htookPeek,
    happPeek.trans happHeader⟩
  unfold hubHandleAppLayerSendData
  simp only [hactive, hread, hmatch, headerPayloadSize_frame hhigh]
  rw [if_neg (by decide), if_neg (by simp), if_neg hnonzero]
  change (if !matchesSize (header.read streamPort bus 4).1 4 then _
    else receivePayload streamPort bus _ (header.read streamPort bus 4).2.1
      (header.read streamPort bus 4).2.2) = _
  rw [hpeek, hmatch, if_neg (by decide)]

/-- With a frame on the line, a check answers it and receives the payload behind
the peek, with the flag set in the meantime. -/
theorem hubCheckAndExecuteGardCommand_peek (hbus : bus.busType = .uart)
    (hactive : world.gard.activeDalBus = some bus) (hidle : Idle world)
    {payload back : List UInt8} (hlow : 4 ≤ payload.length)
    (hhigh : payload.length < 2 ^ 24)
    (hline : world.line.state.incoming = frameBytes payload ++ back) :
    exists peeked, hubCheckAndExecuteGardCommand streamPort world =
        finishCommand (receivePayload streamPort bus
          (UInt32.ofNat payload.length) (payload.take 4) peeked) ∧
      Took (world.setCommandExecution true) peeked (payload.drop 4 ++ back)
        originatorSyncResponse [] ∧
      peeked.app = world.app := by
  have hflag : world.gard.commandExecution = false := hidle
  have hframe : world.line.state.incoming =
      [HostRequestCommandId.originatorSync.code] ++ ([originatorIdGard] ++
        ((HostRequestCommandId.gardAppLayerSend.code ::
          leBytes 3 payload.length) ++ (payload ++ back))) := by
    simpa [frameBytes] using hline
  rcases read_stream hbus 1 (by decide) rfl hframe
    with ⟨polled, hpoll, htookPoll, happPoll, -⟩
  rcases read_stream hbus 1 (by decide) rfl htookPoll.incoming
    with ⟨asked, hask, htookAsk, happAsk, -⟩
  have hresponse : originatorSyncResponse.length = (2 : UInt32).toNat := rfl
  rcases write_stream asked hbus 2 (by decide) hresponse
    with ⟨answered, hwrite, htookWrite, happWrite⟩
  have hgard : (answered.setCommandExecution true).gard =
      (world.setCommandExecution true).gard := by
    simp only [HubWorld.setCommandExecution, htookWrite.gard, htookAsk.gard,
      htookPoll.gard]
  have hheader : (answered.setCommandExecution true).line.state.incoming =
      (HostRequestCommandId.gardAppLayerSend.code ::
        leBytes 3 payload.length) ++ (payload ++ back) :=
    htookWrite.incoming.trans htookAsk.incoming
  rcases hubHandleAppLayerSendData_peek hbus (by rw [hgard]; exact hactive) hlow
    hhigh hheader with ⟨peeked, hhandle, htook, happ⟩
  have htookSync := htookPoll.trans (htookAsk.trans htookWrite)
  have hmatch : matchesSize ((1 : UInt32).toNat : Int) 1 = true := by
    decide
  have hmatchWrite : matchesSize ((2 : UInt32).toNat : Int) 2 = true := by
    decide
  refine ⟨peeked, ?_, ⟨htook.incoming, ?_, ?_, htook.gard.trans hgard⟩, ?_⟩
  · simp only [hubCheckAndExecuteGardCommand, hflag, hactive, hpoll, hask,
      hmatch]
    rw [if_neg (by decide), if_neg (by decide), if_neg (by simp),
      if_neg (by decide), if_neg (by simp)]
    simp only [serveOriginatorSync, hwrite, hmatchWrite, hhandle]
    rfl
  · rw [htook.outgoing, List.append_nil]
    exact htookSync.outgoing
  · rw [htook.deliveries, List.append_nil]
    exact htookSync.deliveries
  · exact happ.trans (happWrite.trans (happAsk.trans happPoll))

/-- Clearing the flag again makes up for its having been set. -/
theorem Took.setCommandExecution {before after : HubWorld ByteStream app}
    {rest written : List UInt8} {delivered : List Delivery}
    (hidle : Idle before)
    (h : Took (before.setCommandExecution true) after rest written delivered) :
    Took before (after.setCommandExecution false) rest written delivered := by
  have hflag : before.gard.commandExecution = false := hidle
  constructor
  · exact h.incoming
  · exact h.outgoing
  · exact h.deliveries
  · simp only [HubWorld.setCommandExecution, h.gard, ← hflag]

/-- A check with a frame on the line takes the frame and delivers its payload,
whatever the App Layer returns for it. -/
theorem hubCheckAndExecuteGardCommand_frame (hbus : bus.busType = .uart)
    (hactive : world.gard.activeDalBus = some bus) (hidle : Idle world)
    {cbs : HubAppLayerCallbacks app} {limit : AppLayerSendCommand -> Nat}
    (hserves : Serves cbs limit) (hcbs : world.gard.pAppLayerCbs = some cbs)
    {payload back : List UInt8} (hpayload : WellFormedPayload limit payload)
    (hline : world.line.state.incoming = frameBytes payload ++ back) :
    exists ret next, hubCheckAndExecuteGardCommand streamPort world =
        (.returned ret, next) ∧
      Took world next back originatorSyncResponse
        [{ size := UInt32.ofNat payload.length, payload := payload }] ∧
      Handled cbs payload world.app next.app := by
  rcases hubCheckAndExecuteGardCommand_peek hbus hactive hidle hpayload.1
    hpayload.2.1 hline with ⟨peeked, hcheck, htookPeek, happ⟩
  rcases receivePayload_stream hbus hserves (by rw [htookPeek.gard]; exact hcbs)
    hpayload (toNat_payloadSize hpayload.2.1) htookPeek.incoming
    with ⟨ret, next, hreceive, htook, hhandled⟩
  rw [happ] at hhandled
  refine ⟨ret, next.setCommandExecution false, ?_, ?_, hhandled⟩
  · rw [hcheck, hreceive]
    rfl
  · have htookAll := htookPeek.trans htook
    rw [List.append_nil, List.nil_append] at htookAll
    exact htookAll.setCommandExecution hidle

/-- A check with a byte on the line that does not start a frame takes that byte
and gives up. -/
theorem hubCheckAndExecuteGardCommand_junk (hbus : bus.busType = .uart)
    (hactive : world.gard.activeDalBus = some bus) (hidle : Idle world)
    {byte : UInt8} {back : List UInt8}
    (hbyte : byte ≠ HostRequestCommandId.originatorSync.code)
    (hline : world.line.state.incoming = byte :: back) :
    exists next, hubCheckAndExecuteGardCommand streamPort world =
        (.returned false, next) ∧
      Took world next back [] [] ∧ next.app = world.app := by
  have hflag : world.gard.commandExecution = false := hidle
  have hbytes : world.line.state.incoming = [byte] ++ back := hline
  rcases read_stream hbus 1 (by decide) rfl hbytes
    with ⟨polled, hpoll, htookPoll, happ, -⟩
  have hmatch : matchesSize ((1 : UInt32).toNat : Int) 1 = true := by
    decide
  refine ⟨polled, ?_, htookPoll, happ⟩
  simp only [hubCheckAndExecuteGardCommand, hflag, hactive, hpoll, hmatch]
  rw [if_neg (by decide), if_neg (by decide)]
  exact if_pos hbyte

theorem hubCheckAndExecuteGardCommand_silent (hbus : bus.busType = .uart)
    (hactive : world.gard.activeDalBus = some bus) (hidle : Idle world)
    (hline : world.line.state.incoming = []) :
    exists next, hubCheckAndExecuteGardCommand streamPort world =
        (.returned false, next) ∧
      Took world next [] [] [] ∧ next.app = world.app := by
  have hflag : world.gard.commandExecution = false := hidle
  have hread : dalRead streamPort bus 1 world.line =
      (0, [], { state := { world.line.state with incoming := [] }
                events := world.line.events ++ [.read 1 [] 0] }) := by
    rw [dalRead, if_neg (by decide), hbus]
    simp only [streamPort, hline]
    rfl
  have hmatch : matchesSize 0 1 = false := by
    decide
  simp only [hubCheckAndExecuteGardCommand, HubWorld.read, hflag, hactive,
    hread, hmatch]
  exact ⟨_, rfl, ⟨rfl, by simp, by simp, rfl⟩, rfl⟩

end Pieces

/-!
## Streams of frames
-/

/-- What a stream is made of. -/
inductive StreamItem where
  | junk (byte : UInt8)
  | frame (payload : List UInt8)

namespace StreamItem

/-- The bytes of an item on the line. -/
def bytes : StreamItem -> List UInt8
  | junk byte => [byte]
  | frame payload => frameBytes payload

/-- What the HUB writes for an item. -/
def response : StreamItem -> List UInt8
  | junk _ => []
  | frame _ => originatorSyncResponse

/-- What the HUB delivers for an item. -/
def delivery : StreamItem -> List Delivery
  | junk _ => []
  | frame payload =>
      [{ size := UInt32.ofNat payload.length, payload := payload }]

/-- The payload of an item, if it has one. -/
def payloads : StreamItem -> List (List UInt8)
  | junk _ => []
  | frame payload => [payload]

/-- Junk does not look like an originator sync, and the App Layer has room for
every frame. -/
def WellFormed (limit : AppLayerSendCommand -> Nat) : StreamItem -> Prop
  | junk byte => byte ≠ HostRequestCommandId.originatorSync.code
  | frame payload => WellFormedPayload limit payload

theorem WellFormed.payloads {limit : AppLayerSendCommand -> Nat}
    {item : StreamItem} (h : item.WellFormed limit) {payload : List UInt8}
    (hmem : payload ∈ item.payloads) : WellFormedPayload limit payload := by
  cases item with
  | junk byte =>
      cases hmem
  | frame sent =>
      cases List.mem_singleton.mp hmem
      exact h

end StreamItem

/-- An idle handle of a GARD that is reached over a UART, with an App Layer that
serves frames up to some limits. -/
structure Listening (limit : AppLayerSendCommand -> Nat)
    (world : HubWorld ByteStream app) : Prop where
  idle : world.gard.commandExecution = false
  bus : exists bus, world.gard.activeDalBus = some bus ∧ bus.busType = .uart
  serves : exists cbs, world.gard.pAppLayerCbs = some cbs ∧ Serves cbs limit

theorem Listening.of_took {limit : AppLayerSendCommand -> Nat}
    {before after : HubWorld ByteStream app} {rest written : List UInt8}
    {delivered : List Delivery} (h : Listening limit before)
    (htook : Took before after rest written delivered) :
    Listening limit after := by
  constructor
  · rw [htook.gard]
    exact h.idle
  · rw [htook.gard]
    exact h.bus
  · rw [htook.gard]
    exact h.serves

/-- One check takes exactly one item off the line, and the App Layer handles its
payload. -/
theorem check_takes_item {limit : AppLayerSendCommand -> Nat}
    {world : HubWorld ByteStream app} (hlistening : Listening limit world)
    {cbs : HubAppLayerCallbacks app}
    (hcbs : world.gard.pAppLayerCbs = some cbs) {item : StreamItem}
    (hitem : item.WellFormed limit) {back : List UInt8}
    (hline : world.line.state.incoming = item.bytes ++ back) :
    exists next, performCall streamPort world .checkAndExecuteGardCommand =
        some next ∧
      Took world next back item.response item.delivery ∧
      HandledAll cbs item.payloads world.app next.app := by
  rcases hlistening.bus with ⟨bus, hactive, hbus⟩
  rcases hlistening.serves with ⟨cbs', hcbs', hserves⟩
  rw [hcbs] at hcbs'
  cases hcbs'
  cases item with
  | junk byte =>
      rcases hubCheckAndExecuteGardCommand_junk hbus hactive hlistening.idle
        hitem hline with ⟨next, hcheck, htook, happ⟩
      exact ⟨next, by simp [performCall, hcheck], htook, happ⟩
  | frame payload =>
      rcases hubCheckAndExecuteGardCommand_frame hbus hactive hlistening.idle
        hserves hcbs hitem hline with ⟨ret, next, hcheck, htook, hhandled⟩
      exact ⟨next, by simp [performCall, hcheck], htook, next.app, hhandled,
        rfl⟩

theorem check_silent {limit : AppLayerSendCommand -> Nat}
    {world : HubWorld ByteStream app} (hlistening : Listening limit world)
    (hline : world.line.state.incoming = []) :
    exists next, performCall streamPort world .checkAndExecuteGardCommand =
        some next ∧
      Took world next [] [] [] ∧ next.app = world.app := by
  rcases hlistening.bus with ⟨bus, hactive, hbus⟩
  rcases hubCheckAndExecuteGardCommand_silent hbus hactive hlistening.idle hline
    with ⟨next, hcheck, htook, happ⟩
  exact ⟨next, by simp [performCall, hcheck], htook, happ⟩

theorem Took.refl {world : HubWorld ByteStream app} {rest : List UInt8}
    (h : world.line.state.incoming = rest) : Took world world rest [] [] :=
  ⟨h, by simp, by simp, rfl⟩

theorem HandledAll.append {cbs : HubAppLayerCallbacks app}
    {front back : List (List UInt8)} {before mid after : app}
    (h : HandledAll cbs front before mid) (h' : HandledAll cbs back mid after) :
    HandledAll cbs (front ++ back) before after := by
  induction front generalizing before with
  | nil =>
      cases h
      exact h'
  | cons payload rest ih =>
      rcases h with ⟨next, hhandled, hrest⟩
      exact ⟨next, hhandled, ih hrest⟩

/-- Checks take the items off the line one after another, and the App Layer
handles the payloads in that order. -/
theorem checks_handle_items {limit : AppLayerSendCommand -> Nat}
    {cbs : HubAppLayerCallbacks app} (items : List StreamItem)
    (hitems : forall item, item ∈ items -> item.WellFormed limit)
    (checks : Nat) (world : HubWorld ByteStream app)
    (hlistening : Listening limit world)
    (hcbs : world.gard.pAppLayerCbs = some cbs)
    (hline : world.line.state.incoming = items.flatMap StreamItem.bytes) :
    exists next,
      runActions (performCall streamPort) world
          (List.replicate checks .checkAndExecuteGardCommand) = some next ∧
      Took world next ((items.drop checks).flatMap StreamItem.bytes)
        ((items.take checks).flatMap StreamItem.response)
        ((items.take checks).flatMap StreamItem.delivery) ∧
      HandledAll cbs ((items.take checks).flatMap StreamItem.payloads)
        world.app next.app := by
  induction checks generalizing items world with
  | zero =>
      exact ⟨world, rfl, Took.refl hline, rfl⟩
  | succ checks ih =>
      cases items with
      | nil =>
          rcases check_silent hlistening hline with ⟨mid, hcall, htook, happ⟩
          have hcbsMid : mid.gard.pAppLayerCbs = some cbs := by
            rw [htook.gard]
            exact hcbs
          rcases ih [] hitems mid (hlistening.of_took htook) hcbsMid
            htook.incoming with ⟨next, hrun, htookRun, hhandled⟩
          rw [happ] at hhandled
          refine ⟨next, ?_, by simpa using htook.trans htookRun,
            by simpa using hhandled⟩
          rw [List.replicate_succ, runActions, hcall]
          exact hrun
      | cons item rest =>
          rcases check_takes_item hlistening hcbs
            (hitems item List.mem_cons_self) hline
            with ⟨mid, hcall, htook, hhandled⟩
          have hcbsMid : mid.gard.pAppLayerCbs = some cbs := by
            rw [htook.gard]
            exact hcbs
          rcases ih rest
            (fun later hmem => hitems later (List.mem_cons_of_mem _ hmem)) mid
            (hlistening.of_took htook) hcbsMid htook.incoming
            with ⟨next, hrun, htookRun, hhandledRun⟩
          refine ⟨next, ?_, htook.trans htookRun, hhandled.append hhandledRun⟩
          rw [List.replicate_succ, runActions, hcall]
          exact hrun

end Hub
end GardHub
