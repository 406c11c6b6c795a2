import GardHub.Hub.AppLayer
import GardHub.Hub.BusSequence

/-!
# Bounds of the payload

What `hub_handle_app_layer_send_data` stores and asks for, against the payload
size the GARD announced and the buffer size the App Layer gave, and what it
returns when the payload cannot be received.
-/

namespace GardHub
namespace Hub

open Foundation
open Dal
open Interface

variable {device app : Type}

/-- The number of bytes the reads among some transfers asked for. -/
def askedBytes (events : List BusEvent) : Nat :=
  (events.map fun
    | .read count _ _ => count.toNat
    | .write _ _ => 0).sum

/-- The store stays inside the buffer. -/
def BufferStore.InBounds (s : BufferStore) : Prop :=
  s.offset + s.bytes.length ≤ s.bufferSize.toNat

instance (s : BufferStore) : Decidable s.InBounds :=
  inferInstanceAs (Decidable (_ ≤ _))

/-- Why a payload cannot be received from `announced` on: there is none, the peek
or the rest of it does not come, a callback is not set, or the App Layer has no
buffer or a shorter one. -/
inductive CannotReceive (port : Port device) (bus : DalBus)
    (payloadSize : UInt32) (announced : HubWorld device app) : Prop where
  | empty (hsize : payloadSize = 0)
  | peekShort (hpeek : (announced.read port bus 4).1 ≠ 4)
  | unset (hunset : forall cbs, announced.gard.pAppLayerCbs = some cbs ->
      cbs.getBufferForGardSendData = none ∨ cbs.handleGardSend = none)
  | noBuffer {cbs : HubAppLayerCallbacks app}
      {getBuffer : app -> List UInt8 -> Option (Nat × UInt32) × app}
      (hcbs : announced.gard.pAppLayerCbs = some cbs)
      (hget : cbs.getBufferForGardSendData = some getBuffer)
      (hnone : (getBuffer announced.app (announced.read port bus 4).2.1).1 =
        none)
  | tooSmall {cbs : HubAppLayerCallbacks app}
      {getBuffer : app -> List UInt8 -> Option (Nat × UInt32) × app}
      {pBuffer : Nat} {bufferSize : UInt32}
      (hcbs : announced.gard.pAppLayerCbs = some cbs)
      (hget : cbs.getBufferForGardSendData = some getBuffer)
      (hbuffer : (getBuffer announced.app (announced.read port bus 4).2.1).1 =
        some (pBuffer, bufferSize))
      (hsmall : bufferSize < payloadSize)
  | restShort (hrest : ((announced.read port bus 4).2.2.read port bus
      (UInt32.ofNat (payloadSize.toNat - 4))).1 ≠
        ((payloadSize.toNat - 4 : Nat) : Int))

/-- What a call that was announced `payloadSize` bytes may do from `before` on:
return, store inside the buffers, and ask for no more than what was announced.
It returns false if it cannot receive the payload. -/
structure KeepsBounds (port : Port device) (bus : DalBus) (payloadSize : UInt32)
    (before : HubWorld device app)
    (result : CallOutcome × HubWorld device app) : Prop where
  returned : result.1 ≠ .nullDereference
  stores : forall s, s ∈ result.2.stores.drop before.stores.length -> s.InBounds
  asked : askedBytes (result.2.line.events.drop before.line.events.length) ≤
    payloadSize.toNat
  refuses : CannotReceive port bus payloadSize before ->
    result.1 = .returned false

@[simp] theorem askedBytes_append (front back : List BusEvent) :
    askedBytes (front ++ back) = askedBytes front + askedBytes back := by
  simp [askedBytes]

@[simp] theorem askedBytes_read (count : UInt32) (bytes : List UInt8)
    (ret : Int) : askedBytes [.read count bytes ret] = count.toNat := by
  simp [askedBytes]

/-- What a filled buffer leaves behind. -/
theorem fillBuffer_line_events (port : Port device) (bus : DalBus)
    (payloadSize : UInt32) (peekBuffer : List UInt8) (pBuffer : Nat)
    (bufferSize : UInt32) (world : HubWorld device app) :
    exists event, askedBytes [event] = (payloadSize - 4).toNat ∧
      (fillBuffer port bus payloadSize peekBuffer pBuffer bufferSize
        world).2.line.events = world.line.events ++ [event] :=
  ⟨_, askedBytes_read _ _ _, dalRead_events port bus _ _⟩

theorem fillBuffer_stores (port : Port device) (bus : DalBus)
    {payloadSize : UInt32} {peekBuffer : List UInt8} {pBuffer : Nat}
    {bufferSize : UInt32} {world : HubWorld device app}
    (hpeek : peekBuffer.length ≤ 4) (hsize : 4 ≤ payloadSize.toNat)
    (hbuffer : payloadSize ≤ bufferSize) :
    exists stores, (forall s, s ∈ stores -> s.InBounds) ∧
      (fillBuffer port bus payloadSize peekBuffer pBuffer bufferSize
        world).2.stores = world.stores ++ stores := by
  have hle : payloadSize.toNat ≤ bufferSize.toNat := hbuffer
  have hrest : (payloadSize - UInt32.ofNat appLayerPeekBufferSize).toNat =
      payloadSize.toNat - 4 :=
    UInt32.toNat_sub_of_le _ _ hsize
  have hlength := dalRead_length_le port bus
    (payloadSize - UInt32.ofNat appLayerPeekBufferSize) world.line
  refine ⟨[
    { pBuffer := pBuffer, bufferSize := bufferSize, offset := 0,
      bytes := peekBuffer },
    { pBuffer := pBuffer, bufferSize := bufferSize, offset := 4,
      bytes := (dalRead port bus
        (payloadSize - UInt32.ofNat appLayerPeekBufferSize)
        world.line).2.1 }], ?_, ?_⟩
  · intro s hs
    rcases List.mem_cons.mp hs with rfl | hs
    · change 0 + peekBuffer.length ≤ bufferSize.toNat
      lia
    · rcases List.mem_singleton.mp hs with rfl
      change 4 + _ ≤ bufferSize.toNat
      lia
  · simp only [fillBuffer, HubWorld.storeBuffer, HubWorld.read,
      List.append_assoc]
    rfl

/-- The comparison with a size that a transfer can have is one of integers. -/
theorem matchesSize_iff {ret : Int} {size expected : Nat}
    (hret : -2 ^ 31 ≤ ret ∧ ret < 2 ^ 31) (hexpected : expected < 2 ^ 32)
    (hsize : size % 2 ^ 64 = expected) :
    matchesSize ret size = true <-> ret = expected := by
  rw [matchesSize, beq_iff_eq, hsize, toSizeT]
  lia

/-- Behind a peek that has come, the call returns false for each of the other
reasons why a payload cannot be received. -/
theorem receivePayload_refuses {port : Port device} {bus : DalBus}
    {payloadSize : UInt32} {announced : HubWorld device app}
    {cbs : HubAppLayerCallbacks app}
    (hcbs : announced.gard.pAppLayerCbs = some cbs)
    (hpeek : (announced.read port bus 4).1 = 4) (hsize : 4 ≤ payloadSize.toNat)
    (h : CannotReceive port bus payloadSize announced) :
    (receivePayload port bus payloadSize (announced.read port bus 4).2.1
      (announced.read port bus 4).2.2).1 = .returned false := by
  have hcbs' : (announced.read port bus 4).2.2.gard.pAppLayerCbs = some cbs :=
    hcbs
  rw [receivePayload, hcbs']
  simp only
  split
  next getBuffer handle hget hhandle =>
    split
    next =>
      rfl
    next pBuffer bufferSize hanswer =>
      split
      next =>
        rfl
      next hlarge =>
        have hrest : ((announced.read port bus 4).2.2.read port bus
            (UInt32.ofNat (payloadSize.toNat - 4))).1 ≠
              ((payloadSize.toNat - 4 : Nat) : Int) := by
          cases h with
          | empty hzero =>
              rw [hzero] at hsize
              cases hsize
          | peekShort hshort =>
              exact absurd hpeek hshort
          | unset hunset =>
              rcases hunset cbs hcbs with hnone | hnone
              · rw [hnone] at hget
                cases hget
              · rw [hnone] at hhandle
                cases hhandle
          | noBuffer hcbs'' hget' hnone =>
              cases hcbs.symm.trans hcbs''
              cases hget.symm.trans hget'
              cases hanswer.symm.trans hnone
          | tooSmall hcbs'' hget' hbuffer hsmall =>
              cases hcbs.symm.trans hcbs''
              cases hget.symm.trans hget'
              cases hanswer.symm.trans hbuffer
              exact absurd hsmall hlarge
          | restShort hrest =>
              exact hrest
        have hcount : UInt32.ofNat (payloadSize.toNat - 4) =
            payloadSize - UInt32.ofNat appLayerPeekBufferSize := by
          rw [UInt32.ofNat_sub hsize, UInt32.ofNat_toNat]
          rfl
        have hmatch := (matchesSize_iff
          (dalRead_ret_bounds port bus (announced.read port bus 4).2.2.line
            (UInt32.ofNat (payloadSize.toNat - 4)))
          (show payloadSize.toNat - 4 < 2 ^ 32 from
            (Nat.sub_le _ _).trans_lt payloadSize.toNat_lt)
          (show (payloadSize.toNat + 2 ^ 64 - appLayerPeekBufferSize) % 2 ^ 64 =
              payloadSize.toNat - 4 by
            have hlt : payloadSize.toNat < 2 ^ 32 := payloadSize.toNat_lt
            rw [appLayerPeekBufferSize]
            lia)).not.mpr hrest
        rw [hcount] at hmatch
        exact congrArg Prod.fst (if_pos (Bool.not_eq_true' _ ▸
          Bool.eq_false_iff.mpr hmatch))
  next =>
    rfl

/-- Receiving the payload with the callback table in place keeps the bounds if
the payload is at least as long as the peek. -/
theorem receivePayload_keepsBounds {port : Port device} {bus : DalBus}
    {payloadSize : UInt32} {announced : HubWorld device app}
    {cbs : HubAppLayerCallbacks app}
    (hcbs : announced.gard.pAppLayerCbs = some cbs)
    (hpeek : (announced.read port bus 4).1 = 4)
    (hsize : 4 ≤ payloadSize.toNat) :
    KeepsBounds port bus payloadSize announced
      (receivePayload port bus payloadSize (announced.read port bus 4).2.1
        (announced.read port bus 4).2.2) := by
  have hevents : (announced.read port bus 4).2.2.line.events =
      announced.line.events ++ [.read 4 (announced.read port bus 4).2.1
        (announced.read port bus 4).1] :=
    dalRead_events port bus 4 announced.line
  have hlength : (announced.read port bus 4).2.1.length ≤ 4 :=
    dalRead_length_le port bus 4 announced.line
  have hrefuses := receivePayload_refuses hcbs hpeek hsize
  have hcases : _ ∨ _ := @receivePayload_cases _ _ port bus payloadSize
    (announced.read port bus 4).2.1 (announced.read port bus 4).2.2 cbs hcbs
  rcases hcases with ⟨a, hgaveUp⟩ |
    ⟨handle, pBuffer, bufferSize, a, hbuffer, hfilled⟩
  · rw [hgaveUp]
    constructor
    · simp
    · simp [HubWorld.read]
    · rw [hevents, List.drop_left, askedBytes_read]
      exact hsize
    · exact fun _ => rfl
  · rcases fillBuffer_stores port bus hlength hsize hbuffer
      with ⟨stores, hbounds, hfillStores⟩
    rcases fillBuffer_line_events port bus payloadSize
      (announced.read port bus 4).2.1 pBuffer bufferSize
      { (announced.read port bus 4).2.2 with app := a }
      with ⟨rest, hrest, hfillEvents⟩
    have hasked : askedBytes [rest] = payloadSize.toNat - 4 := by
      rw [hrest]
      exact UInt32.toNat_sub_of_le _ _ hsize
    have hfillBounds : forall s, s ∈ (fillBuffer port bus payloadSize
        (announced.read port bus 4).2.1 pBuffer bufferSize
        { (announced.read port bus 4).2.2 with app := a }).2.stores.drop
          announced.stores.length -> s.InBounds := by
      rw [hfillStores]
      change forall s, s ∈ (announced.stores ++ stores).drop _ -> _
      rw [List.drop_left]
      exact hbounds
    have hfillAsked : askedBytes ((fillBuffer port bus payloadSize
        (announced.read port bus 4).2.1 pBuffer bufferSize
        { (announced.read port bus 4).2.2 with app := a }).2.line.events.drop
          announced.line.events.length) ≤ payloadSize.toNat := by
      rw [hfillEvents, hevents, List.append_assoc, List.drop_left,
        askedBytes_append, askedBytes_read, hasked]
      change 4 + _ ≤ _
      lia
    rw [hfilled] at hrefuses ⊢
    simp only at hrefuses ⊢
    split at hrefuses
    next hshort =>
      rw [if_pos hshort]
      exact ⟨by simp, hfillBounds, hfillAsked, hrefuses⟩
    next hwhole =>
      rw [if_neg hwhole]
      exact ⟨by simp, hfillBounds, hfillAsked, hrefuses⟩

/-- Whatever happens behind the peek, the bytes asked for so far stay asked
for. -/
theorem receivePayload_asked {port : Port device} {bus : DalBus}
    {payloadSize : UInt32} {peekBuffer : List UInt8}
    {before world : HubWorld device app} {event : BusEvent}
    (hevents : world.line.events = before.line.events ++ [event]) :
    askedBytes [event] ≤ askedBytes
      ((receivePayload port bus payloadSize peekBuffer
        world).2.line.events.drop before.line.events.length) := by
  cases hcbs : world.gard.pAppLayerCbs with
  | none =>
      simp [receivePayload, hcbs, hevents]
  | some cbs =>
      rcases receivePayload_cases hcbs with ⟨a, hgaveUp⟩ |
        ⟨handle, pBuffer, bufferSize, a, -, hfilled⟩
      · rw [hgaveUp]
        simp [hevents]
      · rcases fillBuffer_line_events port bus payloadSize peekBuffer pBuffer
          bufferSize { world with app := a } with ⟨rest, -, hfillEvents⟩
        rw [hfilled]
        simp only
        split
        · rw [hfillEvents, hevents, List.append_assoc, List.drop_left,
            askedBytes_append]
          lia
        · change _ ≤ askedBytes (List.drop _ (fillBuffer port bus payloadSize
            peekBuffer pBuffer bufferSize { world with app := a }).2.line.events)
          rw [hfillEvents, hevents, List.append_assoc, List.drop_left,
            askedBytes_append]
          lia

/-- What is left to do behind a header that announces a payload. -/
theorem hubHandleAppLayerSendData_announced {port : Port device}
    {bus : DalBus} {world announced : HubWorld device app}
    {header : List UInt8} (hbus : world.gard.activeDalBus = some bus)
    (hread : world.read port bus 4 = (4, header, announced))
    (hid : header.getD 0 0 = HostRequestCommandId.gardAppLayerSend.code) :
    hubHandleAppLayerSendData port world =
      if headerPayloadSize header = 0 then (.returned false, announced)
      else if !matchesSize (announced.read port bus 4).1 4 then
        (.returned false, (announced.read port bus 4).2.2)
      else receivePayload port bus (headerPayloadSize header)
        (announced.read port bus 4).2.1 (announced.read port bus 4).2.2 := by
  have hmatch : matchesSize 4 4 = true := by decide
  simp only [hubHandleAppLayerSendData, hbus, hread, hmatch, hid]
  rfl

/-- Once a payload size is announced, the bounds are kept exactly when nothing
is to come, or the payload is at least as long as the peek and the callback
table is in place when it is needed. -/
theorem hubHandleAppLayerSendData_bounds_iff {port : Port device}
    {bus : DalBus} {world announced : HubWorld device app}
    {header : List UInt8} (hbus : world.gard.activeDalBus = some bus)
    (hread : world.read port bus 4 = (4, header, announced))
    (hid : header.getD 0 0 = HostRequestCommandId.gardAppLayerSend.code) :
    KeepsBounds port bus (headerPayloadSize header) announced
        (hubHandleAppLayerSendData port world) <->
      headerPayloadSize header = 0 ∨
        (4 ≤ (headerPayloadSize header).toNat ∧
          (world.gard.pAppLayerCbs.isSome = true ∨
            matchesSize (announced.read port bus 4).1 4 = false)) := by
  have hgard : announced.gard = world.gard := by
    have hworld : (world.read port bus 4).2.2.gard = announced.gard := by
      rw [hread]
    exact hworld.symm
  rw [hubHandleAppLayerSendData_announced hbus hread hid]
  by_cases hzero : headerPayloadSize header = 0
  · rw [if_pos hzero]
    exact iff_of_true ⟨by simp, by simp, by simp [askedBytes], fun _ => rfl⟩
      (Or.inl hzero)
  · rw [if_neg hzero]
    have hevents : (announced.read port bus 4).2.2.line.events =
        announced.line.events ++ [.read 4 (announced.read port bus 4).2.1
          (announced.read port bus 4).1] :=
      dalRead_events port bus 4 announced.line
    cases hmatch : matchesSize (announced.read port bus 4).1 4 with
    | false =>
        simp only [Bool.not_false, if_true, hzero, false_or, or_true, and_true]
        constructor
        · intro h
          have hasked := h.asked
          rw [hevents, List.drop_left, askedBytes_read] at hasked
          exact hasked
        · intro h
          constructor
          · simp
          · simp [HubWorld.read]
          · rw [hevents, List.drop_left, askedBytes_read]
            exact h
          · exact fun _ => rfl
    | true =>
        simp only [Bool.not_true, Bool.false_eq_true, if_false, hzero, false_or,
          Bool.true_eq_false, or_false]
        constructor
        · intro h
          have hasked := le_trans (receivePayload_asked hevents) h.asked
          rw [askedBytes_read] at hasked
          refine ⟨hasked, ?_⟩
          by_contra hnone
          have hcbs :
              (announced.read port bus 4).2.2.gard.pAppLayerCbs = none := by
            change announced.gard.pAppLayerCbs = none
            rw [hgard]
            simpa using hnone
          apply h.returned
          simp [receivePayload, hcbs]
        · intro h
          rcases Option.isSome_iff_exists.mp h.2 with ⟨cbs, hcbs⟩
          have hpeek : (announced.read port bus 4).1 = 4 :=
            (matchesSize_iff (dalRead_ret_bounds port bus announced.line 4)
              (by decide) rfl).mp hmatch
          exact receivePayload_keepsBounds (hgard ▸ hcbs) hpeek h.1

section Announced

/-- A GARD handle of an application, with the payload size already asked for. -/
def announcedWorld (cbs : Option (HubAppLayerCallbacks Unit))
    (header payload : List UInt8) : HubWorld ByteStream Unit :=
  ((startWorld (readyGard cbs) (streamLine (header ++ payload)) ()
    fun _ _ => 0).read streamPort { busType := .uart } 4).2.2

/-- Six bytes fit into a buffer of eight, and are refused for one of four. -/
theorem hubHandleAppLayerSendData_bounds_six :
    KeepsBounds streamPort { busType := .uart } (headerPayloadSize [7, 6, 0, 0])
      (announcedWorld (some (oneBufferCallbacks 8)) [7, 6, 0, 0]
        [7, 1, 2, 3, 4, 5])
      (hubHandleAppLayerSendData streamPort
        (startWorld (readyGard (some (oneBufferCallbacks 8)))
          (streamLine ([7, 6, 0, 0] ++ [7, 1, 2, 3, 4, 5])) () fun _ _ => 0)) ∧
    (hubHandleAppLayerSendData streamPort
      (startWorld (readyGard (some (oneBufferCallbacks 4)))
        (streamLine ([7, 6, 0, 0] ++ [7, 1, 2, 3, 4, 5])) () fun _ _ => 0)).1 =
      .returned false := by
  have hsix : 4 ≤ (headerPayloadSize [7, 6, 0, 0]).toNat := by
    decide
  have hbounds : KeepsBounds streamPort { busType := .uart }
      (headerPayloadSize [7, 6, 0, 0])
      (announcedWorld (some (oneBufferCallbacks 4)) [7, 6, 0, 0]
        [7, 1, 2, 3, 4, 5])
      (hubHandleAppLayerSendData streamPort
        (startWorld (readyGard (some (oneBufferCallbacks 4)))
          (streamLine ([7, 6, 0, 0] ++ [7, 1, 2, 3, 4, 5])) () fun _ _ => 0)) :=
    (hubHandleAppLayerSendData_bounds_iff rfl rfl rfl).mpr
      (Or.inr ⟨hsix, Or.inl rfl⟩)
  exact ⟨(hubHandleAppLayerSendData_bounds_iff rfl rfl rfl).mpr
    (Or.inr ⟨hsix, Or.inl rfl⟩),
    hbounds.refuses (.tooSmall rfl rfl rfl (by decide))⟩

/-- One byte is announced and the App Layer has a buffer for it: the peek alone
is copied past the end of the buffer.  Without a callback table the pointer to
it is followed all the same. -/
theorem hubHandleAppLayerSendData_overruns :
    ¬ KeepsBounds streamPort { busType := .uart }
      (headerPayloadSize [7, 1, 0, 0])
      (announcedWorld (some (oneBufferCallbacks 1)) [7, 1, 0, 0] [7, 1, 2, 3, 4])
      (hubHandleAppLayerSendData streamPort
        (startWorld (readyGard (some (oneBufferCallbacks 1)))
          (streamLine ([7, 1, 0, 0] ++ [7, 1, 2, 3, 4])) () fun _ _ => 0)) ∧
    ¬ KeepsBounds streamPort { busType := .uart }
      (headerPayloadSize [7, 4, 0, 0])
      (announcedWorld none [7, 4, 0, 0] [7, 1, 2, 3])
      (hubHandleAppLayerSendData streamPort
        (startWorld (readyGard none)
          (streamLine ([7, 4, 0, 0] ++ [7, 1, 2, 3])) () fun _ _ => 0)) := by
  constructor
  · intro h
    have hstore := h.stores
      { pBuffer := 0, bufferSize := 1, offset := 0, bytes := [7, 1, 2, 3] }
      (by decide +kernel)
    exact absurd hstore (by decide)
  · intro h
    exact h.returned (by decide +kernel)

end Announced

end Hub
end GardHub
