import GardHub.Hub.FrameStream

/-!
# Rejected frames

What is left on the line when the App Layer cannot accept a frame.  The HUB has
taken the peek off the line by then, and nothing takes the rest of the payload,
so the next check reads from the middle of it.
-/

namespace GardHub
namespace Hub

open Foundation
open Dal
open Interface

variable {app : Type}

/-- A payload cannot be accepted: a callback is not set, the App Layer refuses a
buffer, or the buffer is too small. -/
def CannotAccept (pAppLayerCbs : Option (HubAppLayerCallbacks app)) (a : app)
    (payload : List UInt8) : Prop :=
  match pAppLayerCbs with
  | none => True
  | some cbs =>
      match cbs.getBufferForGardSendData, cbs.handleGardSend with
      | some getBuffer, some _ =>
          match (getBuffer a (payload.take 4)).1 with
          | none => True
          | some (_, bufferSize) => bufferSize.toNat < payload.length
      | _, _ => True

/-- After a rejection only the first four bytes of the payload are gone. -/
theorem receivePayload_rejected {port : Port device} {bus : DalBus}
    {world : HubWorld device app} {cbs : HubAppLayerCallbacks app}
    (hcbs : world.gard.pAppLayerCbs = some cbs) {payload : List UInt8}
    {payloadSize : UInt32} (hsize : payloadSize.toNat = payload.length)
    (hreject : CannotAccept (some cbs) world.app payload) :
    exists a, receivePayload port bus payloadSize (payload.take 4) world =
      (.returned false, { world with app := a }) := by
  unfold CannotAccept at hreject
  unfold receivePayload
  rw [hcbs]
  simp only at hreject ⊢
  split
  · rename_i getBuffer handle hget hhandle
    simp only [hget, hhandle] at hreject
    split
    · exact ⟨_, rfl⟩
    · rename_i pBuffer bufferSize hanswer
      simp only [hanswer] at hreject
      rw [if_pos (by rw [UInt32.lt_iff_toNat_lt]; lia)]
      exact ⟨_, rfl⟩
  · exact ⟨world.app, rfl⟩

/-- The HUB has got over a rejected frame: the check returned `false`, all of
the frame is off the line, and once callbacks are in place that serve the frame
behind it, the next check delivers that frame. -/
def Recovers (result : CallOutcome × HubWorld ByteStream app)
    (second back : List UInt8) : Prop :=
  result.1 = .returned false ∧
    result.2.line.state.incoming = frameBytes second ++ back ∧
    forall cbs limit, Serves cbs limit -> WellFormedPayload limit second ->
      exists ret next,
        hubCheckAndExecuteGardCommand streamPort
            (hubSetAppLayerCallbacks (some cbs) result.2).2 =
          (.returned ret, next) ∧
        Took (hubSetAppLayerCallbacks (some cbs) result.2).2 next back
          originatorSyncResponse
          [{ size := UInt32.ofNat second.length, payload := second }]

/-- The HUB recovers from a rejected frame exactly when the peek took all of its
payload and the callback table is there to be looked at. -/
theorem hubCheckAndExecuteGardCommand_recovers_iff {bus : DalBus}
    {world : HubWorld ByteStream app} (hbus : bus.busType = .uart)
    (hactive : world.gard.activeDalBus = some bus)
    (hidle : world.gard.commandExecution = false)
    {payload second back : List UInt8} (hlow : 4 ≤ payload.length)
    (hhigh : payload.length < 2 ^ 24)
    (hreject : CannotAccept world.gard.pAppLayerCbs world.app payload)
    (hline : world.line.state.incoming =
      frameBytes payload ++ (frameBytes second ++ back)) :
    Recovers (hubCheckAndExecuteGardCommand streamPort world) second back <->
      payload.length = 4 ∧ world.gard.pAppLayerCbs.isSome = true := by
  rcases hubCheckAndExecuteGardCommand_peek hbus hactive hidle hlow hhigh hline
    with ⟨peeked, hcheck, htookPeek, happ⟩
  have hcbsPeek : peeked.gard.pAppLayerCbs = world.gard.pAppLayerCbs := by
    rw [htookPeek.gard]
    rfl
  cases hcbs : world.gard.pAppLayerCbs with
  | none =>
      have hcrash : (hubCheckAndExecuteGardCommand streamPort world).1 =
          .nullDereference := by
        rw [hcheck]
        unfold receivePayload
        simp only [hcbsPeek, hcbs]
        rfl
      refine iff_of_false ?_ (by simp)
      intro h
      have hreturned := h.1
      rw [hcrash] at hreturned
      cases hreturned
  | some cbs =>
      rw [hcbs] at hcbsPeek hreject
      rw [← happ] at hreject
      rcases receivePayload_rejected hcbsPeek (toNat_payloadSize hhigh) hreject
        with ⟨a, hreceive⟩
      rw [hcheck, hreceive]
      constructor
      · intro h
        have hleft : payload.drop 4 ++ (frameBytes second ++ back) =
            frameBytes second ++ back :=
          htookPeek.incoming.symm.trans h.2.1
        have hlength := congrArg List.length hleft
        rw [List.length_append, List.length_drop] at hlength
        exact ⟨by lia, rfl⟩
      · intro h
        have hgone : peeked.line.state.incoming = frameBytes second ++ back := by
          rw [htookPeek.incoming, List.drop_of_length_le (by lia)]
          rfl
        refine ⟨rfl, hgone, ?_⟩
        intro cbs' limit hserves hsecond
        have hactive' : (hubSetAppLayerCallbacks (some cbs')
            (HubWorld.setCommandExecution { peeked with app := a }
              false)).2.gard.activeDalBus = some bus := by
          change peeked.gard.activeDalBus = some bus
          rw [htookPeek.gard]
          exact hactive
        rcases hubCheckAndExecuteGardCommand_frame hbus hactive' rfl hserves rfl
          hsecond hgone with ⟨ret, next, hcheck, htook, -⟩
        exact ⟨ret, next, hcheck, htook⟩

/-- Frames of four bytes are small enough to be rejected without a trace. -/
theorem hubCheckAndExecuteGardCommand_recovers_four :
    Recovers
      (hubCheckAndExecuteGardCommand streamPort
        (startWorld (readyGard (some (oneBufferCallbacks 2)))
          (streamLine
            (frameBytes [7, 1, 2, 3] ++ (frameBytes [7, 4, 5, 6] ++ [])))
          () fun _ _ => 0))
      [7, 4, 5, 6] [] := by
  have hreject : CannotAccept (some (oneBufferCallbacks 2)) () [7, 1, 2, 3] := by
    change (2 : UInt32).toNat < 4
    decide
  refine (hubCheckAndExecuteGardCommand_recovers_iff rfl rfl rfl ?_ ?_ hreject
    rfl).mpr ⟨rfl, rfl⟩
  · decide
  · decide

/-- A frame that is too large for the buffer carries a whole frame inside its
payload.  What the next check finds on the line is that inner frame. -/
theorem hubCheckAndExecuteGardCommand_loses_frame :
    CannotAccept (some (oneBufferCallbacks 8)) ()
      [7, 0, 0, 0, 0x0C, 0xCD, 7, 4, 0, 0, 7, 0xBA, 0xAD, 0] ∧
    ¬ Recovers
      (hubCheckAndExecuteGardCommand streamPort
        (startWorld (readyGard (some (oneBufferCallbacks 8)))
          (streamLine (frameBytes
              [7, 0, 0, 0, 0x0C, 0xCD, 7, 4, 0, 0, 7, 0xBA, 0xAD, 0] ++
            (frameBytes [7, 4, 5, 6] ++ []))) () fun _ _ => 0))
      [7, 4, 5, 6] [] ∧
    (runActions (performCall streamPort)
      (startWorld (readyGard (some (oneBufferCallbacks 8)))
        (streamLine (frameBytes
            [7, 0, 0, 0, 0x0C, 0xCD, 7, 4, 0, 0, 7, 0xBA, 0xAD, 0] ++
          (frameBytes [7, 4, 5, 6] ++ []))) () fun _ _ => 0)
      [.checkAndExecuteGardCommand, .checkAndExecuteGardCommand]).map
        HubWorld.deliveries =
      some [{ size := 4, payload := [7, 0xBA, 0xAD, 0] }] := by
  refine ⟨show (8 : UInt32).toNat < 14 by decide, ?_, by decide +kernel⟩
  intro h
  have hleft := h.2.1
  revert hleft
  decide +kernel

end Hub
end GardHub
