import GardHub.Hub.Validation

/-!
# Sending data

`hub_send_data_to_gard` announces data to the GARD, waits for the start signal,
and writes the data; the GARD then acknowledges them.  The start signal and the
acknowledgement have the same place in the response buffer, and the state
machine does not read the acknowledgement.
-/

namespace GardHub
namespace Hub

open Foundation
open Dal
open Interface

variable {device app : Type}

/-!
## The device's side

Both definitions follow the line through the transfers of the call, without
regard to what the call makes of them.
-/

/-- The GARD takes the command and answers it with an identifier and then
`byte`. -/
def AnswersSendData (port : Port device) (bus : DalBus) (buffer : List UInt8)
    (addr count : UInt32) (line : BusLine device) (byte : UInt8) : Prop :=
  let d := sendDataRequestData (some buffer) addr count
  (sent port bus d line).finished = true ∧
    (received port bus d (sent port bus d line).final).replies.drop 1 =
      [[byte]]

/-- The GARD answers the command with the start signal, takes all the data, and
then has the acknowledgement ready. -/
def AcknowledgesData (port : Port device) (bus : DalBus) (buffer : List UInt8)
    (addr count : UInt32) (line : BusLine device) : Prop :=
  let d := sendDataRequestData (some buffer) addr count
  let answer := received port bus d (sent port bus d line).final
  let nwrite := dalWrite port bus buffer count answer.final
  AnswersSendData port bus buffer addr count line sendDataByte ∧
    answer.replies.head? =
      some [HostRequestCommandId.sendDataToGardForOffset.code] ∧
    nwrite.1 = count.toNat ∧
    (transfer port bus (.read 2) nwrite.2).1 =
      some [HostRequestCommandId.sendDataToGardForOffset.code, ackByte]

instance (port : Port device) (bus : DalBus) (buffer : List UInt8)
    (addr count : UInt32) (line : BusLine device) (byte : UInt8) :
    Decidable (AnswersSendData port bus buffer addr count line byte) :=
  inferInstanceAs (Decidable (_ ∧ _))

instance (port : Port device) (bus : DalBus) (buffer : List UInt8)
    (addr count : UInt32) (line : BusLine device) :
    Decidable (AcknowledgesData port bus buffer addr count line) :=
  inferInstanceAs (Decidable (_ ∧ _ ∧ _ ∧ _))

/-- A GARD that acknowledges the data does not answer the command itself with
`ACK_BYTE`. -/
theorem not_answers_ack_of_acknowledges {port : Port device} {bus : DalBus}
    {buffer : List UInt8} {addr count : UInt32} {line : BusLine device}
    (h : AcknowledgesData port bus buffer addr count line) :
    ¬ AnswersSendData port bus buffer addr count line ackByte := by
  intro hack
  have hreplies := h.1.2.symm.trans hack.2
  simp at hreplies

/-!
## The call
-/

/-- The response to the command is the two bytes that were read. -/
theorem sendData_response {port : Port device} {bus : DalBus}
    {buffer : List UInt8} {addr count : UInt32} {line : BusLine device}
    (h : (received port bus (sendDataRequestData (some buffer) addr count)
      line).finished = true) :
    exists responseId byte,
      (received port bus (sendDataRequestData (some buffer) addr count)
        line).replies = [[responseId], [byte]] ∧
      response port bus (sendDataRequestData (some buffer) addr count) line =
        [responseId, byte] := by
  have hops : recvOps (sendDataRequestData (some buffer) addr count) =
      [.read 1, .read 1] := by
    simp [recvOps, sendDataRequestData, commandRequestData]
  simp only [response, receivedResponse, received, hops] at h ⊢
  cases hpart : transfer port bus (.read 1) line with
  | mk reply line' =>
      cases reply with
      | none =>
          rw [runScript_cons_of_none _ hpart] at h
          cases h
      | some first =>
          rw [runScript_cons_of_some _ hpart, runScript_singleton] at h ⊢
          cases hrest : transfer port bus (.read 1) line' with
          | mk reply line'' =>
              cases reply with
              | none =>
                  simp [hrest] at h
              | some second =>
                  rcases List.length_eq_one_iff.mp
                    (transfer_read_length (by decide) hpart)
                    with ⟨responseId, rfl⟩
                  rcases List.length_eq_one_iff.mp
                    (transfer_read_length (by decide) hrest) with ⟨byte, rfl⟩
                  exact ⟨responseId, byte, rfl, rfl⟩

theorem sendData_closingOps (buffer : List UInt8) (addr count : UInt32)
    (responseId byte : UInt8) :
    closingOps (sendDataRequestData (some buffer) addr count)
        [responseId, byte] =
      if sendDataByte = byte then [.write buffer count] else [] := by
  by_cases hstart : sendDataByte = byte
  · rw [if_pos hstart]
    simp only [closingOps, agreesToSend, sendDataRequestData,
      hubValidateResponseStartSignal, List.getD_cons_succ, List.getD_cons_zero,
      if_pos hstart, if_true]
  · rw [if_neg hstart]
    simp only [closingOps, agreesToSend, sendDataRequestData,
      hubValidateResponseStartSignal, List.getD_cons_succ, List.getD_cons_zero,
      if_neg hstart]
    rfl

/-- The call succeeds when the GARD answers the command with `ACK_BYTE`, in the
place of the start signal. -/
theorem hubSendDataToGard_success_iff {port : Port device}
    {gard : HubGardInfo app} {bus : DalBus} {buffer : List UInt8}
    {addr count : UInt32} {line : BusLine device}
    (hbus : gard.activeDalBus = some bus) :
    (hubSendDataToGard port gard (some buffer) addr count line).ret =
        .success <->
      AnswersSendData port bus buffer addr count line ackByte := by
  have hprep : Prepared (sendDataRequestData (some buffer) addr count) :=
    ⟨rfl, rfl⟩
  rw [hubSendDataToGard, executeCommand_success_iff (by decide)]
  constructor
  · intro h
    rcases h with ⟨hret, hack⟩
    rw [hubExecuteHubRequest_response port hprep hbus hret] at hack
    rw [(hubExecuteHubRequest_exchange port hprep hbus).1,
      exchange_finished_iff] at hret
    rcases sendData_response hret.2.1 with ⟨responseId, byte, hreplies, hresp⟩
    rw [hresp] at hack
    have hbyte : ackByte = byte := by
      simpa [ackReceived] using hack
    exact ⟨hret.1, by rw [hreplies, hbyte]; rfl⟩
  · intro h
    rcases h with ⟨hsent, hreplies⟩
    have hreceived : (received port bus
        (sendDataRequestData (some buffer) addr count)
        (sent port bus (sendDataRequestData (some buffer) addr count)
          line).final).finished = true := by
      have hlength := congrArg List.length hreplies
      rw [received, runScript_finished_iff, ← received]
      simpa [recvOps] using hlength
    rcases sendData_response hreceived with ⟨_, byte, hreplies', hresp⟩
    rw [hreplies'] at hreplies
    cases hreplies
    have hret : (hubExecuteHubRequest port gard
        (sendDataRequestData (some buffer) addr count) line).ret = true := by
      rw [(hubExecuteHubRequest_exchange port hprep hbus).1,
        exchange_finished_iff]
      refine ⟨hsent, hreceived, ?_⟩
      rw [closed, hresp, sendData_closingOps, if_neg (by decide)]
      rfl
    refine ⟨hret, ?_⟩
    rw [hubExecuteHubRequest_response port hprep hbus hret, hresp]
    rfl

theorem hubSendDataToGard_no_bus {port : Port device} {gard : HubGardInfo app}
    {buffer : List UInt8} {addr count : UInt32} {line : BusLine device}
    (hbus : gard.activeDalBus = none) :
    (hubSendDataToGard port gard (some buffer) addr count line).ret ≠
      .success := by
  rw [hubSendDataToGard, ne_eq, executeCommand_success_iff (by decide),
    hubExecuteHubRequest_no_bus port hbus]
  simp

/-- The GARD, if it can be reached, acknowledges the command instead of the
data. -/
def CommandAcknowledged (port : Port device) (gard : HubGardInfo app)
    (buffer : List UInt8) (addr count : UInt32) (line : BusLine device) :
    Prop :=
  match gard.activeDalBus with
  | none => False
  | some bus => AnswersSendData port bus buffer addr count line ackByte

/-- The GARD, if it can be reached, acknowledges the data. -/
def DataAcknowledged (port : Port device) (gard : HubGardInfo app)
    (buffer : List UInt8) (addr count : UInt32) (line : BusLine device) :
    Prop :=
  match gard.activeDalBus with
  | none => False
  | some bus => AcknowledgesData port bus buffer addr count line

/-- Success stands for acknowledged data exactly when the GARD acknowledges
neither the command nor the data. -/
theorem hubSendDataToGard_acknowledged_iff (port : Port device)
    (gard : HubGardInfo app) (buffer : List UInt8) (addr count : UInt32)
    (line : BusLine device) :
    ((hubSendDataToGard port gard (some buffer) addr count line).ret =
        .success <->
      DataAcknowledged port gard buffer addr count line) <->
      ¬ CommandAcknowledged port gard buffer addr count line ∧
        ¬ DataAcknowledged port gard buffer addr count line := by
  unfold DataAcknowledged CommandAcknowledged
  cases hbus : gard.activeDalBus with
  | none =>
      simp [hubSendDataToGard_no_bus hbus]
  | some bus =>
      rw [hubSendDataToGard_success_iff hbus]
      constructor
      · intro h
        have hdata : ¬ AcknowledgesData port bus buffer addr count line := by
          intro hdata
          exact not_answers_ack_of_acknowledges hdata (h.mpr hdata)
        exact ⟨fun hcommand => hdata (h.mp hcommand), hdata⟩
      · intro h
        exact iff_of_false h.1 h.2

/-- The GARD asks for the data, takes them and acknowledges them, and the call
fails; it acknowledges the command instead, no data are sent, and the call
succeeds. -/
theorem hubSendDataToGard_misjudges :
    ¬ ((hubSendDataToGard streamPort (readyGard none : HubGardInfo Unit)
        (some [0xAA, 0xBB]) 0x1000 2 (streamLine [0x01, 0x5D, 0x01, 0xAC])).ret =
          .success <->
      DataAcknowledged streamPort (readyGard none : HubGardInfo Unit)
        [0xAA, 0xBB] 0x1000 2 (streamLine [0x01, 0x5D, 0x01, 0xAC])) ∧
    ¬ ((hubSendDataToGard streamPort (readyGard none : HubGardInfo Unit)
        (some [0xAA, 0xBB]) 0x1000 2 (streamLine [0x01, 0xAC])).ret =
          .success <->
      DataAcknowledged streamPort (readyGard none : HubGardInfo Unit)
        [0xAA, 0xBB] 0x1000 2 (streamLine [0x01, 0xAC])) := by
  have hdata : AcknowledgesData streamPort { busType := .uart } [0xAA, 0xBB]
      0x1000 2 (streamLine [0x01, 0x5D, 0x01, 0xAC]) := by
    decide +kernel
  have hcommand : AnswersSendData streamPort { busType := .uart } [0xAA, 0xBB]
      0x1000 2 (streamLine [0x01, 0xAC]) ackByte := by
    decide +kernel
  constructor
  · rw [hubSendDataToGard_success_iff rfl]
    intro h
    exact not_answers_ack_of_acknowledges hdata (h.mpr hdata)
  · rw [hubSendDataToGard_success_iff rfl]
    intro h
    exact not_answers_ack_of_acknowledges (h.mp hcommand) hcommand

end Hub
end GardHub
