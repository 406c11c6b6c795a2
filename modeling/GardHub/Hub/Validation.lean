import GardHub.Hub.Calls

/-!
# Validation of the response

The identifier in front of a response is to be compared with the validation
data, so that a message of the GARD that crosses a request is not taken for the
response.  The state machine compares the request with the validation data
instead; which message is accepted is therefore up to the GARD.
-/

namespace GardHub
namespace Hub

open Foundation
open Dal
open Interface

variable {device app : Type}

/-- A read below 2^31 that succeeds replies with as many bytes as it was asked
for. -/
theorem transfer_read_length {port : Port device} {bus : DalBus}
    {count : UInt32} {line line' : BusLine device} {bytes : List UInt8}
    (hcount : count.toNat < 2 ^ 31)
    (h : transfer port bus (.read count) line = (some bytes, line')) :
    bytes.length = count.toNat := by
  simp only [transfer, Prod.mk.injEq, Option.ite_none_right_eq_some,
    Option.some.injEq] at h
  rcases h with ⟨⟨hfull, rfl⟩, rfl⟩
  exact dalRead_length hcount (by simpa [transferred] using hfull)

/-- Once the response of a command is in, its first byte is the one that the
first read was given. -/
theorem response_take_one {port : Port device} {bus : DalBus}
    {command : HubCommand} {line : BusLine device}
    (h : (received port bus command.requestData line).finished = true) :
    exists byte,
      (received port bus command.requestData line).replies.head? =
        some [byte] ∧
      (response port bus command.requestData line).take 1 = [byte] := by
  simp only [response, receivedResponse, received, recvOps,
    HubCommand.requestData_validationDataSize] at h ⊢
  cases hpart : transfer port bus (.read 1) line with
  | mk reply line' =>
      cases reply with
      | none =>
          rw [runScript_cons_of_none _ hpart] at h
          cases h
      | some bytes =>
          have hlength : bytes.length = 1 :=
            transfer_read_length (by decide) hpart
          rcases List.length_eq_one_iff.mp hlength with ⟨byte, rfl⟩
          refine ⟨byte, ?_, ?_⟩
          · rw [runScript_cons_of_some _ hpart]
            rfl
          · rw [runScript_cons_of_some _ hpart]
            simp only [List.getD_cons_zero, overwrite_zero]
            rw [show (1 : UInt32).toNat = 1 from rfl, take_overwrite _ (by simp)]
            rfl

/-- The exchange of a command is cut short, or the byte the GARD delivers for
the validation is the identifier of the command. -/
def AnswersItself (port : Port device) (gard : HubGardInfo app)
    (command : HubCommand) (line : BusLine device) : Prop :=
  match gard.activeDalBus with
  | none => True
  | some bus =>
      (exchange port bus command.requestData line).finished = false ∨
        (received port bus command.requestData
          (sent port bus command.requestData line).final).replies.head? =
            some [command.commandId.code]

/-- What is accepted as the response carries the identifier of the command
exactly when the GARD put that identifier first. -/
theorem response_validated_iff (port : Port device) (gard : HubGardInfo app)
    (command : HubCommand) (line : BusLine device) :
    ((hubExecuteHubRequest port gard command.requestData line).ret = true ->
      (hubExecuteHubRequest port gard command.requestData
        line).data.pResponse.take
          command.requestData.validationDataSize.toNat =
        command.requestData.pValidationData.take
          command.requestData.validationDataSize.toNat) <->
      AnswersItself port gard command line := by
  unfold AnswersItself
  rw [HubCommand.requestData_validationDataSize,
    show (1 : UInt32).toNat = 1 from rfl, command.requestData_validation]
  cases hbus : gard.activeDalBus with
  | none =>
      simp [hubExecuteHubRequest_no_bus port hbus]
  | some bus =>
      have hprep := command.requestData_prepared
      have hret :
          (hubExecuteHubRequest port gard command.requestData line).ret =
            (exchange port bus command.requestData line).finished :=
        (hubExecuteHubRequest_exchange port hprep hbus).1
      cases hexchange :
          (exchange port bus command.requestData line).finished with
      | false =>
          simp [hret, hexchange]
      | true =>
          rw [hexchange] at hret
          rcases (exchange_finished_iff port bus _ _).mp hexchange
            with ⟨-, hreceived, -⟩
          rcases response_take_one hreceived with ⟨byte, hhead, hbyte⟩
          rw [hubExecuteHubRequest_response port hprep hbus hret, hbyte]
          simp [hret, hexchange, hhead]

/-- The GARD starts a transfer of its own while the HUB reads a register.  The
originator sync it sends is handed to the caller as the response. -/
theorem response_not_validated :
    ¬ ((hubExecuteHubRequest streamPort (readyGard none : HubGardInfo Unit)
        (HubCommand.readReg 0x10).requestData
        (streamLine [0x0C, 0xCD, 0x07, 5, 0, 0, 7, 1, 2, 3, 4, 5])).ret = true ->
      (hubExecuteHubRequest streamPort (readyGard none : HubGardInfo Unit)
        (HubCommand.readReg 0x10).requestData
        (streamLine [0x0C, 0xCD, 0x07, 5, 0, 0, 7, 1, 2, 3, 4, 5])
          ).data.pResponse.take
          (HubCommand.readReg 0x10).requestData.validationDataSize.toNat =
        (HubCommand.readReg 0x10).requestData.pValidationData.take
          (HubCommand.readReg 0x10).requestData.validationDataSize.toNat) := by
  decide +kernel

end Hub
end GardHub
