import GardHub.Hub.Gard

/-!
# The request-response state machine

`hub_execute_hub_request` carries out one exchange between the HUB and the
GARD.  It is a loop around a `switch` on the state of the request descriptor.
A case either returns, falls through to the next case, breaks with
`stay_in_loop` set, or breaks without it; each case is a function here and a
fall-through is a call of the next one.
-/

namespace GardHub
namespace Hub

open Foundation
open Dal

/-- `hub_request_sm` -/
inductive HubRequestSm where
  | start
  | sendRequest
  | sendAppRequest
  | recvPartialResponse
  | validatePartialResponse
  | recvResponse
  | recvAppResponse
  | sendData
  | recvOptionalAck
  | complete
  | serviceGardRequest
deriving DecidableEq

/-- `hub_request_response_data`.  Optional buffers are those whose pointer the
state machine compares with `NULL`.  `should_send_data` looks at the response
buffer and may set another response size. -/
structure HubRequestResponseData where
  pRequest : List UInt8
  requestSize : UInt32
  pAppRequest : Option (List UInt8)
  appRequestSize : UInt32
  pValidationData : List UInt8
  validationDataSize : UInt32
  pSendData : Option (List UInt8)
  sendDataSize : UInt32
  pResponse : List UInt8
  responseSize : UInt32
  pAppResponse : Option (List UInt8)
  appResponseSize : UInt32
  shouldSendData : Option (List UInt8 -> UInt32 -> Bool × UInt32)
  state : HubRequestSm

variable {device app : Type}

/-- What one exchange changes: the descriptor, the line, and the flag
`command_execution` of the GARD. -/
structure RequestRun (device : Type) where
  data : HubRequestResponseData
  line : BusLine device
  commandExecution : Bool

/-- How one pass of the loop ends. -/
inductive RequestPass (device : Type) where
  /-- A `return` inside the loop. -/
  | done (ret : Bool) (run : RequestRun device)
  /-- A `break` with `stay_in_loop` set. -/
  | again (run : RequestRun device)
  /-- A `break` that leaves the loop. -/
  | leave (run : RequestRun device)

/-- The comparison `nwrite != size` (or `nread != size`) does not hold: the
returned value, converted to `uint32_t`, is the size asked for. -/
def transferred (ret : Int) (size : UInt32) : Bool :=
  toUInt32 ret == size.toNat

/-!
## The cases
-/

section Cases

variable (port : Port device) (bus : DalBus)

/-- `HUB_REQUEST__SM_RECV_OPTIONAL_ACK` -/
def recvOptionalAck (run : RequestRun device) : RequestPass device :=
  .leave run

/-- The outcome of `should_send_data`, with the response size behind the call;
a descriptor without the callback sends its data. -/
def HubRequestResponseData.sendDataAnswer (d : HubRequestResponseData) :
    Bool × UInt32 :=
  match d.shouldSendData with
  | none => (true, d.responseSize)
  | some shouldSend => shouldSend d.pResponse d.responseSize

/-- `HUB_REQUEST__SM_SEND_DATA` -/
def sendData (run : RequestRun device) : RequestPass device :=
  let answer := run.data.sendDataAnswer
  let d := { run.data with responseSize := answer.2 }
  if !answer.1 then
    .again { run with data := { d with state := .complete } }
  else
    let nwrite := dalWrite port bus (d.pSendData.getD []) d.sendDataSize run.line
    if !transferred nwrite.1 d.sendDataSize then
      .done false { run with data := d, line := nwrite.2 }
    else
      recvOptionalAck
        { run with
            data := { d with state := .recvOptionalAck }
            line := nwrite.2 }

/-- `HUB_REQUEST__SM_RECV_APP_RESPONSE` -/
def recvAppResponse (run : RequestRun device) : RequestPass device :=
  let d := run.data
  let nread := dalRead port bus d.appResponseSize run.line
  let d := { d with
    pAppResponse := d.pAppResponse.map fun buffer =>
      overwrite buffer 0 nread.2.1 }
  let run := { run with data := d, line := nread.2.2 }
  if !transferred nread.1 d.appResponseSize then
    .done false run
  else
    .again { run with data := { d with state := .complete } }

/-- `HUB_REQUEST__SM_RECV_RESPONSE` -/
def recvResponse (run : RequestRun device) : RequestPass device :=
  let d := run.data
  let rest := d.responseSize - d.validationDataSize
  let nread := dalRead port bus rest run.line
  let d := { d with
    pResponse := overwrite d.pResponse d.validationDataSize.toNat nread.2.1 }
  let run := { run with data := d, line := nread.2.2 }
  if !transferred nread.1 rest then
    .done false run
  else if d.pSendData.isSome then
    .again { run with data := { d with state := .sendData } }
  else if d.pAppResponse.isSome then
    .again { run with data := { d with state := .recvAppResponse } }
  else
    .again { run with data := { d with state := .complete } }

/-- `HUB_REQUEST__SM_VALIDATE_PARTIAL_RESPONSE`.  The source compares the
validation data with the request buffer. -/
def validatePartialResponse (run : RequestRun device) : RequestPass device :=
  let d := run.data
  if d.pRequest.take d.validationDataSize.toNat ≠
      d.pValidationData.take d.validationDataSize.toNat then
    .again { run with data := { d with state := .serviceGardRequest } }
  else
    recvResponse port bus { run with data := { d with state := .recvResponse } }

/-- `HUB_REQUEST__SM_RECV_PARTIAL_RESPONSE` -/
def recvPartialResponse (run : RequestRun device) : RequestPass device :=
  let d := run.data
  let nread := dalRead port bus d.validationDataSize run.line
  let d := { d with pResponse := overwrite d.pResponse 0 nread.2.1 }
  let run := { run with data := d, line := nread.2.2 }
  if !transferred nread.1 d.validationDataSize then
    .done false run
  else
    validatePartialResponse port bus
      { run with data := { d with state := .validatePartialResponse } }

/-- `HUB_REQUEST__SM_SEND_APP_REQUEST` -/
def sendAppRequest (run : RequestRun device) : RequestPass device :=
  let d := run.data
  let nwrite :=
    dalWrite port bus (d.pAppRequest.getD []) d.appRequestSize run.line
  let run := { run with line := nwrite.2 }
  if !transferred nwrite.1 d.appRequestSize then
    .done false run
  else
    recvPartialResponse port bus
      { run with data := { d with state := .recvPartialResponse } }

/-- `HUB_REQUEST__SM_START` and `HUB_REQUEST__SM_SEND_REQUEST` -/
def sendRequest (run : RequestRun device) : RequestPass device :=
  let d := run.data
  let nwrite := dalWrite port bus d.pRequest d.requestSize run.line
  let run := { run with line := nwrite.2 }
  if !transferred nwrite.1 d.requestSize then
    .done false run
  else
    -- Command execution has started.
    let run := { run with commandExecution := true }
    if d.pAppRequest.isNone then
      .again { run with data := { d with state := .recvPartialResponse } }
    else
      sendAppRequest port bus run

/-- One pass of the loop: the `switch` on the state. -/
def requestPass (run : RequestRun device) : RequestPass device :=
  match run.data.state with
  | .start => sendRequest port bus run
  | .sendRequest => sendRequest port bus run
  | .sendAppRequest => sendAppRequest port bus run
  | .recvPartialResponse => recvPartialResponse port bus run
  | .validatePartialResponse => validatePartialResponse port bus run
  | .recvResponse => recvResponse port bus run
  | .recvAppResponse => recvAppResponse port bus run
  | .sendData => sendData port bus run
  | .recvOptionalAck => recvOptionalAck run
  | .complete => .done true { run with commandExecution := false }
  | .serviceGardRequest => .leave run

end Cases

end Hub
end GardHub
