import GardHub.Hub.Exchange

/-!
# HUB commands

The requests the HUB can make.  Every one of them fills in a descriptor, has it
executed, and then judges the response.  The descriptors differ in the command
identifier, the fields behind it and the sizes, so they are instances of one
definition; so are the functions around them.
-/

namespace GardHub
namespace Hub

open Foundation
open Dal
open Interface

variable {device app : Type}

/-!
## Descriptors
-/

/-- The descriptor of a command: the identifier is the validation data, and the
response structure starts out with the same identifier and zeros. -/
def commandRequestData (commandId : HostRequestCommandId)
    (fields : List UInt8) (requestSize responseSize : UInt32) :
    HubRequestResponseData :=
  { pRequest := commandId.code :: fields
    requestSize := requestSize
    pAppRequest := none
    appRequestSize := 0
    pValidationData := commandId.code :: fields
    validationDataSize := 1
    pSendData := none
    sendDataSize := 0
    pResponse := commandId.code :: List.replicate (responseSize.toNat - 1) 0
    responseSize := responseSize
    pAppResponse := none
    appResponseSize := 0
    shouldSendData := none
    state := .start }

/-- The descriptor of `hub_send_discover_cmd`. -/
def discoverRequestData : HubRequestResponseData :=
  commandRequestData .gardDiscovery [] 1 16

/-- The descriptor of `hub_send_pause_pipeline_cmd`. -/
def pausePipelineRequestData (cameraId : UInt8) : HubRequestResponseData :=
  commandRequestData .pausePipeline
    (pipelineRequest cameraId 0 endOfDataMarker) 8 2

/-- The descriptor of `hub_send_resume_pipeline_cmd`. -/
def resumePipelineRequestData (cameraId : UInt8) : HubRequestResponseData :=
  commandRequestData .resumePipeline
    (pipelineRequest cameraId 0 endOfDataMarker) 8 2

/-- The descriptor of `hub_write_gard_reg`. -/
def writeRegRequestData (regAddr value : UInt32) : HubRequestResponseData :=
  commandRequestData .writeRegValueToGardAtOffset
    (writeRegRequest regAddr value endOfDataMarker) 13 2

/-- The descriptor of `hub_read_gard_reg`. -/
def readRegRequestData (regAddr : UInt32) : HubRequestResponseData :=
  commandRequestData .readRegValueFromGardAtOffset
    (readRegRequest regAddr endOfDataMarker) 9 12

/-- `hub_validate_response_start_signal` -/
def hubValidateResponseStartSignal (response : List UInt8)
    (responseSize : UInt32) : Bool × UInt32 :=
  if sendDataByte = response.getD 1 0 then (true, 2) else (false, responseSize)

/-- The descriptor of `hub_send_data_to_gard`. -/
def sendDataRequestData (pBuffer : Option (List UInt8)) (addr count : UInt32) :
    HubRequestResponseData :=
  { commandRequestData .sendDataToGardForOffset
      (dataTransferRequest addr count 0 0) 13 2 with
    pSendData := pBuffer
    sendDataSize := count
    shouldSendData := some hubValidateResponseStartSignal }

/-- The descriptor of `hub_recv_data_from_gard`. -/
def recvDataRequestData (addr count : UInt32) : HubRequestResponseData :=
  commandRequestData .recvDataFromGardAtOffset
    (dataTransferRequest addr count 0 0) 13 16

/-- The descriptor of `hub_app_layer_request`.  Its response structure is not
initialised; `response` is what it happens to hold. -/
def appLayerRequestData (request : Option (List UInt8)) (requestSize : UInt32)
    (appResponse : Option (List UInt8)) (appResponseSize : UInt32)
    (response : List UInt8) : HubRequestResponseData :=
  { commandRequestData .hubAppLayerRequest (u24Bytes requestSize) 4 4 with
    pAppRequest := request
    appRequestSize := requestSize
    pResponse := response
    pAppResponse := appResponse
    appResponseSize := appResponseSize }

/-!
## Commands

The calls of the HUB that carry out an exchange, with their arguments.
-/

inductive HubCommand where
  | discover
  | pausePipeline (cameraId : UInt8)
  | resumePipeline (cameraId : UInt8)
  | writeReg (regAddr value : UInt32)
  | readReg (regAddr : UInt32)
  | sendData (pBuffer : Option (List UInt8)) (addr count : UInt32)
  | recvData (addr count : UInt32)
  | appLayerRequest (request : Option (List UInt8)) (requestSize : UInt32)
      (appResponse : Option (List UInt8)) (appResponseSize : UInt32)
      (response : List UInt8)

namespace HubCommand

/-- The descriptor a command is executed with. -/
def requestData : HubCommand -> HubRequestResponseData
  | .discover => discoverRequestData
  | .pausePipeline cameraId => pausePipelineRequestData cameraId
  | .resumePipeline cameraId => resumePipelineRequestData cameraId
  | .writeReg regAddr value => writeRegRequestData regAddr value
  | .readReg regAddr => readRegRequestData regAddr
  | .sendData pBuffer addr count => sendDataRequestData pBuffer addr count
  | .recvData addr count => recvDataRequestData addr count
  | .appLayerRequest request requestSize appResponse appResponseSize response =>
      appLayerRequestData request requestSize appResponse appResponseSize
        response

/-- The identifier a command travels under. -/
def commandId : HubCommand -> HostRequestCommandId
  | .discover => .gardDiscovery
  | .pausePipeline _ => .pausePipeline
  | .resumePipeline _ => .resumePipeline
  | .writeReg _ _ => .writeRegValueToGardAtOffset
  | .readReg _ => .readRegValueFromGardAtOffset
  | .sendData _ _ _ => .sendDataToGardForOffset
  | .recvData _ _ => .recvDataFromGardAtOffset
  | .appLayerRequest _ _ _ _ _ => .hubAppLayerRequest

theorem requestData_prepared (command : HubCommand) :
    Prepared command.requestData := by
  cases command <;> exact ⟨rfl, rfl⟩

@[simp] theorem requestData_validationDataSize (command : HubCommand) :
    command.requestData.validationDataSize = 1 := by
  cases command <;> rfl

/-- The validation data is the identifier of the command. -/
theorem requestData_validation (command : HubCommand) :
    command.requestData.pValidationData.take 1 = [command.commandId.code] := by
  cases command <;> rfl

end HubCommand

/-!
## Functions
-/

/-- What a call leaves behind: its return code, the response buffer, the line
and the GARD record. -/
structure CommandResult (device app : Type) where
  ret : HubRetCode
  pResponse : List UInt8
  line : BusLine device
  gard : HubGardInfo app

/-- Execute a request and confirm the response. -/
def executeCommand (port : Port device) (gard : HubGardInfo app)
    (d : HubRequestResponseData) (confirmed : List UInt8 -> Bool)
    (failure : HubRetCode) (line : BusLine device) :
    CommandResult device app :=
  let result := hubExecuteHubRequest port gard d line
  { ret :=
      if result.ret && confirmed result.data.pResponse then .success
      else failure
    pResponse := result.data.pResponse
    line := result.line
    gard := result.gard }

/-- The byte behind the identifier is `ACK_BYTE`. -/
def ackReceived (response : List UInt8) : Bool :=
  ackByte = response.getD 1 0

/-- `hub_send_discover_cmd` -/
def hubSendDiscoverCmd (port : Port device) (gard : HubGardInfo app)
    (line : BusLine device) : CommandResult device app :=
  executeCommand port gard discoverRequestData
    (fun response =>
      ((response.drop 2).take 10 == hubGardDiscoverSignature) &&
        (fieldValue response 12 4 == endOfDataMarker.toNat))
    .failureGardDiscover line

/-- `hub_send_pause_pipeline_cmd` -/
def hubSendPausePipelineCmd (port : Port device) (gard : HubGardInfo app)
    (cameraId : UInt8) (line : BusLine device) : CommandResult device app :=
  executeCommand port gard (pausePipelineRequestData cameraId) ackReceived
    .failureSendPausePipeline line

/-- `hub_send_resume_pipeline_cmd` -/
def hubSendResumePipelineCmd (port : Port device) (gard : HubGardInfo app)
    (cameraId : UInt8) (line : BusLine device) : CommandResult device app :=
  executeCommand port gard (resumePipelineRequestData cameraId) ackReceived
    .failureSendResumePipeline line

/-- `hub_write_gard_reg` -/
def hubWriteGardReg (port : Port device) (gard : HubGardInfo app)
    (regAddr value : UInt32) (line : BusLine device) :
    CommandResult device app :=
  executeCommand port gard (writeRegRequestData regAddr value) ackReceived
    .failureWriteReg line

/-- `hub_read_gard_reg`, with the new contents of `*p_value`. -/
def hubReadGardReg (port : Port device) (gard : HubGardInfo app)
    (regAddr pValue : UInt32) (line : BusLine device) :
    CommandResult device app × UInt32 :=
  let result := executeCommand port gard (readRegRequestData regAddr)
    (fun response => fieldValue response 8 4 == endOfDataMarker.toNat)
    .failureReadReg line
  (result,
    if result.ret = .success then
      UInt32.ofNat (fieldValue result.pResponse 4 4)
    else pValue)

/-- `hub_send_data_to_gard` -/
def hubSendDataToGard (port : Port device) (gard : HubGardInfo app)
    (pBuffer : Option (List UInt8)) (addr count : UInt32)
    (line : BusLine device) : CommandResult device app :=
  executeCommand port gard (sendDataRequestData pBuffer addr count) ackReceived
    .failureSendData line

/-- `hub_recv_data_from_gard`, with the new contents of the buffer.  The source
does not use the buffer. -/
def hubRecvDataFromGard (port : Port device) (gard : HubGardInfo app)
    (pBuffer : List UInt8) (addr count : UInt32) (line : BusLine device) :
    CommandResult device app × List UInt8 :=
  (executeCommand port gard (recvDataRequestData addr count)
    (fun response => fieldValue response 8 4 == endOfDataMarker.toNat)
    .failureRecvData line, pBuffer)

/-- `hub_app_layer_request`: whether it succeeded, and the exchange with the
buffers it filled. -/
def hubAppLayerRequest (port : Port device) (gard : HubGardInfo app)
    (request : Option (List UInt8)) (requestSize : UInt32)
    (appResponse : Option (List UInt8)) (appResponseSize : UInt32)
    (response : List UInt8) (line : BusLine device) :
    ExchangeResult device app :=
  hubExecuteHubRequest port gard
    (appLayerRequestData request requestSize appResponse appResponseSize
      response) line

/-- Whatever a call makes of the response, the line and the GARD record are
those of the exchange. -/
@[simp] theorem executeCommand_line (port : Port device)
    (gard : HubGardInfo app) (d : HubRequestResponseData)
    (confirmed : List UInt8 -> Bool) (failure : HubRetCode)
    (line : BusLine device) :
    (executeCommand port gard d confirmed failure line).line =
      (hubExecuteHubRequest port gard d line).line := rfl

theorem executeCommand_success_iff {port : Port device}
    {gard : HubGardInfo app} {d : HubRequestResponseData}
    {confirmed : List UInt8 -> Bool} {failure : HubRetCode}
    {line : BusLine device} (hfailure : failure ≠ .success) :
    (executeCommand port gard d confirmed failure line).ret = .success <->
      (hubExecuteHubRequest port gard d line).ret = true ∧
        confirmed (hubExecuteHubRequest port gard d line).data.pResponse =
          true := by
  simp only [executeCommand]
  split
  · rename_i h
    simpa using h
  · rename_i h
    simpa [hfailure] using h

end Hub
end GardHub
