import GardHub.Foundation.Memory

/-!
# The GARD-HUB wire interface

The identifiers, markers and packed records that the HUB and the GARD exchange.
Records are packed, so a record is the concatenation of its fields, and all
fields are little-endian.
-/

namespace GardHub
namespace Interface

open Foundation

/-- Command identifiers, as placed in the first byte of a message. -/
inductive HostRequestCommandId where
  | gardDiscovery
  | sendDataToGardForOffset
  | recvDataFromGardAtOffset
  | readRegValueFromGardAtOffset
  | writeRegValueToGardAtOffset
  | gardAppLayerSend
  | hubAppLayerRequest
  | gardAppLayerRequest
  | originatorSync
  | pausePipeline
  | resumePipeline
deriving DecidableEq

/-- The byte a command identifier travels as. -/
@[simp] def HostRequestCommandId.code : HostRequestCommandId -> UInt8
  | .gardDiscovery => 0x00
  | .sendDataToGardForOffset => 0x01
  | .recvDataFromGardAtOffset => 0x02
  | .readRegValueFromGardAtOffset => 0x03
  | .writeRegValueToGardAtOffset => 0x04
  | .gardAppLayerSend => 0x07
  | .hubAppLayerRequest => 0x08
  | .gardAppLayerRequest => 0x0B
  | .originatorSync => 0x0C
  | .pausePipeline => 0x20
  | .resumePipeline => 0x22

/-- Identifiers of the data the App Module sends to the App. -/
inductive AppLayerSendCommand where
  | hmiMetadata
  | qrCodeImage
deriving DecidableEq

/-- The byte an App Layer identifier travels as. -/
@[simp] def AppLayerSendCommand.code : AppLayerSendCommand -> UInt8
  | .hmiMetadata => 0x07
  | .qrCodeImage => 0x0A

/-- `END_OF_DATA_MARKER` -/
@[simp] def endOfDataMarker : UInt32 := 0xE0DBE0DB

/-- `ACK_BYTE` -/
@[simp] def ackByte : UInt8 := 0xAC

/-- `SEND_DATA` -/
@[simp] def sendDataByte : UInt8 := 0x5D

/-- `ORIGINATOR_ID__GARD` -/
@[simp] def originatorIdGard : UInt8 := 0xCD

/-- `HUB_GARD_DISCOVER_SIGNATURE` with its terminating NUL. -/
def hubGardDiscoverSignature : List UInt8 :=
  [0x49, 0x20, 0x4D, 0x20, 0x47, 0x41, 0x52, 0x44, 0x33, 0x00]

/-- A `uint32_t` field. -/
def u32Bytes (value : UInt32) : List UInt8 :=
  leBytes 4 value.toNat

/-- A `uint16_t` field. -/
def u16Bytes (value : UInt16) : List UInt8 :=
  leBytes 2 value.toNat

/-- A 24-bit size field: the low three bytes of a `uint32_t`. -/
def u24Bytes (value : UInt32) : List UInt8 :=
  leBytes 3 value.toNat

@[simp] theorem u32Bytes_length (value : UInt32) :
    (u32Bytes value).length = 4 := by
  simp [u32Bytes]

@[simp] theorem u16Bytes_length (value : UInt16) :
    (u16Bytes value).length = 2 := by
  simp [u16Bytes]

@[simp] theorem u24Bytes_length (value : UInt32) :
    (u24Bytes value).length = 3 := by
  simp [u24Bytes]

/-!
## Requests
-/

/-- `_send_data_to_gard_for_offset_request.cmd` and
`_recv_data_from_gard_at_offset_request`, which have the same fields. -/
def dataTransferRequest (offsetAddress dataSize : UInt32)
    (controlCode mtuSize : UInt16) : List UInt8 :=
  u32Bytes offsetAddress ++ u32Bytes dataSize ++ u16Bytes controlCode ++
    u16Bytes mtuSize

/-- `_read_reg_value_from_gard_at_offset_request` -/
def readRegRequest (offsetAddress marker : UInt32) : List UInt8 :=
  u32Bytes offsetAddress ++ u32Bytes marker

/-- `_write_reg_value_to_gard_at_offset_request` -/
def writeRegRequest (offsetAddress data marker : UInt32) : List UInt8 :=
  u32Bytes offsetAddress ++ u32Bytes data ++ u32Bytes marker

/-- `_pause_pipeline_request` and `_resume_pipeline_request`, which
have the same fields. -/
def pipelineRequest (cameraId : UInt8) (rsvd1 : UInt16) (marker : UInt32) :
    List UInt8 :=
  cameraId :: (u16Bytes rsvd1 ++ u32Bytes marker)

end Interface
end GardHub
