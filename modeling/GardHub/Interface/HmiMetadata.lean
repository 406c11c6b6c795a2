import GardHub.Foundation.MachineInt
import GardHub.Foundation.Memory

/-!
# The HMI metadata layout

Where the handler finds the fields of a metadata message in its staging buffer.
The message is the 3-byte metadata size, the packed header, and the records of
the tracked users one after another, optionally followed by the record of the
ideal user.  Offsets count from the first byte of the metadata size.
-/

namespace GardHub
namespace Interface

open Foundation

/-- `APP_HMI_METADATA_RESPONSE_TYPE` -/
@[simp] def appHmiMetadataResponseType : UInt8 := 1

/-- `APP_HMI_METADATA_VERSION` -/
@[simp] def appHmiMetadataVersion : UInt8 := 8

/-- `app_hmi_metadata_output_data_type` -/
inductive AppHmiMetadataOutputDataType where
  | userOutputData
  | idealUserOutputData
  | idealHandOutputData
deriving DecidableEq

/-- The byte a record type travels as. -/
@[simp] def AppHmiMetadataOutputDataType.code :
    AppHmiMetadataOutputDataType -> UInt8
  | .userOutputData => 0
  | .idealUserOutputData => 1
  | .idealHandOutputData => 2

/-!
## Header
-/

def responseType (rx : Memory) : UInt8 := rx 3

def responseVersion (rx : Memory) : UInt8 := rx 4

def nbUsers (rx : Memory) : Int := toInt32 (rx.load32 31)

/-!
## Tracked users

A record has 76 bytes: the type, padding, and 18 integers of which the first is
the packed id and the fourth to seventh are the box of the person.
-/

/-- The offset of `tracked_users[i]`. -/
def trackedUser (i : Int) : Int := 35 + 76 * i

def userDataType (rx : Memory) (i : Int) : UInt8 := rx (trackedUser i)

def userDataId (rx : Memory) (i : Int) : Nat := rx.load32 (trackedUser i + 4)

/-- Bits 16 to 19 of the id. -/
def faceIdOfTrackedUser (rx : Memory) (i : Int) : Nat :=
  userDataId rx i / 2 ^ 16 % 16

/-! The coordinates of the box are copied as they are. -/

def personLeft (rx : Memory) (i : Int) : List UInt8 :=
  rx.load (trackedUser i + 16) 4

def personTop (rx : Memory) (i : Int) : List UInt8 :=
  rx.load (trackedUser i + 20) 4

def personRight (rx : Memory) (i : Int) : List UInt8 :=
  rx.load (trackedUser i + 24) 4

def personBottom (rx : Memory) (i : Int) : List UInt8 :=
  rx.load (trackedUser i + 28) 4

/-!
## The ideal user
-/

/-- The low 8 bits of the index of the ideal user, whose record would start at
an offset. -/
def idealUserIndex (rx : Memory) (offset : Int) : Nat :=
  (rx (offset + 4)).toNat

/-- Only the third byte of the id holds bits of the face id. -/
theorem faceIdOfTrackedUser_eq (rx : Memory) (i : Int) :
    faceIdOfTrackedUser rx i = (rx (trackedUser i + 6)).toNat % 16 := by
  have h0 := (rx (trackedUser i + 4)).toNat_lt
  have h1 := (rx (trackedUser i + 5)).toNat_lt
  have hload : userDataId rx i =
      (rx (trackedUser i + 4)).toNat + 256 *
        ((rx (trackedUser i + 5)).toNat + 256 *
          ((rx (trackedUser i + 6)).toNat + 256 *
            (rx (trackedUser i + 7)).toNat)) := by
    simp [userDataId, Memory.load32, Memory.load, List.range_succ, add_assoc]
  rw [faceIdOfTrackedUser, hload]
  lia

theorem faceIdOfTrackedUser_lt (rx : Memory) (i : Int) :
    faceIdOfTrackedUser rx i < 16 :=
  Nat.mod_lt _ (by decide)

end Interface
end GardHub
