import GardHub.Foundation.FormattedText

/-!
# Commands of the application

The commands, return codes and records of `kt_app_cmds.h`, which the threads of
the application and its clients exchange.
-/

namespace GardHub
namespace KtApp

open Foundation

/-- `kt_app_cmd`.  A variable of this type can hold any number. -/
inductive KtAppCmd where
  | none
  | startPipeline
  | startFaceIdentification
  | generateFaceIdAsync
  | updateFaceProfile
  | listFaceProfiles
  | startQrMonitor
  | stopPipeline
  | stopFaceIdentification
  | deleteFaceIdAsync
  | stopQrMonitor
  | exit
  | other (code : UInt32)
deriving DecidableEq

/-- The number a command travels as. -/
def KtAppCmd.code : KtAppCmd -> UInt32
  | .none => 0
  | .startPipeline => 1
  | .startFaceIdentification => 2
  | .generateFaceIdAsync => 3
  | .updateFaceProfile => 4
  | .listFaceProfiles => 5
  | .startQrMonitor => 6
  | .stopPipeline => 7
  | .stopFaceIdentification => 8
  | .deleteFaceIdAsync => 9
  | .stopQrMonitor => 10
  | .exit => 11
  | .other code => code

/-- `KT_APP_SUCCESS` -/
@[simp] def ktAppSuccess : Int := 0

/-- `KT_APP_ERROR_GENERIC` -/
@[simp] def ktAppErrorGeneric : Int := -1

/-- `KT_APP_RET_CODE_PENDING` -/
@[simp] def ktAppRetCodePending : Int := 0xFFFFF

/-- `PATH_MAX` -/
def pathMax : Nat := 256

/-- `KT_APP_MAX_FACE_NAME_LENGTH` -/
def ktAppMaxFaceNameLength : Nat := 255

/-- `KT_APP_MAX_FACE_PROFILES_ON_DISK` -/
def ktAppMaxFaceProfilesOnDisk : Nat := 100

/-- The text in a `face_name` of `PATH_MAX` bytes, without the terminating
NUL. -/
structure FaceName where
  bytes : List UInt8
  no_nul : 0 ∉ bytes
  length_lt : bytes.length < pathMax
deriving DecidableEq

theorem zero_not_mem_cString (bytes : List UInt8) : 0 ∉ cString bytes := by
  intro h
  have hne := List.mem_takeWhile_imp h
  simp at hne

/-- The name that an array of characters holds. -/
def FaceName.ofBytes (bytes : List UInt8) : FaceName where
  bytes := (cString bytes).take (pathMax - 1)
  no_nul := fun h => zero_not_mem_cString bytes (List.mem_of_mem_take h)
  length_lt := by
    rw [List.length_take]
    exact lt_of_le_of_lt (min_le_left _ _) (by decide)

theorem FaceName.ext {name name' : FaceName} (h : name.bytes = name'.bytes) :
    name = name' := by
  cases name
  cases name'
  cases h
  rfl

/-- The name a generated face is given at first. -/
def defaultFaceName : FaceName :=
  FaceName.ofBytes [68, 101, 102, 97, 117, 108, 116]

/-- `kt_app_face_profile` -/
structure KtAppFaceProfile where
  faceId : UInt32
  faceName : FaceName
deriving DecidableEq

/-- `kt_app_request`.  The commands that have fields have a face identifier
first, and the update has a name behind it. -/
structure KtAppRequest where
  cmd : KtAppCmd
  faceId : UInt32
  faceName : List UInt8
deriving DecidableEq

/-- The name of an update request as it is kept: its array ends in a NUL. -/
def terminateFaceName (received : List UInt8) : List UInt8 :=
  received.set (ktAppMaxFaceNameLength - 1) 0

/-- The part of a response that depends on the command. -/
inductive KtAppResponsePayload where
  | unset
  | generateFaceIdAsync (faceId : UInt32) (opStatus : Int)
  | listFaceProfiles (faceProfiles : List KtAppFaceProfile)
deriving DecidableEq

/-- `kt_app_response` -/
structure KtAppResponse where
  cmd : KtAppCmd
  retCode : Int
  payload : KtAppResponsePayload
deriving DecidableEq

end KtApp
end GardHub
