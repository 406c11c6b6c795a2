import GardHub.Foundation.Delimited
import GardHub.Foundation.Loop
import GardHub.Foundation.Utf8

/-!
# The video feed

A generator takes one frame after another from a camera, until it is told to
stop, the camera is gone, or five reads have failed in a row.  Each frame is drawn
on, encoded and sent as a part of a multipart response, from which the page takes
the images.
-/

namespace GardHub
namespace KtApp

open Foundation

/-!
## The generator
-/

/-- An array of the camera library. -/
structure RawFrame where
  shape : List Nat
  pixels : List UInt8
deriving DecidableEq

/-- `frame.size` -/
def RawFrame.size (frame : RawFrame) : Nat :=
  frame.shape.prod

/-- There is nothing in the frame that could be shown. -/
def RawFrame.isEmpty (frame : RawFrame) : Bool :=
  frame.size = 0 || frame.shape.length < 2

/-- What the generator finds under the lock of the camera. -/
inductive StreamLook where
  | raises
  | found (running hasStream : Bool)
deriving DecidableEq

/-- How the read from a USB camera ends.  A read that returns `False` has
failed. -/
inductive UsbRead where
  | isOpenedRaises
  | notOpened
  | readRaises
  | failed
  | noFrame
  | frame (frame : RawFrame)
deriving DecidableEq

/-- How `capture_array` ends. -/
inductive PiRead where
  | raises
  | noFrame
  | frame (frame : RawFrame)
deriving DecidableEq

inductive CameraRead where
  | usb (read : UsbRead)
  | picamera2 (read : PiRead)
deriving DecidableEq

/-- What a pass of the loop meets, should it come to that: the two looks at the
flag, the stream, the read, and whether the reader of the frames leaves at the
`yield`. -/
structure GeneratorPass where
  stopBeforeSleep : Bool
  stopBehindSleep : Bool
  look : StreamLook
  read : CameraRead
  readerLeaves : Bool
deriving DecidableEq

def maxConsecutiveFailures : Nat := 5

/-- A failed read: the number of failures to go on with, or none if there are too
many. -/
def countFailure (consecutiveFailures : Nat) : Option RawFrame × Option Nat :=
  if consecutiveFailures + 1 ≥ maxConsecutiveFailures then (none, none)
  else (none, some (consecutiveFailures + 1))

/-- A frame has come: it is yielded unless there is nothing in it. -/
def yieldFrame (frame : RawFrame) (readerLeaves : Bool) :
    Option RawFrame × Option Nat :=
  if frame.isEmpty then (none, some 0)
  else (some frame, if readerLeaves then none else some 0)

/-- A pass of `generate_raw_frames`: the frame that is yielded, and the failures
to go on with, if the loop is not left. -/
def generatorPass (consecutiveFailures : Nat) (pass : GeneratorPass) :
    Option RawFrame × Option Nat :=
  if pass.stopBeforeSleep then (none, none)
  else if pass.stopBehindSleep then (none, none)
  else
    match pass.look with
    | .raises => (none, none)
    | .found running hasStream =>
        if !running then (none, none)
        else if !hasStream then (none, none)
        else
          match pass.read with
          | .usb .notOpened => (none, none)
          | .usb .isOpenedRaises | .usb .readRaises | .usb .failed
          | .picamera2 .raises => countFailure consecutiveFailures
          | .usb .noFrame => (none, some 0)
          | .picamera2 .noFrame => (none, some consecutiveFailures)
          | .usb (.frame frame) | .picamera2 (.frame frame) =>
              yieldFrame frame pass.readerLeaves

/-- `generate_raw_frames`: the frames it yields, and whether it has left the
loop. -/
def generateRawFrames : Nat -> List GeneratorPass -> List RawFrame × Bool
  | _, [] => ([], false)
  | consecutiveFailures, pass :: rest =>
      match generatorPass consecutiveFailures pass with
      | (frame, none) => (frame.toList, true)
      | (frame, some failures) =>
          let later := generateRawFrames failures rest
          (frame.toList ++ later.1, later.2)

/-!
## When it leaves
-/

namespace GeneratorPass

/-- The pass comes to the read. -/
def reads (pass : GeneratorPass) : Bool :=
  !pass.stopBeforeSleep && !pass.stopBehindSleep &&
    pass.look = .found true true

/-- The read fails. -/
def fails (pass : GeneratorPass) : Bool :=
  pass.reads && (pass.read = .usb .isOpenedRaises ||
    pass.read = .usb .readRaises || pass.read = .usb .failed ||
    pass.read = .picamera2 .raises)

/-- The read succeeds, and the failures before it are forgotten.  A Pi camera
that has no frame has not failed, but they are not forgotten. -/
def succeeds (pass : GeneratorPass) : Bool :=
  pass.reads &&
    match pass.read with
    | .usb .noFrame | .usb (.frame _) | .picamera2 (.frame _) => true
    | _ => false

/-- The frame of the pass, if there is one and something in it. -/
def frame (pass : GeneratorPass) : Option RawFrame :=
  match pass.reads, pass.read with
  | true, .usb (.frame frame) | true, .picamera2 (.frame frame) =>
      if frame.isEmpty then none else some frame
  | _, _ => none

/-- Whatever has failed before, the loop is left. -/
def quits (pass : GeneratorPass) : Bool :=
  !pass.reads || pass.read = .usb .notOpened ||
    (pass.frame.isSome && pass.readerLeaves)

end GeneratorPass

/-- The failures since the last success. -/
def failuresSince (passes : List GeneratorPass) : Nat :=
  (passes.reverse.takeWhile fun pass => !pass.succeeds).countP GeneratorPass.fails

/-- The loop is left in a pass that quits, or with the fifth failure since the
last success. -/
def leavesAt (passes : List GeneratorPass) (i : Nat) : Bool :=
  match passes[i]? with
  | none => false
  | some pass =>
      pass.quits || (pass.fails &&
        maxConsecutiveFailures ≤ failuresSince (passes.take (i + 1)))

section Leaving

variable (pass : GeneratorPass)

theorem failuresSince_concat (before : List GeneratorPass) :
    failuresSince (before ++ [pass]) =
      if pass.succeeds then 0
      else failuresSince before + if pass.fails then 1 else 0 := by
  rw [failuresSince, List.reverse_append, List.reverse_singleton,
    List.singleton_append]
  cases hsucceeds : pass.succeeds with
  | true =>
      simp [hsucceeds]
  | false =>
      rw [List.takeWhile_cons_of_pos (by simp [hsucceeds]), List.countP_cons]
      rfl

theorem generatorPass_of_not_reads (failures : Nat)
    (h : pass.reads = false) : generatorPass failures pass = (none, none) := by
  rw [generatorPass]
  cases hbefore : pass.stopBeforeSleep with
  | true =>
      rfl
  | false =>
      cases hbehind : pass.stopBehindSleep with
      | true =>
          rfl
      | false =>
          cases hlook : pass.look with
          | raises =>
              rfl
          | found running hasStream =>
              cases running <;> cases hasStream <;>
                simp_all [GeneratorPass.reads]

theorem generatorPass_of_reads (failures : Nat) (h : pass.reads = true) :
    generatorPass failures pass =
      match pass.read with
      | .usb .notOpened => (none, none)
      | .usb .isOpenedRaises | .usb .readRaises | .usb .failed
      | .picamera2 .raises => countFailure failures
      | .usb .noFrame => (none, some 0)
      | .picamera2 .noFrame => (none, some failures)
      | .usb (.frame frame) | .picamera2 (.frame frame) =>
          yieldFrame frame pass.readerLeaves := by
  simp only [GeneratorPass.reads, Bool.and_eq_true, Bool.not_eq_true',
    decide_eq_true_eq] at h
  rcases h with ⟨⟨hbefore, hbehind⟩, hlook⟩
  simp only [generatorPass, hbefore, hbehind, hlook, Bool.false_eq_true,
    if_false, Bool.not_true]

/-- What a pass does, with the failures that there have been. -/
theorem generatorPass_eq (failures : Nat) :
    generatorPass failures pass =
      (pass.frame,
        if pass.quits ∨
            (pass.fails ∧ maxConsecutiveFailures ≤ failures + 1) then none
        else if pass.succeeds then some 0
        else some (failures + if pass.fails then 1 else 0)) := by
  cases hreads : pass.reads with
  | false =>
      rw [generatorPass_of_not_reads pass failures hreads]
      simp [GeneratorPass.frame, GeneratorPass.quits, hreads]
  | true =>
      rw [generatorPass_of_reads pass failures hreads]
      have hcount : countFailure failures =
          (none, if maxConsecutiveFailures ≤ failures + 1 then none
            else some (failures + 1)) := by
        rw [countFailure]
        split <;> rfl
      have hframe : forall frame, pass.frame =
          (if frame.isEmpty then none else some frame) ->
          pass.read ≠ .usb .notOpened -> pass.fails = false ->
          pass.succeeds = true ->
          yieldFrame frame pass.readerLeaves =
            (pass.frame,
              if pass.quits ∨ (pass.fails ∧
                maxConsecutiveFailures ≤ failures + 1) then none
              else if pass.succeeds then some 0
              else some (failures + if pass.fails then 1 else 0)) := by
        intro frame hgot hopened hfails hsucceeds
        rw [yieldFrame, GeneratorPass.quits, hgot, hfails, hsucceeds, hreads]
        cases frame.isEmpty <;> simp [hopened]
      cases hread : pass.read with
      | usb read =>
          cases read with
          | frame frame =>
              refine hframe frame ?_ ?_ ?_ ?_ <;>
                simp [GeneratorPass.frame, GeneratorPass.fails, GeneratorPass.succeeds,
                  hreads, hread]
          | isOpenedRaises | notOpened | readRaises | failed | noFrame =>
              simp [GeneratorPass.frame, GeneratorPass.quits, GeneratorPass.fails,
                GeneratorPass.succeeds, hreads, hread, hcount]
      | picamera2 read =>
          cases read with
          | frame frame =>
              refine hframe frame ?_ ?_ ?_ ?_ <;>
                simp [GeneratorPass.frame, GeneratorPass.fails, GeneratorPass.succeeds,
                  hreads, hread]
          | raises | noFrame =>
              simp [GeneratorPass.frame, GeneratorPass.quits, GeneratorPass.fails,
                GeneratorPass.succeeds, hreads, hread, hcount]

theorem succeeds_of_fails (h : pass.fails = true) : pass.succeeds = false := by
  simp only [GeneratorPass.fails, Bool.and_eq_true, Bool.or_eq_true,
    decide_eq_true_eq] at h
  rcases h with ⟨_, ((hread | hread) | hread) | hread⟩ <;>
    simp [GeneratorPass.succeeds, hread]

/-- Whether the loop is left in the pass behind some others. -/
theorem leavesAt_length (before rest : List GeneratorPass) :
    leavesAt (before ++ pass :: rest) before.length =
      decide (pass.quits = true ∨ (pass.fails = true ∧
        maxConsecutiveFailures ≤ failuresSince before + 1)) := by
  have hget : (before ++ pass :: rest)[before.length]? = some pass := by
    simp
  have htake : (before ++ pass :: rest).take (before.length + 1) =
      before ++ [pass] := by
    simp [List.take_append]
  rw [leavesAt, hget]
  simp only [htake, failuresSince_concat]
  cases hfails : pass.fails with
  | false =>
      simp
  | true =>
      simp [succeeds_of_fails pass hfails]

/-- Behind some passes, the frames of the others are yielded up to the first one
in which the loop is left. -/
theorem generateRawFrames_behind (before passes : List GeneratorPass) :
    generateRawFrames (failuresSince before) passes =
      ((passes.take (firstStop (fun i =>
          leavesAt (before ++ passes) (before.length + i)) passes.length +
            1)).filterMap GeneratorPass.frame,
        decide (firstStop (fun i =>
          leavesAt (before ++ passes) (before.length + i)) passes.length <
            passes.length)) := by
  induction passes generalizing before with
  | nil =>
      rfl
  | cons pass rest ih =>
      have hnext := ih (before ++ [pass])
      simp only [List.append_assoc, List.singleton_append, List.length_append,
        List.length_singleton, failuresSince_concat] at hnext
      have hshift : (fun i =>
          leavesAt (before ++ pass :: rest) (before.length + (i + 1))) =
          fun i => leavesAt (before ++ pass :: rest) (before.length + 1 + i) :=
        funext fun i => congrArg _ (by lia)
      rw [generateRawFrames, generatorPass_eq, List.length_cons, firstStop_succ,
        hshift]
      simp only [Nat.add_zero, leavesAt_length]
      by_cases hleaves : pass.quits = true ∨ (pass.fails = true ∧
        maxConsecutiveFailures ≤ failuresSince before + 1)
      · cases hframe : pass.frame <;> simp [hleaves, hframe]
      · have hgoes : (if pass.succeeds then some 0
            else some (failuresSince before + if pass.fails then 1 else 0)) =
            some (if pass.succeeds then 0
              else failuresSince before + if pass.fails then 1 else 0) := by
          split <;> rfl
        simp only [if_neg hleaves, hgoes, hnext, decide_eq_true_eq]
        cases hframe : pass.frame <;> simp [hframe]

end Leaving

/-!
## The response
-/

/-- Where a part begins. -/
def boundaryStart : List UInt8 :=
  utf8Bytes "--frame".toList

/-- The rest of `BOUNDARY_PREFIX`. -/
def partHeader : List UInt8 :=
  utf8Bytes "\r\nContent-Type: image/jpeg\r\n\r\n".toList

/-- `BOUNDARY_SUFFIX` -/
def boundarySuffix : List UInt8 :=
  utf8Bytes "\r\n".toList

/-- What is sent of the frames, each of which is encoded in the state that the
boxes are in then.  A frame that cannot be encoded is left out. -/
def encodedImages (encode : Nat -> RawFrame -> Option (List UInt8))
    (frames : List RawFrame) : List (List UInt8) :=
  frames.zipIdx.filterMap fun frame => encode frame.2 frame.1

/-- `generate_frames_with_bbox`: the bytes of the response. -/
def generateFramesWithBbox (encode : Nat -> RawFrame -> Option (List UInt8))
    (passes : List GeneratorPass) : List UInt8 :=
  (encodedImages encode (generateRawFrames 0 passes).1).flatMap fun image =>
    boundaryStart ++ partHeader ++ image ++ boundarySuffix

/-- What ends an image. -/
def imageMark : List UInt8 :=
  boundarySuffix ++ boundaryStart

/-- The images that are taken from a response. -/
def readImages (response : List UInt8) : List (List UInt8) :=
  if boundaryStart <+: response then
    readParts partHeader imageMark response.length
      (response.drop boundaryStart.length)
  else []

/-- The parts of a response and the beginning of the next one, cut where the page
cuts them. -/
theorem response_regrouped (images : List (List UInt8)) :
    (images.flatMap fun image =>
        boundaryStart ++ partHeader ++ image ++ boundarySuffix) ++
          boundaryStart =
      boundaryStart ++ images.flatMap (writePart partHeader imageMark) := by
  induction images with
  | nil =>
      simp
  | cons image rest ih =>
      rw [List.flatMap_cons, List.flatMap_cons, List.append_assoc, ih]
      simp only [writePart, imageMark, List.append_assoc]

/-- The frames that are sent are those of the passes up to the first one in which
the loop is left: in which it is told to stop, the camera is gone, the reader
leaves, or a fifth read fails since the last success.  As soon as the next part
begins, the page has taken just the images of these frames from the response,
unless the boundary is in one of them. -/
theorem videoFeed_shows (encode : Nat -> RawFrame -> Option (List UInt8))
    (passes : List GeneratorPass) :
    let leave := firstStop (leavesAt passes) passes.length
    let images := encodedImages encode
      ((passes.take (leave + 1)).filterMap GeneratorPass.frame)
    (generateRawFrames 0 passes).2 = decide (leave < passes.length) ∧
      (readImages (generateFramesWithBbox encode passes ++ boundaryStart) =
          images <->
        forall image, image ∈ images -> ¬ imageMark <:+: image) := by
  intro leave images
  have hframes := generateRawFrames_behind [] passes
  simp only [List.nil_append, List.length_nil, Nat.zero_add] at hframes
  have hstart : generateRawFrames 0 passes =
      ((passes.take (leave + 1)).filterMap GeneratorPass.frame,
        decide (leave < passes.length)) := hframes
  have hresponse : generateFramesWithBbox encode passes ++ boundaryStart =
      boundaryStart ++ images.flatMap (writePart partHeader imageMark) := by
    rw [generateFramesWithBbox, hstart]
    exact response_regrouped images
  have hmark : imageMark = 13 :: imageMark.tail := by decide
  have hlength := length_le_flatMap_writePart imageMark
    (show partHeader ≠ [] by decide) images
  refine ⟨by rw [hstart], ?_⟩
  rw [hresponse, readImages, if_pos (List.prefix_append _ _), List.drop_left,
    hmark]
  apply readParts_eq_iff (by decide) (by decide)
  rw [← hmark, List.length_append]
  lia

/-!
## Without boxes
-/

/-- The kinds of a `FrameEncodingError`. -/
inductive FrameEncodingError where
  | emptyFrame
  | invalidShape
  | invalidChannels
  | encodeFailed
  | emptyEncoded
  | encodeException
deriving DecidableEq

/-- How `imencode` ends. -/
inductive EncodeOutcome where
  | raises
  | failed
  | encoded (bytes : List UInt8)

def RawFrame.channels (frame : RawFrame) : Nat :=
  if frame.shape.length = 3 then frame.shape.getD 2 0 else 1

/-- `_validate_and_encode_frame` -/
def validateAndEncodeFrame (frame : RawFrame) (outcome : EncodeOutcome) :
    Except FrameEncodingError (List UInt8) :=
  if frame.size = 0 then .error .emptyFrame
  else if frame.shape.length < 2 then .error .invalidShape
  else if frame.channels ∉ [1, 3, 4] then .error .invalidChannels
  else
    match outcome with
    | .raises => .error .encodeException
    | .failed => .error .encodeFailed
    | .encoded bytes =>
        if bytes.length = 0 then .error .emptyEncoded else .ok bytes

/-- `generate_frames`: the bytes of the response. -/
def generateFrames (imencode : Nat -> RawFrame -> EncodeOutcome)
    (passes : List GeneratorPass) : List UInt8 :=
  generateFramesWithBbox
    (fun k frame => (validateAndEncodeFrame frame (imencode k frame)).toOption)
    passes

theorem frame_notEmpty {pass : GeneratorPass} {frame : RawFrame}
    (h : pass.frame = some frame) : frame.isEmpty = false := by
  rw [GeneratorPass.frame] at h
  split at h
  case h_3 =>
    cases h
  all_goals
    split at h
    · cases h
    · cases h
      simp_all

/-- No frame is refused for being empty or for its shape: the generator has left
such frames out. -/
theorem generateFrames_errors (passes : List GeneratorPass) {frame : RawFrame}
    (hframe : frame ∈ (generateRawFrames 0 passes).1) (outcome : EncodeOutcome) :
    validateAndEncodeFrame frame outcome ≠ .error .emptyFrame ∧
      validateAndEncodeFrame frame outcome ≠ .error .invalidShape := by
  have hframes := generateRawFrames_behind [] passes
  change generateRawFrames 0 passes = _ at hframes
  rw [hframes] at hframe
  rcases List.mem_filterMap.mp hframe with ⟨pass, _, hpass⟩
  have hsome := frame_notEmpty hpass
  simp only [RawFrame.isEmpty, Bool.or_eq_false_iff, decide_eq_false_iff_not]
    at hsome
  simp only [validateAndEncodeFrame, if_neg hsome.1, if_neg hsome.2]
  by_cases hchannels : frame.channels ∉ [1, 3, 4]
  · simp only [if_pos hchannels]
    exact ⟨nofun, nofun⟩
  · simp only [if_neg hchannels]
    cases outcome with
    | raises | failed =>
        simp
    | encoded bytes =>
        by_cases hbytes : bytes.length = 0 <;> simp [hbytes]

end KtApp
end GardHub
