import GardHub.Hub.Validation

/-!
# Sizes of App Layer exchanges

The payload of an App Layer request has its size in a field of three bytes in
front of it and in the four-byte size the App Layer passes; the payload of the
response has the size the GARD declares and the size of the buffer the App
Layer gives.  The state machine goes by the sizes of the App Layer alone.
-/

namespace GardHub
namespace Hub

open Foundation
open Dal
open Interface

variable {device app : Type}

/-!
## What the device sees of the payloads
-/

/-- How many bytes of a write the device takes. -/
def bytesTaken (port : Port device) (bus : DalBus) (buffer : List UInt8)
    (count : UInt32) (line : BusLine device) : Nat :=
  if count = 0 then 0
  else
    match bus.busType with
    | .uart => (port.send line.state (buffer.take count.toNat)).1.getD 0
    | _ => 0

/-- How many bytes of the request payload the device takes. -/
def payloadTaken (port : Port device) (bus : DalBus)
    (d : HubRequestResponseData) (line : BusLine device) : Nat :=
  match d.pAppRequest with
  | none => 0
  | some request =>
      bytesTaken port bus request d.appRequestSize
        (dalWrite port bus d.pRequest d.requestSize line).2

/-- How many bytes are read into the response buffer of the App Layer. -/
def payloadDelivered (port : Port device) (bus : DalBus)
    (d : HubRequestResponseData) (line : BusLine device) : Nat :=
  match d.pAppResponse with
  | none => 0
  | some _ =>
      (dalRead port bus d.appResponseSize
        (received port bus d (sent port bus d line).final).final).2.1.length

/-- The size that is sent in front of the request payload. -/
def sentSize (d : HubRequestResponseData) : Nat :=
  fieldValue d.pRequest 1 3

/-- The size that the device declares in front of the response payload. -/
def declaredSize (port : Port device) (bus : DalBus)
    (d : HubRequestResponseData) (line : BusLine device) : Nat :=
  leValue ((received port bus d (sent port bus d line).final).replies.getD 1 [])

/-!
## Transfers that seem complete

From 2^31 bytes on a transfer has no return value of its own, but the code of
an error can be the size that was asked for.
-/

/-- The sizes that are error codes as well. -/
def IsErrorSize (count : UInt32) : Prop :=
  count.toNat = toUInt32 dalFailureDeviceError ∨
    count.toNat = toUInt32 dalFailureInvalidArgs

theorem bytesTaken_of_transferred {port : Port device} {bus : DalBus}
    {buffer : List UInt8} {count : UInt32} {line : BusLine device}
    (h : transferred (dalWrite port bus buffer count line).1 count = true) :
    bytesTaken port bus buffer count line = count.toNat ∨
      (IsErrorSize count ∧
        (bytesTaken port bus buffer count line = 0 ∨
          2 ^ 31 ≤ bytesTaken port bus buffer count line)) := by
  have hsize : toUInt32 (dalWrite port bus buffer count line).1 =
      count.toNat := by
    simpa [transferred] using h
  unfold bytesTaken
  unfold dalWrite at hsize
  by_cases hzero : count = 0
  · subst hzero
    exact Or.inl rfl
  · rw [if_neg hzero] at hsize ⊢
    cases hbus : bus.busType <;> simp only [hbus] at hsize ⊢
    case uart =>
      cases hsend : (port.send line.state (buffer.take count.toNat)).1 with
      | none =>
          rw [hsend] at hsize
          exact Or.inr ⟨Or.inl hsize.symm, Or.inl rfl⟩
      | some taken =>
          rw [hsend] at hsize
          by_cases hlt : taken < 2 ^ 31
          · rw [uartReturn_some_of_lt hlt, toUInt32_natCast (by lia)] at hsize
            exact Or.inl hsize
          · have hle : taken ≤ count.toNat :=
              le_trans (port.send_le _ _ _ hsend) (List.length_take_le _ _)
            have hcount : count.toNat < 2 ^ 32 := count.toNat_lt
            rw [uartReturn_some_of_ge (by lia) (by lia)] at hsize
            exact Or.inr ⟨Or.inl hsize.symm, Or.inr (Nat.le_of_not_lt hlt)⟩
    all_goals exact Or.inr ⟨Or.inr hsize.symm, Or.inl trivial⟩

theorem dalRead_of_transferred {port : Port device} {bus : DalBus}
    {count : UInt32} {line : BusLine device}
    (h : transferred (dalRead port bus count line).1 count = true) :
    (dalRead port bus count line).2.1.length = count.toNat ∨
      IsErrorSize count := by
  have hsize : toUInt32 (dalRead port bus count line).1 = count.toNat := by
    simpa [transferred] using h
  unfold dalRead at hsize ⊢
  by_cases hzero : count = 0
  · subst hzero
    exact Or.inl rfl
  · rw [if_neg hzero] at hsize ⊢
    cases hbus : bus.busType <;> simp only [hbus] at hsize ⊢
    case uart =>
      cases hrecv : (port.recv line.state count.toNat).1 with
      | none =>
          rw [hrecv] at hsize
          exact Or.inr (Or.inl hsize.symm)
      | some bytes =>
          have hle : bytes.length ≤ count.toNat := port.recv_le _ _ _ hrecv
          have hcount : count.toNat < 2 ^ 32 := count.toNat_lt
          rw [hrecv, Option.map_some] at hsize
          by_cases hlt : bytes.length < 2 ^ 31
          · rw [uartReturn_some_of_lt hlt, toUInt32_natCast (by lia)] at hsize
            exact Or.inl hsize
          · rw [uartReturn_some_of_ge (by lia) (by lia)] at hsize
            exact Or.inr (Or.inl hsize.symm)
    all_goals exact Or.inr (Or.inr hsize.symm)

theorem transferred_of_isSome {reply : List UInt8} {ret : Int} {size : UInt32}
    (h : (if transferred ret size then some reply else none).isSome = true) :
    transferred ret size = true := by
  by_contra hshort
  rw [if_neg hshort] at h
  cases h

theorem payloadTaken_of_sent {port : Port device} {bus : DalBus}
    {d : HubRequestResponseData} {line : BusLine device}
    {request : List UInt8} (hrequest : d.pAppRequest = some request)
    (h : (sent port bus d line).finished = true) :
    payloadTaken port bus d line = d.appRequestSize.toNat ∨
      (IsErrorSize d.appRequestSize ∧
        (payloadTaken port bus d line = 0 ∨
          2 ^ 31 ≤ payloadTaken port bus d line)) := by
  simp only [sent, sendOps, hrequest, runScript_cons_finished_iff] at h
  simp only [payloadTaken, hrequest]
  exact bytesTaken_of_transferred (transferred_of_isSome h.2.1)

theorem payloadDelivered_of_closed {port : Port device} {bus : DalBus}
    {d : HubRequestResponseData} {line : BusLine device}
    {buffer : List UInt8} (hsend : d.pSendData = none)
    (hbuffer : d.pAppResponse = some buffer)
    (h : (closed port bus d (sent port bus d line).final).finished = true) :
    payloadDelivered port bus d line = d.appResponseSize.toNat ∨
      IsErrorSize d.appResponseSize := by
  simp only [closed, closingOps, hsend, hbuffer, Option.isSome_some, if_true,
    runScript_cons_finished_iff] at h
  simp only [payloadDelivered, hbuffer]
  exact dalRead_of_transferred (transferred_of_isSome h.1)

/-!
## The sizes of an exchange
-/

section Sizes

variable {port : Port device} {bus : DalBus} {request : Option (List UInt8)}
  {requestSize : UInt32} {appResponse : Option (List UInt8)}
  {appResponseSize : UInt32} {buffer : List UInt8} {line : BusLine device}

theorem sentSize_appLayerRequest :
    sentSize (appLayerRequestData request requestSize appResponse
      appResponseSize buffer) = requestSize.toNat % 2 ^ 24 := by
  have hfield : ((appLayerRequestData request requestSize appResponse
      appResponseSize buffer).pRequest.drop 1).take 3 = u24Bytes requestSize :=
    List.take_of_length_le (le_of_eq (u24Bytes_length requestSize))
  rw [sentSize, fieldValue, hfield, u24Bytes, leValue_leBytes]
  norm_num

/-- The size of a request payload fits into its field. -/
def FitsField (request : Option (List UInt8)) (requestSize : UInt32) : Prop :=
  match request with
  | none => requestSize.toNat % 2 ^ 24 = 0
  | some _ => requestSize.toNat < 2 ^ 24

/-- The field says how many bytes the device takes exactly when the size fits
into the field. -/
theorem sentSize_eq_payloadTaken_iff
    (h : (sent port bus (appLayerRequestData request requestSize appResponse
      appResponseSize buffer) line).finished = true) :
    sentSize (appLayerRequestData request requestSize appResponse
        appResponseSize buffer) =
        payloadTaken port bus (appLayerRequestData request requestSize
          appResponse appResponseSize buffer) line <->
      FitsField request requestSize := by
  rw [sentSize_appLayerRequest]
  cases request with
  | none =>
      rfl
  | some payload =>
      rcases payloadTaken_of_sent rfl h with htaken | ⟨herror, htaken⟩
      · rw [htaken]
        exact Nat.mod_eq_iff_lt (by decide)
      · have hlarge : requestSize.toNat = 2 ^ 32 - 197 ∨
            requestSize.toNat = 2 ^ 32 - 200 := herror
        unfold FitsField
        constructor <;> intro hsize <;> lia

end Sizes

section Declared

variable {port : Port device} {bus : DalBus} {d : HubRequestResponseData}
  {line : BusLine device}

theorem declaredSize_lt (hresponse : d.responseSize = 4)
    (hvalid : d.validationDataSize = 1)
    (h : (received port bus d (sent port bus d line).final).finished = true) :
    declaredSize port bus d line < 2 ^ 24 := by
  have hops : recvOps d = [.read 1, .read 3] := by
    simp [recvOps, hresponse, hvalid]
  simp only [declaredSize, received, hops] at h ⊢
  cases hpart : transfer port bus (.read 1) (sent port bus d line).final with
  | mk reply mid =>
      cases reply with
      | none =>
          rw [runScript_cons_of_none _ hpart] at h
          cases h
      | some front =>
          rw [runScript_cons_of_some _ hpart, runScript_singleton] at h ⊢
          cases hrest : transfer port bus (.read 3) mid with
          | mk reply last =>
              cases reply with
              | none =>
                  simp [hrest] at h
              | some bytes =>
                  have hlength : bytes.length = 3 :=
                    transfer_read_length (by decide) hrest
                  have hlt := leValue_lt bytes
                  rw [hlength] at hlt
                  exact hlt

/-- The declared size is the number of bytes read, and the size the App Layer
expects, exactly when it is the expected one and nothing is expected without a
buffer. -/
theorem declaredSize_eq_payloadDelivered_iff (hsend : d.pSendData = none)
    (hlt : declaredSize port bus d line < 2 ^ 24)
    (h : (closed port bus d (sent port bus d line).final).finished = true) :
    (declaredSize port bus d line = payloadDelivered port bus d line ∧
        declaredSize port bus d line = d.appResponseSize.toNat) <->
      declaredSize port bus d line = d.appResponseSize.toNat ∧
        (d.pAppResponse = none -> d.appResponseSize.toNat = 0) := by
  cases hbuffer : d.pAppResponse with
  | none =>
      simp only [payloadDelivered, hbuffer]
      constructor <;> intro hsize <;> lia
  | some buffer =>
      simp only [reduceCtorEq, false_implies, and_true, and_iff_right_iff_imp]
      intro hsize
      rcases payloadDelivered_of_closed hsend hbuffer h with hread | herror
      · rw [hread, hsize]
      · have hlarge : d.appResponseSize.toNat = 2 ^ 32 - 197 ∨
            d.appResponseSize.toNat = 2 ^ 32 - 200 := herror
        lia

end Declared

/-!
## The law
-/

/-- A successful request has sent the number of bytes the device took of its
payload, and the device has declared the number of bytes that were read, which
is the number the App Layer expected. -/
def SizesAgree (port : Port device) (gard : HubGardInfo app)
    (request : Option (List UInt8)) (requestSize : UInt32)
    (appResponse : Option (List UInt8)) (appResponseSize : UInt32)
    (buffer : List UInt8) (line : BusLine device) : Prop :=
  let d := appLayerRequestData request requestSize appResponse appResponseSize
    buffer
  (hubAppLayerRequest port gard request requestSize appResponse
    appResponseSize buffer line).ret = true ->
    exists bus, gard.activeDalBus = some bus ∧
      sentSize d = payloadTaken port bus d line ∧
      declaredSize port bus d line = payloadDelivered port bus d line ∧
      declaredSize port bus d line = appResponseSize.toNat

/-- The exchange is cut short, or the size of the request payload fits into its
field and the device declares the size that the App Layer expects. -/
def SizesFit (port : Port device) (gard : HubGardInfo app)
    (request : Option (List UInt8)) (requestSize : UInt32)
    (appResponse : Option (List UInt8)) (appResponseSize : UInt32)
    (buffer : List UInt8) (line : BusLine device) : Prop :=
  match gard.activeDalBus with
  | none => True
  | some bus =>
      let d := appLayerRequestData request requestSize appResponse
        appResponseSize buffer
      (exchange port bus d line).finished = false ∨
        (FitsField request requestSize ∧
          declaredSize port bus d line = appResponseSize.toNat ∧
          (appResponse = none -> appResponseSize.toNat = 0))

/-- The sizes of a successful request agree exactly when the request payload
fits into its field and the device declares what the App Layer expects. -/
theorem hubAppLayerRequest_sizes_iff (port : Port device)
    (gard : HubGardInfo app) (request : Option (List UInt8))
    (requestSize : UInt32) (appResponse : Option (List UInt8))
    (appResponseSize : UInt32) (buffer : List UInt8)
    (line : BusLine device) :
    SizesAgree port gard request requestSize appResponse appResponseSize buffer
        line <->
      SizesFit port gard request requestSize appResponse appResponseSize buffer
        line := by
  unfold SizesAgree SizesFit
  cases hbus : gard.activeDalBus with
  | none =>
      simp [hubAppLayerRequest, hubExecuteHubRequest_no_bus port hbus]
  | some bus =>
      have hret : (hubAppLayerRequest port gard request requestSize appResponse
          appResponseSize buffer line).ret = (exchange port bus
            (appLayerRequestData request requestSize appResponse
              appResponseSize buffer) line).finished :=
        (hubExecuteHubRequest_exchange port ⟨rfl, rfl⟩ hbus).1
      simp only [hret, Option.some.injEq]
      cases hexchange : (exchange port bus (appLayerRequestData request
          requestSize appResponse appResponseSize buffer) line).finished with
      | false =>
          simp
      | true =>
          rcases (exchange_finished_iff port bus _ _).mp hexchange
            with ⟨hsent, hreceived, hclosed⟩
          have hlt := declaredSize_lt rfl rfl hreceived
          have hfield := sentSize_eq_payloadTaken_iff hsent
          have hdeclared :=
            declaredSize_eq_payloadDelivered_iff rfl hlt hclosed
          simp only [exists_eq_left', hfield, true_implies, reduceCtorEq,
            false_or]
          exact and_congr_right fun _ => hdeclared

/-- The GARD answers a request it does not know with one byte, where two are
expected.  The second one is taken from the message behind the answer. -/
theorem hubAppLayerRequest_reads_on :
    ¬ SizesAgree streamPort (readyGard none : HubGardInfo Unit)
      (some [4, 0, 0]) 3 (some [0, 0]) 2 [0, 0, 0, 0]
      (streamLine [8, 1, 0, 0, 0xFF, 0x0C, 0xCD, 7, 4, 0, 0]) := by
  intro h
  rcases h (by decide +kernel) with ⟨bus, hbus, -, -, hdeclared⟩
  cases hbus
  exact absurd hdeclared (by decide +kernel)

end Hub
end GardHub
