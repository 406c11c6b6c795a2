import GardHub.Dal
import GardHub.Foundation.Runs

/-!
# Opening and closing the UART

`dal_uart_init` and `dal_uart_fini`, for a handle that is not `NULL`.  The calls
of the operating system may fail at every point; what they answer is an argument
of the model.
-/

namespace GardHub
namespace Dal

open Foundation

/-!
## The operating system
-/

/-- `speed_t`, for the rates the driver knows. -/
inductive UartSpeed where
  | b9600
  | b115200
  | b921600
deriving DecidableEq

/-- `struct termios`, with the two elements of `c_cc` that are set, and the speeds
apart. -/
structure Termios where
  cIflag : UInt32
  cOflag : UInt32
  cCflag : UInt32
  cLflag : UInt32
  cVmin : UInt8
  cVtime : UInt8
  inputSpeed : Option UartSpeed
  outputSpeed : Option UartSpeed
deriving DecidableEq

/-- `CSIZE | PARENB | CSTOPB | CRTSCTS | HUPCL` -/
def clearedCflags : UInt32 := 0x80000570

/-- `CS8` -/
def cs8 : UInt32 := 0x30

/-- `CREAD` -/
def cread : UInt32 := 0x80

/-- How a `close` ends.  When it fails, the system may have released the
descriptor or not. -/
inductive CloseOutcome where
  | closed
  | failed (released : Bool)
deriving DecidableEq

/-- The descriptor is released. -/
def CloseOutcome.releases : CloseOutcome -> Bool
  | .closed => true
  | .failed released => released

/-- What the calls in one `dal_uart_init` answer, should they be made: the
descriptor, the attributes of the line, whether the speeds and the attributes are
accepted, and how the descriptor is closed. -/
structure UartAnswers where
  opened : Option Nat
  attributes : Option Termios
  inputSpeedSet : Bool
  outputSpeedSet : Bool
  attributesSet : Bool
  closed : CloseOutcome

/-!
## The driver
-/

/-- `struct dal_bus_uart_props`, without the name of the device. -/
structure UartProps where
  devHdl : Int
  isOpen : UInt8
  baudRate : UInt32

/-- A bus, the descriptors that the process holds for it, and the attributes its
line was given last. -/
structure UartState where
  props : UartProps
  openFds : List Nat
  line : Option Termios

/-- The speed for a baud rate that is supported. -/
def uartSpeed (baudRate : UInt32) : Option UartSpeed :=
  if baudRate = 9600 then some .b9600
  else if baudRate = 115200 then some .b115200
  else if baudRate = 921600 then some .b921600
  else none

/-- The attributes that the driver sets: raw mode, eight bits without parity, one
stop bit, and reads that do not block. -/
def Termios.raw (tty : Termios) (speed : UartSpeed) : Termios :=
  { cIflag := 0
    cOflag := 0
    cCflag := tty.cCflag &&& ~~~clearedCflags ||| cs8 ||| cread
    cLflag := 0
    cVmin := 0
    cVtime := 0
    inputSpeed := some speed
    outputSpeed := some speed }

/-- `close`: its result, and the descriptors behind it.  A negative number is no
descriptor. -/
def closeFd (fd : Int) (outcome : CloseOutcome) (openFds : List Nat) :
    Bool × List Nat :=
  if fd < 0 then (false, openFds)
  else
    (outcome = .closed,
      if outcome.releases then openFds.erase fd.toNat else openFds)

/-- The process holds one more descriptor. -/
def UartState.holding (s : UartState) (busHdl : Nat) : UartState :=
  { s with openFds := busHdl :: s.openFds }

/-- `err_dal_uart_init` -/
def UartState.errDalUartInit (s : UartState) (busHdl : Nat)
    (outcome : CloseOutcome) : Int × UartState :=
  (dalFailureDeviceError,
    { s with
      props := { s.props with devHdl := -1, isOpen := 0 }
      openFds := (closeFd busHdl outcome s.openFds).2 })

/-- `dal_uart_init` -/
def dalUartInit (io : UartAnswers) (s : UartState) : Int × UartState :=
  if s.props.isOpen = 1 then (dalSuccess, s)
  else
    match io.opened with
    | none => (dalFailureDeviceError, s)
    | some busHdl =>
        let s := s.holding busHdl
        match io.attributes with
        | none => s.errDalUartInit busHdl io.closed
        | some tty =>
            match uartSpeed s.props.baudRate with
            -- returns with the descriptor open
            | none => (dalFailureInvalidArgs, s)
            | some speed =>
                if !io.inputSpeedSet then s.errDalUartInit busHdl io.closed
                else if !io.outputSpeedSet then
                  s.errDalUartInit busHdl io.closed
                else if !io.attributesSet then
                  s.errDalUartInit busHdl io.closed
                else
                  (dalSuccess,
                    { s with
                      props := { s.props with devHdl := busHdl, isOpen := 1 }
                      line := some (tty.raw speed) })

/-- `dal_uart_fini` -/
def dalUartFini (outcome : CloseOutcome) (s : UartState) : Int × UartState :=
  let closing := closeFd s.props.devHdl outcome s.openFds
  if !closing.1 then
    (dalFailureDeviceError, { s with openFds := closing.2 })
  else
    (dalSuccess,
      { s with
        props := { s.props with isOpen := 0, devHdl := -1 }
        openFds := closing.2 })

/-- The calls, the initialisation at the baud rate that is set by then. -/
inductive UartCall where
  | init (baudRate : UInt32) (io : UartAnswers)
  | fini (outcome : CloseOutcome)

def uartCall (s : UartState) : UartCall -> Int × UartState
  | .init baudRate io =>
      dalUartInit io { s with props := { s.props with baudRate := baudRate } }
  | .fini outcome => dalUartFini outcome s

/-- Every call returns. -/
def uartStep (s : UartState) (call : UartCall) : Option UartState :=
  some (uartCall s call).2

/-- A bus before the first call. -/
def closedBus (devHdl : Int) : UartState :=
  { props := { devHdl := devHdl, isOpen := 0, baudRate := 0 }
    openFds := []
    line := none }

/-!
## What the calls promise
-/

/-- The process holds the descriptor in `dev_hdl` if the bus is open, and none
otherwise. -/
def UartState.Held (s : UartState) : Prop :=
  s.openFds.map Int.ofNat =
    if s.props.isOpen = 1 then [s.props.devHdl] else []

/-- A failure leaves the descriptors open that were open before. -/
def UartState.FailureReleases (s : UartState) (result : Int × UartState) :
    Prop :=
  result.1 ≠ dalSuccess -> result.2.openFds = s.openFds

/-- Success of an initialisation means that the bus is open. -/
def SuccessMeansOpen (s : UartState) (call : UartCall) : Prop :=
  match call with
  | .init _ _ =>
      (uartCall s call).1 = dalSuccess <->
        (uartCall s call).2.props.isOpen = 1
  | .fini _ => True

/-- What a call promises. -/
def CallKept (s : UartState) (call : UartCall) : Prop :=
  (uartCall s call).2.Held ∧ SuccessMeansOpen s call ∧
    match call with
    | .init _ _ => s.FailureReleases (uartCall s call)
    | .fini _ => True

/-- The attributes of the line are what the driver wants. -/
def UartAnswers.accepts (io : UartAnswers) : Bool :=
  io.inputSpeedSet && io.outputSpeedSet && io.attributesSet

/-- The condition on an initialisation that opens the device: where it fails, it
gets to the `close`, and that releases the descriptor. -/
def UartAnswers.Releases (io : UartAnswers) (baudRate : UInt32) : Prop :=
  (io.attributes.isSome = true -> (uartSpeed baudRate).isSome = true) ∧
    (io.attributes.isSome = true ∧ io.accepts = true ∨
      io.closed.releases = true)

/-- The condition on a call: such an initialisation, or a `close` of an open bus
that does not fail once the descriptor is released. -/
def CallReleases (s : UartState) : UartCall -> Prop
  | .init baudRate io =>
      s.props.isOpen = 1 ∨ io.opened = none ∨ io.Releases baudRate
  | .fini outcome => s.props.isOpen = 1 -> outcome ≠ .failed true

/-!
## Steps
-/

theorem dalFailureDeviceError_ne : dalFailureDeviceError ≠ dalSuccess := by
  decide

theorem dalFailureInvalidArgs_ne : dalFailureInvalidArgs ≠ dalSuccess := by
  decide

theorem isOpen_zero_ne : (0 : UInt8) ≠ 1 := by
  decide

section Steps

variable {s : UartState}

theorem UartState.Held.openFds_eq_nil (hheld : s.Held)
    (hopen : ¬ s.props.isOpen = 1) : s.openFds = [] := by
  rw [UartState.Held, if_neg hopen] at hheld
  exact List.map_eq_nil_iff.mp hheld

theorem UartState.Held.openFds_eq_singleton (hheld : s.Held)
    (hopen : s.props.isOpen = 1) :
    exists fd : Nat, s.openFds = [fd] ∧ s.props.devHdl = fd := by
  rw [UartState.Held, if_pos hopen] at hheld
  rcases List.map_eq_singleton_iff.mp hheld with ⟨fd, hfds, hfd⟩
  exact ⟨fd, hfds, hfd.symm⟩

theorem held_of_not_open {s : UartState} (hopen : ¬ s.props.isOpen = 1) :
    s.Held <-> s.openFds = [] := by
  rw [UartState.Held, if_neg hopen, List.map_eq_nil_iff]

theorem closeFd_opened (busHdl : Nat) (outcome : CloseOutcome)
    (openFds : List Nat) :
    (closeFd busHdl outcome (busHdl :: openFds)).2 = openFds <->
      outcome.releases = true := by
  have hvalid : ¬ (busHdl : Int) < 0 := by lia
  rw [closeFd, if_neg hvalid]
  cases outcome.releases with
  | false => simp
  | true => simp

theorem closeFd_nil (fd : Int) (outcome : CloseOutcome) :
    (closeFd fd outcome []).2 = [] := by
  unfold closeFd
  split
  · rfl
  · cases outcome.releases <;> rfl

/-- Behind the clean-up label an initialisation has failed as it should if the
descriptor is released. -/
theorem errDalUartInit_kept_iff (hopen : ¬ s.props.isOpen = 1)
    (hheld : s.Held) (busHdl : Nat) (outcome : CloseOutcome) :
    ((s.holding busHdl).errDalUartInit busHdl outcome).2.Held ∧
        s.FailureReleases ((s.holding busHdl).errDalUartInit busHdl outcome) <->
      outcome.releases = true := by
  have hclosed : ((s.holding busHdl).errDalUartInit busHdl
      outcome).2.openFds = s.openFds <-> outcome.releases = true :=
    closeFd_opened busHdl outcome s.openFds
  have hafter : ((s.holding busHdl).errDalUartInit busHdl outcome).2.Held <->
      ((s.holding busHdl).errDalUartInit busHdl outcome).2.openFds =
        s.openFds := by
    rw [hheld.openFds_eq_nil hopen]
    exact held_of_not_open isOpen_zero_ne
  rw [hafter, hclosed]
  constructor
  · rintro ⟨hreleases, -⟩
    exact hreleases
  · intro hreleases
    exact ⟨hreleases, fun _ => hclosed.mpr hreleases⟩

variable {io : UartAnswers} {busHdl : Nat}

/-- A rate that is not supported, once the attributes have been read. -/
theorem dalUartInit_unsupported (hopen : ¬ s.props.isOpen = 1)
    (hdevice : io.opened = some busHdl)
    (hattributes : io.attributes.isSome = true)
    (hspeed : uartSpeed s.props.baudRate = none) :
    dalUartInit io s = (dalFailureInvalidArgs, s.holding busHdl) := by
  rcases Option.isSome_iff_exists.mp hattributes with ⟨tty, htty⟩
  simp only [dalUartInit, if_neg hopen, hdevice, htty, UartState.holding,
    hspeed]

theorem dalUartInit_refused (hopen : ¬ s.props.isOpen = 1)
    (hdevice : io.opened = some busHdl)
    (hsupported : io.attributes.isSome = true ->
      (uartSpeed s.props.baudRate).isSome = true)
    (hrefused : ¬ (io.attributes.isSome = true ∧ io.accepts = true)) :
    dalUartInit io s =
      (s.holding busHdl).errDalUartInit busHdl io.closed := by
  cases hattributes : io.attributes with
  | none =>
      simp only [dalUartInit, if_neg hopen, hdevice, hattributes]
  | some tty =>
      rw [hattributes] at hsupported hrefused
      rcases Option.isSome_iff_exists.mp (hsupported rfl) with
        ⟨speed, hspeed⟩
      have hspeed' : uartSpeed (s.holding busHdl).props.baudRate =
          some speed := hspeed
      simp only [dalUartInit, if_neg hopen, hdevice, hattributes, hspeed']
      cases hinput : io.inputSpeedSet with
      | false => rfl
      | true =>
          cases houtput : io.outputSpeedSet with
          | false => rfl
          | true =>
              cases hset : io.attributesSet with
              | false => rfl
              | true =>
                  exact absurd
                    ⟨rfl, by rw [UartAnswers.accepts, hinput, houtput, hset]; rfl⟩
                    hrefused

/-- The bus is opened, and its line set to the baud rate. -/
theorem dalUartInit_opens {tty : Termios} {speed : UartSpeed}
    (hopen : ¬ s.props.isOpen = 1) (hdevice : io.opened = some busHdl)
    (hattributes : io.attributes = some tty)
    (hspeed : uartSpeed s.props.baudRate = some speed)
    (haccepts : io.accepts = true) :
    dalUartInit io s =
      (dalSuccess,
        { s.holding busHdl with
          props := { s.props with devHdl := busHdl, isOpen := 1 }
          line := some (tty.raw speed) }) := by
  rw [UartAnswers.accepts, Bool.and_eq_true, Bool.and_eq_true] at haccepts
  simp [dalUartInit, hopen, hdevice, hattributes, UartState.holding, hspeed,
    haccepts]

theorem dalUartInit_device_kept_iff (hopen : ¬ s.props.isOpen = 1)
    (hheld : s.Held) (hdevice : io.opened = some busHdl) :
    (dalUartInit io s).2.Held ∧ s.FailureReleases (dalUartInit io s) <->
      io.Releases s.props.baudRate := by
  by_cases hsupported : io.attributes.isSome = true ->
      (uartSpeed s.props.baudRate).isSome = true
  · rw [UartAnswers.Releases, and_iff_right hsupported]
    by_cases hconfigured : io.attributes.isSome = true ∧ io.accepts = true
    · refine iff_of_true ?_ (Or.inl hconfigured)
      rcases Option.isSome_iff_exists.mp hconfigured.1 with ⟨tty, htty⟩
      rcases Option.isSome_iff_exists.mp (hsupported hconfigured.1) with
        ⟨speed, hspeed⟩
      rw [dalUartInit_opens hopen hdevice htty hspeed hconfigured.2]
      refine ⟨?_, fun h => absurd rfl h⟩
      simp [UartState.Held, UartState.holding, hheld.openFds_eq_nil hopen]
    · rw [or_iff_right hconfigured,
        dalUartInit_refused hopen hdevice hsupported hconfigured]
      exact errDalUartInit_kept_iff hopen hheld busHdl io.closed
  · refine iff_of_false ?_ (fun h => hsupported h.1)
    rw [Classical.not_imp, Option.not_isSome_iff_eq_none] at hsupported
    rw [dalUartInit_unsupported hopen hdevice hsupported.1 hsupported.2]
    -- the descriptor is still there
    rintro ⟨-, hfailed⟩
    exact List.cons_ne_self _ _ (hfailed dalFailureInvalidArgs_ne)

/-- Whatever the system answers, the result of an initialisation says whether the
bus is open. -/
theorem dalUartInit_success_iff (io : UartAnswers) (s : UartState) :
    (dalUartInit io s).1 = dalSuccess <->
      (dalUartInit io s).2.props.isOpen = 1 := by
  by_cases hopen : s.props.isOpen = 1
  · rw [dalUartInit, if_pos hopen]
    exact iff_of_true rfl hopen
  · cases hdevice : io.opened with
    | none =>
        rw [dalUartInit, if_neg hopen, hdevice]
        exact iff_of_false dalFailureDeviceError_ne hopen
    | some busHdl =>
        by_cases hsupported : io.attributes.isSome = true ->
            (uartSpeed s.props.baudRate).isSome = true
        · by_cases hconfigured : io.attributes.isSome = true ∧ io.accepts = true
          · rcases Option.isSome_iff_exists.mp hconfigured.1 with ⟨tty, htty⟩
            rcases Option.isSome_iff_exists.mp (hsupported hconfigured.1) with
              ⟨speed, hspeed⟩
            rw [dalUartInit_opens hopen hdevice htty hspeed hconfigured.2]
            exact iff_of_true rfl rfl
          · rw [dalUartInit_refused hopen hdevice hsupported hconfigured]
            exact iff_of_false dalFailureDeviceError_ne isOpen_zero_ne
        · rw [Classical.not_imp, Option.not_isSome_iff_eq_none] at hsupported
          rw [dalUartInit_unsupported hopen hdevice hsupported.1 hsupported.2]
          exact iff_of_false dalFailureInvalidArgs_ne hopen

theorem dalUartInit_kept_iff (hheld : s.Held) (io : UartAnswers) :
    (dalUartInit io s).2.Held ∧ s.FailureReleases (dalUartInit io s) <->
      s.props.isOpen = 1 ∨ io.opened = none ∨
        io.Releases s.props.baudRate := by
  by_cases hopen : s.props.isOpen = 1
  · have hresult : dalUartInit io s = (dalSuccess, s) := if_pos hopen
    refine iff_of_true ?_ (Or.inl hopen)
    rw [hresult]
    exact ⟨hheld, fun h => absurd rfl h⟩
  · rw [or_iff_right hopen]
    cases hdevice : io.opened with
    | none =>
        have hresult : dalUartInit io s = (dalFailureDeviceError, s) := by
          rw [dalUartInit, if_neg hopen, hdevice]
        refine iff_of_true ?_ (Or.inl rfl)
        rw [hresult]
        exact ⟨hheld, fun _ => rfl⟩
    | some busHdl =>
        rw [or_iff_right (Option.some_ne_none busHdl)]
        exact dalUartInit_device_kept_iff hopen hheld hdevice

theorem dalUartFini_closed {outcome : CloseOutcome}
    (h : (closeFd s.props.devHdl outcome s.openFds).1 = true) :
    dalUartFini outcome s =
      (dalSuccess,
        { s with
          props := { s.props with isOpen := 0, devHdl := -1 }
          openFds := (closeFd s.props.devHdl outcome s.openFds).2 }) := by
  simp [dalUartFini, h]

theorem dalUartFini_failed {outcome : CloseOutcome}
    (h : (closeFd s.props.devHdl outcome s.openFds).1 = false) :
    dalUartFini outcome s =
      (dalFailureDeviceError,
        { s with
          openFds := (closeFd s.props.devHdl outcome s.openFds).2 }) := by
  simp [dalUartFini, h]

theorem dalUartFini_kept_iff (hheld : s.Held) (outcome : CloseOutcome) :
    (dalUartFini outcome s).2.Held <->
      (s.props.isOpen = 1 -> outcome ≠ .failed true) := by
  by_cases hopen : s.props.isOpen = 1
  · rcases hheld.openFds_eq_singleton hopen with ⟨fd, hfds, hfd⟩
    have hvalid : ¬ (fd : Int) < 0 := by lia
    have hclose : closeFd s.props.devHdl outcome s.openFds =
        (decide (outcome = .closed),
          if outcome.releases then [] else [fd]) := by
      rw [closeFd, hfd, if_neg hvalid, hfds, Int.toNat_natCast,
        List.erase_cons_head]
    rw [forall_prop_of_true hopen]
    cases outcome with
    | closed =>
        refine iff_of_true ?_ (by simp)
        rw [dalUartFini_closed (by rw [hclose]; rfl), hclose]
        rfl
    | failed released =>
        rw [dalUartFini_failed (by rw [hclose]; rfl), hclose]
        cases released with
        | false => simp [UartState.Held, hopen, hfd, CloseOutcome.releases]
        | true => simp [UartState.Held, hopen, CloseOutcome.releases]
  · refine iff_of_true ?_ (fun h => absurd h hopen)
    have hnone : (closeFd s.props.devHdl outcome s.openFds).2 = [] := by
      rw [hheld.openFds_eq_nil hopen]
      exact closeFd_nil _ _
    cases hclose : (closeFd s.props.devHdl outcome s.openFds).1 with
    | false =>
        rw [dalUartFini_failed hclose]
        apply (held_of_not_open ?_).mpr hnone
        exact hopen
    | true =>
        rw [dalUartFini_closed hclose]
        apply (held_of_not_open ?_).mpr hnone
        exact isOpen_zero_ne

end Steps

/-!
## Runs
-/

theorem successMeansOpen (s : UartState) (call : UartCall) :
    SuccessMeansOpen s call := by
  cases call with
  | init baudRate io => exact dalUartInit_success_iff io _
  | fini outcome => trivial

theorem callKept_iff {s : UartState} (hheld : s.Held) (call : UartCall) :
    CallKept s call <-> CallReleases s call := by
  unfold CallKept
  rw [and_iff_right (successMeansOpen s call)]
  cases call with
  | init baudRate io =>
      have hset : ({ s with
          props := { s.props with baudRate := baudRate } } : UartState).Held :=
        hheld
      exact dalUartInit_kept_iff hset io
  | fini outcome =>
      rw [and_iff_left trivial]
      exact dalUartFini_kept_iff hheld outcome

theorem closedBus_held (devHdl : Int) : (closedBus devHdl).Held :=
  rfl

/-- In every run the result of an initialisation says whether the bus is open.
Every call of a run keeps its promises exactly if every initialisation that fails
gets to a `close` that releases the descriptor, and no `close` of the open bus
fails once it has. -/
theorem dalUart_calls_kept_iff (devHdl : Int) (calls : List UartCall) :
    RunMeets uartStep SuccessMeansOpen (closedBus devHdl) calls ∧
      (RunMeets uartStep CallKept (closedBus devHdl) calls <->
        RunMeets uartStep CallReleases (closedBus devHdl) calls) := by
  have hstep : forall (s : UartState) call s', s.Held -> CallKept s call ->
      uartStep s call = some s' -> s'.Held := by
    intro s call s' _ hkept hs'
    cases hs'
    exact hkept.1
  constructor
  · exact runMeets_of_forall successMeansOpen _ _
  · exact runMeets_congr_of_invariant hstep
      (fun s call hheld => callKept_iff hheld call) (closedBus_held devHdl)
      calls

/-- Attributes of a line that were read. -/
def someTermios : Termios :=
  { cIflag := 0x500
    cOflag := 0x5
    cCflag := 0xcbd
    cLflag := 0x8a3b
    cVmin := 1
    cVtime := 0
    inputSpeed := some .b9600
    outputSpeed := some .b9600 }

/-- Everything that is asked succeeds. -/
def willingSystem (busHdl : Nat) : UartAnswers :=
  { opened := some busHdl
    attributes := some someTermios
    inputSpeedSet := true
    outputSpeedSet := true
    attributesSet := true
    closed := .closed }

/-- At 57600 baud the initialisation fails and the descriptor stays open, and the
next one opens another. -/
theorem dalUartInit_leaks :
    ¬ RunMeets uartStep CallKept (closedBus 0)
        [.init 57600 (willingSystem 3)] ∧
      (runActions uartStep (closedBus 0)
          [.init 57600 (willingSystem 3), .init 921600 (willingSystem 4)]).map
        (fun s => (s.openFds, s.props.devHdl, s.props.isOpen)) =
          some ([4, 3], 4, 1) := by
  refine ⟨?_, rfl⟩
  rintro ⟨⟨hheld, -⟩, -⟩
  cases hheld

end Dal
end GardHub
