import GardHub.Foundation.Runs
import GardHub.KtApp.FaceDb

/-!
# Command mailbox

One thread asks for commands and another one executes them.  Both share one
request, one response and one flag, under a mutex.  A section that holds the
mutex is one step here, and so is each read of the request outside of it; the
steps of the two threads come in any order.
-/

namespace GardHub
namespace KtApp

open Foundation

/-!
## The threads
-/

/-- `kt_app_shmem` -/
structure KtAppShmem where
  request : KtAppRequest
  response : KtAppResponse
  cmdPending : Bool
deriving DecidableEq

/-- Where the main thread is in `kt_app_execute_cmd`. -/
inductive MainThread where
  | idle
  /-- The command is copied and the mutex released. -/
  | took (cmd : KtAppCmd)
  /-- An update has read the face identifier and not yet the name. -/
  | updating (faceId : UInt32)
  /-- The `switch` is done. -/
  | executed (cmd : KtAppCmd) (retCode : Int)
  /-- The dispatcher is left, and no command is executed any more. -/
  | stopped
deriving DecidableEq

/-- Where the thread that sends requests is. -/
inductive Requester where
  /-- At the head of its loop. -/
  | ready
  /-- In the loop, with a request to send. -/
  | preparing
  /-- Waiting for the command to be executed. -/
  | waiting (retryCount : Nat)
  /-- About to get the response. -/
  | answered
  | ended
deriving DecidableEq

/-- The two programs, which differ in the thread that sends requests:
`kt_app_ipc` or `kt_app_interactive`. -/
inductive RequesterKind where
  | ipc
  | interactive
deriving DecidableEq

/-- The commands a thread sends.  What comes over the socket is sent as it is;
the menu has six commands. -/
def RequesterKind.sends : RequesterKind -> KtAppCmd -> Bool
  | .ipc, _ => true
  | .interactive, cmd =>
      [.startPipeline, .startFaceIdentification, .generateFaceIdAsync,
        .startQrMonitor, .listFaceProfiles, .updateFaceProfile].contains cmd

/-- `KT_APP_CMD_RESP_RETRY_COUNT` -/
def ktAppCmdRespRetryCount : Nat := 3

/-- What was executed: the command, and the payload if it has one. -/
structure Execution where
  cmd : KtAppCmd
  payload : Option (UInt32 × List UInt8)
deriving DecidableEq

/-- What the execution of a request is to be. -/
def KtAppRequest.execution (request : KtAppRequest) : Execution :=
  { cmd := request.cmd
    payload :=
      if request.cmd = .updateFaceProfile then
        some (request.faceId, request.faceName)
      else none }

/-- The threads and what they share, with a record of what was sent, executed,
published and picked up.  A response that was picked up stands with the number
of requests sent before the one it was waited for. -/
structure Mailbox where
  shmem : KtAppShmem
  shouldExit : Bool
  faceDb : FaceDb
  main : MainThread
  requester : Requester
  sent : List KtAppRequest
  executed : List Execution
  published : List KtAppResponse
  picked : List (Nat × KtAppResponse)
deriving DecidableEq

/-- What KtLib makes of a command: its return code, and what it passes to
`kt_app_generate_face_id_done_cb`. -/
structure KtLibResult where
  retCode : Int
  faceId : UInt32
  opStatus : Int
deriving DecidableEq

/-!
## The steps
-/

/-- `kt_app_send_request` -/
def ktAppSendRequest (shmem : KtAppShmem) (request : KtAppRequest) :
    KtAppShmem :=
  { shmem with request := request, cmdPending := true }

/-- `kt_app_get_response` -/
def ktAppGetResponse (shmem : KtAppShmem) : KtAppResponse :=
  shmem.response

/-- One look at the flag: in `wait_for_response`, or in the bounded loop of
`kt_app_interactive`. -/
def lookAtPending (kind : RequesterKind) (cmdPending shouldExit : Bool)
    (retryCount : Nat) : Requester :=
  match kind with
  | .ipc =>
      if !cmdPending || shouldExit then .answered else .waiting retryCount
  | .interactive =>
      if cmdPending then
        if retryCount + 1 < ktAppCmdRespRetryCount then
          .waiting (retryCount + 1)
        else .ready
      else .answered

/-- Looking ends with an answer only when nothing is pending, unless
`kt_app_ipc` sees that the program is to end. -/
theorem lookAtPending_answered {kind : RequesterKind}
    {cmdPending shouldExit : Bool} {retryCount : Nat}
    (h : lookAtPending kind cmdPending shouldExit retryCount = .answered)
    (hcareful : kind = .ipc -> cmdPending = true -> shouldExit = false) :
    cmdPending = false := by
  cases cmdPending with
  | false =>
      rfl
  | true =>
      cases kind with
      | ipc =>
          rw [hcareful rfl rfl] at h
          cases h
      | interactive =>
          rw [lookAtPending, if_pos rfl] at h
          by_cases hretry : retryCount + 1 < ktAppCmdRespRetryCount
          · rw [if_pos hretry] at h
            cases h
          · rw [if_neg hretry] at h
            cases h

theorem lookAtPending_ne_preparing {kind : RequesterKind}
    {cmdPending shouldExit : Bool} {retryCount : Nat} :
    lookAtPending kind cmdPending shouldExit retryCount ≠ .preparing := by
  cases kind with
  | ipc =>
      cases cmdPending <;> cases shouldExit <;> simp [lookAtPending]
  | interactive =>
      cases cmdPending with
      | false =>
          simp [lookAtPending]
      | true =>
          change (if retryCount + 1 < ktAppCmdRespRetryCount then
            Requester.waiting (retryCount + 1) else .ready) ≠ .preparing
          split <;> simp

/-- The `switch` of `kt_app_execute_cmd` has come to its end. -/
def Mailbox.finishSwitch (s : Mailbox) (execution : Execution) (retCode : Int) :
    Mailbox :=
  { s with
    main := .executed execution.cmd retCode
    executed := s.executed ++ [execution] }

/-- `kt_app_generate_face_id_done_cb`, as far as it concerns the shared memory
and the database. -/
def Mailbox.generateFaceIdDone (s : Mailbox) (result : KtLibResult) : Mailbox :=
  { s with
    shmem := { s.shmem with
      response :=
        { cmd := .generateFaceIdAsync
          retCode := ktAppSuccess
          payload := .generateFaceIdAsync result.faceId result.opStatus } }
    faceDb :=
      if result.opStatus = ktAppSuccess then
        (ktAppFaceDbAddFaceProfile s.faceDb result.faceId defaultFaceName).2
      else s.faceDb }

/-- The `switch` of `kt_app_execute_cmd`, but for the update.  The return code
of an unknown command is not set by the source. -/
def Mailbox.executeCmd (s : Mailbox) (cmd : KtAppCmd) (result : KtLibResult) :
    Option Mailbox :=
  match cmd with
  | .updateFaceProfile => none
  | .generateFaceIdAsync =>
      some ((s.generateFaceIdDone result).finishSwitch
        { cmd := cmd, payload := none } result.retCode)
  | .listFaceProfiles =>
      some ({ s with
        shmem := { s.shmem with
          response := { s.shmem.response with
            payload := .listFaceProfiles s.faceDb.profiles } } }.finishSwitch
        { cmd := cmd, payload := none } ktAppSuccess)
  | .exit =>
      some ({ s with shouldExit := true }.finishSwitch
        { cmd := cmd, payload := none } ktAppSuccess)
  | cmd =>
      some (s.finishSwitch { cmd := cmd, payload := none } result.retCode)

/-- The rest of an update, which reads the name where the request is. -/
def Mailbox.executeUpdate (s : Mailbox) (faceId : UInt32) : Mailbox :=
  let faceName := s.shmem.request.faceName
  let updated := ktAppFaceDbUpdateFaceProfile s.faceDb faceId
    (FaceName.ofBytes faceName)
  { s with faceDb := updated.2 }.finishSwitch
    { cmd := .updateFaceProfile, payload := some (faceId, faceName) }
    (if updated.1 then ktAppSuccess else ktAppErrorGeneric)

/-- The end of `kt_app_execute_cmd`.  Behind the exit command the dispatcher
does not call it again. -/
def Mailbox.publishResponse (s : Mailbox) (cmd : KtAppCmd) (retCode : Int) :
    Mailbox :=
  let response := { s.shmem.response with cmd := cmd, retCode := retCode }
  { s with
    shmem := { s.shmem with response := response, cmdPending := false }
    main := if cmd = .exit then .stopped else .idle
    published := s.published ++ [response] }

inductive MailboxAction where
  /-- The thread that sends requests looks at `should_exit`. -/
  | loopHead
  | sendRequest (request : KtAppRequest)
  | lookAtPending
  | getResponse
  /-- The menu renames a profile in the database itself. -/
  | renameProfile (faceId : UInt32) (faceName : FaceName)
  | takeCommand
  | readFaceId
  | execute (result : KtLibResult)
  | publish
  /-- The user asks the program to end. -/
  | quit
deriving DecidableEq

/-- A step of one of the threads. -/
def mailboxStep (kind : RequesterKind) (s : Mailbox) :
    MailboxAction -> Option Mailbox
  | .loopHead =>
      match s.requester with
      | .ready =>
          some { s with
            requester := if s.shouldExit then .ended else .preparing }
      | _ => none
  | .sendRequest request =>
      match s.requester with
      | .preparing =>
          if kind.sends request.cmd then
            some { s with
              shmem := ktAppSendRequest s.shmem request
              sent := s.sent ++ [request]
              requester :=
                if kind = .ipc ∧ request.cmd = .generateFaceIdAsync then .ready
                else .waiting 0 }
          else none
      | _ => none
  | .lookAtPending =>
      match s.requester with
      | .waiting retryCount =>
          some { s with
            requester := lookAtPending kind s.shmem.cmdPending s.shouldExit
              retryCount }
      | _ => none
  | .getResponse =>
      match s.requester with
      | .answered =>
          some { s with
            requester := .ready
            picked := s.picked ++
              [(s.sent.length - 1, ktAppGetResponse s.shmem)] }
      | _ => none
  | .renameProfile faceId faceName =>
      if kind = .interactive then
        some { s with
          faceDb := (ktAppFaceDbUpdateFaceProfile s.faceDb faceId faceName).2 }
      else none
  | .takeCommand =>
      match s.main with
      | .idle =>
          some { s with
            main := if s.shmem.cmdPending then .took s.shmem.request.cmd
              else .idle }
      | _ => none
  | .readFaceId =>
      match s.main with
      | .took .updateFaceProfile =>
          some { s with main := .updating s.shmem.request.faceId }
      | _ => none
  | .execute result =>
      match s.main with
      | .took cmd => s.executeCmd cmd result
      | .updating faceId => some (s.executeUpdate faceId)
      | _ => none
  | .publish =>
      match s.main with
      | .executed cmd retCode => some (s.publishResponse cmd retCode)
      | _ => none
  | .quit => some { s with shouldExit := true }

/-!
## Delivery
-/

/-- What was sent has been executed in order and with its own payload, but for
the last request as long as it is pending, and what was picked up is what was
published for the request. -/
structure Delivered (s : Mailbox) : Prop where
  executed_eq :
    s.executed = (s.sent.take s.executed.length).map KtAppRequest.execution
  not_overwritten : s.sent.length ≤ s.executed.length + 1
  not_cleared :
    s.shmem.cmdPending = false -> s.executed.length = s.sent.length
  picked_own : forall n response, (n, response) ∈ s.picked ->
    s.published[n]? = some response ∧
      s.sent[n]?.map KtAppRequest.cmd = some response.cmd

/-- The steps that are the main thread's. -/
def MailboxAction.ofMain : MailboxAction -> Bool
  | .takeCommand | .readFaceId | .execute _ | .publish => true
  | _ => false

/-- The main thread can go on to have executed all that was sent. -/
def CanFinish (kind : RequesterKind) (s : Mailbox) : Prop :=
  exists actions s', (forall action, action ∈ actions ->
      action.ofMain = true) ∧
    runActions (mailboxStep kind) s actions = some s' ∧
    s'.sent = s.sent ∧ s'.shmem.cmdPending = false ∧
    s'.executed = s.sent.map KtAppRequest.execution

/-- The threads behind the initialisation of `kt_app_main`. -/
structure Started (s : Mailbox) : Prop where
  idle : s.main = .idle
  ready : s.requester = .ready
  not_pending : s.shmem.cmdPending = false
  stays : s.shouldExit = false
  sent_eq : s.sent = []
  executed_eq : s.executed = []
  published_eq : s.published = []
  picked_eq : s.picked = []

/-- A request is sent only when none is pending, and `kt_app_ipc` does not look
at the flag while one is pending and the program is to end. -/
def Careful (kind : RequesterKind) (s : Mailbox) : MailboxAction -> Prop
  | .sendRequest _ => s.shmem.cmdPending = false
  | .lookAtPending =>
      kind = .ipc -> s.shmem.cmdPending = true -> s.shouldExit = false
  | _ => True

instance (kind : RequesterKind) (s : Mailbox) :
    forall action, Decidable (Careful kind s action)
  | .sendRequest _ => inferInstanceAs (Decidable (_ = _))
  | .lookAtPending => inferInstanceAs (Decidable (_ -> _ -> _))
  | .loopHead | .getResponse | .renameProfile _ _ | .takeCommand
  | .readFaceId | .execute _ | .publish | .quit => isTrue trivial

/-!
## The invariant
-/

/-- Where the last request is. -/
inductive Phase (s : Mailbox) : Prop where
  | settled (main : s.main = .idle ∨ s.main = .stopped)
      (pending : s.shmem.cmdPending = false)
      (executed : s.executed = s.sent.map KtAppRequest.execution)
      (published : s.published.map KtAppResponse.cmd =
        s.sent.map KtAppRequest.cmd)
      (last : s.sent ≠ [] -> s.published.getLast? = some s.shmem.response)
  | inFlight (front : List KtAppRequest)
      (sent : s.sent = front ++ [s.shmem.request])
      (pending : s.shmem.cmdPending = true)
      (published : s.published.map KtAppResponse.cmd =
        front.map KtAppRequest.cmd)
      (progress :
        (s.main = .idle ∧ s.executed = front.map KtAppRequest.execution) ∨
        (s.main = .took s.shmem.request.cmd ∧
          s.executed = front.map KtAppRequest.execution) ∨
        (s.main = .updating s.shmem.request.faceId ∧
          s.shmem.request.cmd = .updateFaceProfile ∧
          s.executed = front.map KtAppRequest.execution) ∨
        exists retCode, s.main = .executed s.shmem.request.cmd retCode ∧
          s.executed = s.sent.map KtAppRequest.execution)

/-- What holds in every state of a careful run. -/
structure Invariant (kind : RequesterKind) (s : Mailbox) : Prop where
  phase : Phase s
  picked : forall n response, (n, response) ∈ s.picked ->
    s.published[n]? = some response
  waits : forall retryCount, s.requester = .waiting retryCount -> s.sent ≠ []
  answers : s.requester = .answered ->
    s.sent ≠ [] ∧ s.shmem.cmdPending = false
  ipcWaits : kind = .ipc -> s.shmem.cmdPending = true ->
    s.shmem.request.cmd ≠ .generateFaceIdAsync ->
    exists retryCount, s.requester = .waiting retryCount
  sends : forall request, request ∈ s.sent -> kind.sends request.cmd = true
  exits : forall retCode, s.main = .executed .exit retCode ->
    s.shouldExit = true
  stops : s.main = .stopped -> s.shouldExit = true ∧ s.requester ≠ .preparing

theorem Started.invariant {kind : RequesterKind} {s : Mailbox}
    (h : Started s) : Invariant kind s := by
  constructor
  · exact .settled (Or.inl h.idle) h.not_pending
      (by rw [h.executed_eq, h.sent_eq]; rfl)
      (by rw [h.published_eq, h.sent_eq]; rfl)
      (fun hsent => absurd h.sent_eq hsent)
  · intro n response hmem
    rw [h.picked_eq] at hmem
    cases hmem
  · intro retryCount hwaiting
    rw [h.ready] at hwaiting
    cases hwaiting
  · intro hanswered
    rw [h.ready] at hanswered
    cases hanswered
  · intro _ hpending
    rw [h.not_pending] at hpending
    cases hpending
  · intro request hmem
    rw [h.sent_eq] at hmem
    cases hmem
  · intro retCode hexecuted
    rw [h.idle] at hexecuted
    cases hexecuted
  · intro hstopped
    rw [h.idle] at hstopped
    cases hstopped

/-!
### The steps of the thread that sends requests
-/

section Steps

variable {kind : RequesterKind} {s s' : Mailbox}

theorem Phase.congr (h : Phase s) (hshmem : s'.shmem = s.shmem)
    (hmain : s'.main = s.main) (hsent : s'.sent = s.sent)
    (hexecuted : s'.executed = s.executed)
    (hpublished : s'.published = s.published) : Phase s' := by
  cases h with
  | settled main pending executed published last =>
      exact .settled (by rw [hmain]; exact main) (by rw [hshmem]; exact pending)
        (by rw [hexecuted, hsent]; exact executed)
        (by rw [hpublished, hsent]; exact published)
        (by rw [hpublished, hsent, hshmem]; exact last)
  | inFlight front sent pending published progress =>
      exact .inFlight front (by rw [hsent, hshmem]; exact sent)
        (by rw [hshmem]; exact pending) (by rw [hpublished]; exact published)
        (by rw [hmain, hshmem, hexecuted, hsent]; exact progress)

theorem Invariant.loopHead (h : Invariant kind s)
    (hready : s.requester = .ready) :
    Invariant kind { s with
      requester := if s.shouldExit then .ended else .preparing } := by
  constructor
  · exact h.phase.congr rfl rfl rfl rfl rfl
  · exact h.picked
  · intro retryCount hwaiting
    simp only at hwaiting
    split at hwaiting <;> cases hwaiting
  · intro hanswered
    simp only at hanswered
    split at hanswered <;> cases hanswered
  · intro hipc hpending hcmd
    rcases h.ipcWaits hipc hpending hcmd with ⟨retryCount, hwaiting⟩
    rw [hready] at hwaiting
    cases hwaiting
  · exact h.sends
  · exact h.exits
  · intro hstopped
    have hexit : s.shouldExit = true := (h.stops hstopped).1
    refine ⟨hexit, ?_⟩
    simp [hexit]

theorem Invariant.sendRequest (h : Invariant kind s)
    (hpreparing : s.requester = .preparing) {request : KtAppRequest}
    (hsends : kind.sends request.cmd = true)
    (hcareful : s.shmem.cmdPending = false) :
    Invariant kind { s with
      shmem := ktAppSendRequest s.shmem request
      sent := s.sent ++ [request]
      requester :=
        if kind = .ipc ∧ request.cmd = .generateFaceIdAsync then .ready
        else .waiting 0 } := by
  have hrunning : s.main ≠ .stopped := by
    intro hstopped
    exact (h.stops hstopped).2 hpreparing
  constructor
  · cases h.phase with
    | settled main pending executed published last =>
        have hidle : s.main = .idle := main.resolve_right hrunning
        exact .inFlight s.sent rfl rfl published (Or.inl ⟨hidle, executed⟩)
    | inFlight front sent pending published progress =>
        rw [hcareful] at pending
        cases pending
  · exact h.picked
  · intro retryCount _
    simp
  · intro hanswered
    simp only at hanswered
    split at hanswered <;> cases hanswered
  · intro hipc _ hcmd
    refine ⟨0, if_neg ?_⟩
    intro hasync
    exact hcmd hasync.2
  · intro r hr
    rcases List.mem_append.mp hr with hmem | hmem
    · exact h.sends r hmem
    · rw [List.mem_singleton.mp hmem]
      exact hsends
  · exact h.exits
  · intro hstopped
    exact absurd hstopped hrunning

theorem Invariant.lookAtPending (h : Invariant kind s) {retryCount : Nat}
    (hwaiting : s.requester = .waiting retryCount)
    (hcareful : kind = .ipc -> s.shmem.cmdPending = true ->
      s.shouldExit = false) :
    Invariant kind { s with
      requester := KtApp.lookAtPending kind s.shmem.cmdPending s.shouldExit
        retryCount } := by
  have hsent : s.sent ≠ [] := h.waits retryCount hwaiting
  constructor
  · exact h.phase.congr rfl rfl rfl rfl rfl
  · exact h.picked
  · intro _ _
    exact hsent
  · intro hanswered
    exact ⟨hsent, lookAtPending_answered hanswered hcareful⟩
  · intro hipc hpending _
    have hpending' : s.shmem.cmdPending = true := hpending
    refine ⟨retryCount, ?_⟩
    simp only [hipc, hpending', hcareful hipc hpending']
    rfl
  · exact h.sends
  · exact h.exits
  · intro hstopped
    exact ⟨(h.stops hstopped).1, lookAtPending_ne_preparing⟩

theorem Invariant.getResponse (h : Invariant kind s)
    (hanswered : s.requester = .answered) :
    Invariant kind { s with
      requester := .ready
      picked := s.picked ++
        [(s.sent.length - 1, ktAppGetResponse s.shmem)] } := by
  rcases h.answers hanswered with ⟨hsent, hpending⟩
  constructor
  · exact h.phase.congr rfl rfl rfl rfl rfl
  · intro n response hmem
    rcases List.mem_append.mp hmem with hold | hnew
    · exact h.picked n response hold
    · cases List.mem_singleton.mp hnew
      cases h.phase with
      | settled main pending executed published last =>
          have hlength := congrArg List.length published
          rw [List.length_map, List.length_map] at hlength
          rw [← hlength, ← List.getLast?_eq_getElem?]
          exact last hsent
      | inFlight front sent pending published progress =>
          rw [hpending] at pending
          cases pending
  · intro retryCount hwaiting
    cases hwaiting
  · intro hready
    cases hready
  · intro hipc hpending' hcmd
    rcases h.ipcWaits hipc hpending' hcmd with ⟨retryCount, hwaiting⟩
    rw [hanswered] at hwaiting
    cases hwaiting
  · exact h.sends
  · exact h.exits
  · intro hstopped
    exact ⟨(h.stops hstopped).1, nofun⟩

/-!
### The steps of the main thread
-/

/-- The invariant is kept by a step that leaves the request, the flag, the
thread that sends requests, and the records but for the executions alone. -/
theorem Invariant.congr (h : Invariant kind s) (hphase : Phase s')
    (hrequest : s'.shmem.request = s.shmem.request)
    (hpending : s'.shmem.cmdPending = s.shmem.cmdPending)
    (hrequester : s'.requester = s.requester) (hsent : s'.sent = s.sent)
    (hpublished : s'.published = s.published) (hpicked : s'.picked = s.picked)
    (hexits : forall retCode, s'.main = .executed .exit retCode ->
      s'.shouldExit = true)
    (hstops : s'.main = .stopped ->
      s'.shouldExit = true ∧ s.requester ≠ .preparing) :
    Invariant kind s' := by
  constructor
  · exact hphase
  · rw [hpicked, hpublished]
    exact h.picked
  · rw [hrequester, hsent]
    exact h.waits
  · rw [hrequester, hsent, hpending]
    exact h.answers
  · rw [hrequester, hpending, hrequest]
    exact h.ipcWaits
  · rw [hsent]
    exact h.sends
  · exact hexits
  · rw [hrequester]
    exact hstops

theorem Invariant.takeCommand (h : Invariant kind s) (hidle : s.main = .idle) :
    Invariant kind { s with
      main := if s.shmem.cmdPending then .took s.shmem.request.cmd
        else .idle } := by
  refine h.congr ?_ rfl rfl rfl rfl rfl rfl ?_ ?_
  · cases h.phase with
    | settled main pending executed published last =>
        refine .settled (Or.inl ?_) pending executed published last
        simp [pending]
    | inFlight front sent pending published progress =>
        refine .inFlight front sent pending published (Or.inr (Or.inl ?_))
        rcases progress with ⟨-, hexec⟩ | ⟨hmain, -⟩ | ⟨hmain, -⟩ |
          ⟨_, hmain, -⟩
        · exact ⟨if_pos pending, hexec⟩
        all_goals
          rw [hidle] at hmain
          cases hmain
  · intro retCode hexecuted
    simp only at hexecuted
    split at hexecuted <;> cases hexecuted
  · intro hstopped
    simp only at hstopped
    split at hstopped <;> cases hstopped

/-- In the `switch` the pending request is the last one, and not executed. -/
theorem Phase.inSwitch (h : Phase s)
    (hmain : (exists cmd, s.main = .took cmd) ∨
      exists faceId, s.main = .updating faceId) :
    exists front, s.sent = front ++ [s.shmem.request] ∧
      s.shmem.cmdPending = true ∧
      s.published.map KtAppResponse.cmd = front.map KtAppRequest.cmd ∧
      s.executed = front.map KtAppRequest.execution ∧
      (forall cmd, s.main = .took cmd -> cmd = s.shmem.request.cmd) ∧
      forall faceId, s.main = .updating faceId ->
        faceId = s.shmem.request.faceId ∧
          s.shmem.request.cmd = .updateFaceProfile := by
  cases h with
  | settled main pending executed published last =>
      rcases hmain with ⟨_, hmain⟩ | ⟨_, hmain⟩ <;> rw [hmain] at main <;>
        simp at main
  | inFlight front sent pending published progress =>
      refine ⟨front, sent, pending, published, ?_⟩
      rcases progress with ⟨hidle, -⟩ | ⟨htook, hexec⟩ |
        ⟨hupdating, hcmd, hexec⟩ | ⟨_, hdone, -⟩
      · rcases hmain with ⟨_, hmain⟩ | ⟨_, hmain⟩ <;> rw [hidle] at hmain <;>
          cases hmain
      · refine ⟨hexec, ?_, ?_⟩
        · intro cmd hcmd
          rw [htook] at hcmd
          cases hcmd
          rfl
        · intro faceId hupdating
          rw [htook] at hupdating
          cases hupdating
      · refine ⟨hexec, ?_, ?_⟩
        · intro cmd htook
          rw [hupdating] at htook
          cases htook
        · intro faceId hfaceId
          rw [hupdating] at hfaceId
          cases hfaceId
          exact ⟨rfl, hcmd⟩
      · rcases hmain with ⟨_, hmain⟩ | ⟨_, hmain⟩ <;> rw [hdone] at hmain <;>
          cases hmain

theorem Invariant.readFaceId (h : Invariant kind s)
    (htook : s.main = .took .updateFaceProfile) :
    Invariant kind { s with main := .updating s.shmem.request.faceId } := by
  refine h.congr ?_ rfl rfl rfl rfl rfl rfl nofun nofun
  rcases h.phase.inSwitch (Or.inl ⟨_, htook⟩)
    with ⟨front, sent, pending, published, hexec, hcmd, -⟩
  exact .inFlight front sent pending published
    (Or.inr (Or.inr (Or.inl ⟨rfl, (hcmd _ htook).symm, hexec⟩)))

/-- The `switch` ends: whatever it changed besides, the execution is that of the
pending request. -/
theorem Invariant.finishSwitch (h : Invariant kind s) {retCode : Int}
    {shmem : KtAppShmem} {shouldExit : Bool} {faceDb : FaceDb}
    (hmain : (exists cmd, s.main = .took cmd) ∨
      exists faceId, s.main = .updating faceId)
    (hrequest : shmem.request = s.shmem.request)
    (hpending : shmem.cmdPending = s.shmem.cmdPending)
    (hexit : s.shmem.request.cmd = .exit -> shouldExit = true) :
    Invariant kind
      ({ s with
        shmem := shmem
        shouldExit := shouldExit
        faceDb := faceDb }.finishSwitch s.shmem.request.execution retCode) := by
  refine h.congr ?_ hrequest hpending rfl rfl rfl rfl ?_ nofun
  · rcases h.phase.inSwitch hmain
      with ⟨front, sent, pending, published, hexec, -⟩
    refine .inFlight front ?_ ?_ published ?_
    · change s.sent = front ++ [shmem.request]
      rw [hrequest, sent]
    · change shmem.cmdPending = true
      rw [hpending, pending]
    · refine Or.inr (Or.inr (Or.inr ⟨retCode, ?_, ?_⟩))
      · change MainThread.executed s.shmem.request.cmd retCode =
          .executed shmem.request.cmd retCode
        rw [hrequest]
      · change s.executed ++ [s.shmem.request.execution] =
          s.sent.map KtAppRequest.execution
        rw [hexec, sent, List.map_append]
        rfl
  · intro ret hexecuted
    have hcmd : MainThread.executed s.shmem.request.cmd retCode =
        .executed .exit ret := hexecuted
    injection hcmd with hcmd
    exact hexit hcmd

/-- While a command is executed, the last request is in flight. -/
theorem Invariant.executed_inFlight (h : Invariant kind s) {cmd : KtAppCmd}
    {retCode : Int} (hexecuted : s.main = .executed cmd retCode) :
    exists front, s.sent = front ++ [s.shmem.request] ∧
      s.shmem.cmdPending = true ∧ cmd = s.shmem.request.cmd ∧
      s.published.map KtAppResponse.cmd = front.map KtAppRequest.cmd ∧
      s.executed = s.sent.map KtAppRequest.execution := by
  cases h.phase with
  | settled main pending executed published last =>
      rw [hexecuted] at main
      simp at main
  | inFlight front sent pending published progress =>
      refine ⟨front, sent, pending, ?_⟩
      rw [hexecuted] at progress
      rcases progress with ⟨hmain, -⟩ | ⟨hmain, -⟩ | ⟨hmain, -⟩ |
        ⟨_, hmain, hexec⟩ <;> cases hmain
      exact ⟨rfl, published, hexec⟩

theorem Invariant.publishResponse (h : Invariant kind s) {cmd : KtAppCmd}
    {retCode : Int} (hexecuted : s.main = .executed cmd retCode) :
    Invariant kind (s.publishResponse cmd retCode) := by
  rcases h.executed_inFlight hexecuted
    with ⟨front, sent, pending, hcmd, published, hexec⟩
  constructor
  · refine .settled ?_ rfl hexec ?_ ?_
    · change (if cmd = .exit then MainThread.stopped else .idle) = .idle ∨ _
      by_cases hexit : cmd = .exit
      · exact Or.inr (if_pos hexit)
      · exact Or.inl (if_neg hexit)
    · change (s.published ++ [_]).map KtAppResponse.cmd =
        s.sent.map KtAppRequest.cmd
      rw [List.map_append, published, sent, List.map_append, hcmd]
      rfl
    · intro _
      exact List.getLast?_concat
  · intro n response hmem
    have hold := h.picked n response hmem
    change (s.published ++ [_])[n]? = some response
    rw [List.getElem?_append_left (List.getElem?_eq_some_iff.mp hold).1]
    exact hold
  · exact h.waits
  · intro hanswered
    exact ⟨(h.answers hanswered).1, rfl⟩
  · intro _ hpending
    cases hpending
  · exact h.sends
  · intro ret hmain
    have hnext : (if cmd = .exit then MainThread.stopped else .idle) =
        .executed .exit ret := hmain
    split at hnext <;> cases hnext
  · intro hstopped
    have hnext : (if cmd = .exit then MainThread.stopped else .idle) =
        .stopped := hstopped
    have hexit : cmd = .exit := by
      by_contra hne
      rw [if_neg hne] at hnext
      cases hnext
    subst hexit
    refine ⟨h.exits retCode hexecuted, ?_⟩
    cases kind with
    | ipc =>
        rcases h.ipcWaits rfl pending (by rw [← hcmd]; decide)
          with ⟨retryCount, hwaiting⟩
        change s.requester ≠ .preparing
        rw [hwaiting]
        simp
    | interactive =>
        have hsends := h.sends s.shmem.request (by rw [sent]; simp)
        rw [← hcmd] at hsends
        exact absurd hsends (by decide)

/-- Whatever a command does, it ends the `switch`, and leaves the request and
the flag alone. -/
theorem Mailbox.executeCmd_cases {cmd : KtAppCmd} {result : KtLibResult}
    (h : s.executeCmd cmd result = some s') :
    cmd ≠ .updateFaceProfile ∧
      exists shmem shouldExit faceDb retCode,
        shmem.request = s.shmem.request ∧
        shmem.cmdPending = s.shmem.cmdPending ∧
        (cmd = .exit -> shouldExit = true) ∧
        s' = { s with
          shmem := shmem
          shouldExit := shouldExit
          faceDb := faceDb }.finishSwitch { cmd := cmd, payload := none }
            retCode := by
  cases cmd
  case updateFaceProfile => cases h
  case generateFaceIdAsync =>
    cases h
    exact ⟨nofun, (s.generateFaceIdDone result).shmem, s.shouldExit,
      (s.generateFaceIdDone result).faceDb, result.retCode, rfl, rfl, nofun,
      rfl⟩
  case listFaceProfiles =>
    cases h
    exact ⟨nofun,
      { s.shmem with
        response := { s.shmem.response with
          payload := .listFaceProfiles s.faceDb.profiles } },
      s.shouldExit, s.faceDb, ktAppSuccess, rfl, rfl, nofun, rfl⟩
  case exit =>
    cases h
    exact ⟨nofun, s.shmem, true, s.faceDb, _, rfl, rfl, fun _ => rfl, rfl⟩
  all_goals
    cases h
    exact ⟨nofun, s.shmem, s.shouldExit, s.faceDb, _, rfl, rfl, nofun, rfl⟩

theorem Invariant.executeCmd (h : Invariant kind s) {cmd : KtAppCmd}
    {result : KtLibResult} (htook : s.main = .took cmd)
    (hstep : s.executeCmd cmd result = some s') : Invariant kind s' := by
  have hmain : (exists cmd, s.main = .took cmd) ∨
      exists faceId, s.main = .updating faceId := Or.inl ⟨cmd, htook⟩
  rcases h.phase.inSwitch hmain with ⟨-, -, -, -, -, hcmd, -⟩
  have hrequest : cmd = s.shmem.request.cmd := hcmd cmd htook
  rcases Mailbox.executeCmd_cases hstep
    with ⟨hne, shmem, shouldExit, faceDb, retCode, hsame, hpending, hexit, rfl⟩
  have hexecution : s.shmem.request.execution =
      { cmd := cmd, payload := none } := by
    rw [KtAppRequest.execution, ← hrequest, if_neg hne]
  rw [← hexecution]
  exact h.finishSwitch hmain hsame hpending (hrequest ▸ hexit)

theorem Invariant.executeUpdate (h : Invariant kind s) {faceId : UInt32}
    (hupdating : s.main = .updating faceId) :
    Invariant kind (s.executeUpdate faceId) := by
  have hmain : (exists cmd, s.main = .took cmd) ∨
      exists faceId, s.main = .updating faceId := Or.inr ⟨faceId, hupdating⟩
  rcases h.phase.inSwitch hmain with ⟨-, -, -, -, -, -, hfaceId⟩
  rcases hfaceId faceId hupdating with ⟨rfl, hcmd⟩
  have hexecution : s.shmem.request.execution =
      { cmd := .updateFaceProfile
        payload := some (s.shmem.request.faceId,
          s.shmem.request.faceName) } := by
    rw [KtAppRequest.execution, hcmd, if_pos rfl]
  rw [Mailbox.executeUpdate, ← hexecution]
  exact h.finishSwitch hmain rfl rfl (by rw [hcmd]; nofun)

theorem mailboxStep_invariant (h : Invariant kind s) {action : MailboxAction}
    (hcareful : Careful kind s action)
    (hstep : mailboxStep kind s action = some s') : Invariant kind s' := by
  cases action with
  | loopHead =>
      cases hrequester : s.requester <;>
        simp only [mailboxStep, hrequester] at hstep
      case ready =>
        cases hstep
        exact h.loopHead hrequester
      all_goals cases hstep
  | sendRequest request =>
      cases hrequester : s.requester <;>
        simp only [mailboxStep, hrequester] at hstep
      case preparing =>
        by_cases hsends : kind.sends request.cmd = true
        · rw [if_pos hsends] at hstep
          cases hstep
          exact h.sendRequest hrequester hsends hcareful
        · rw [if_neg hsends] at hstep
          cases hstep
      all_goals cases hstep
  | lookAtPending =>
      cases hrequester : s.requester <;>
        simp only [mailboxStep, hrequester] at hstep
      case waiting retryCount =>
        cases hstep
        exact h.lookAtPending hrequester hcareful
      all_goals cases hstep
  | getResponse =>
      cases hrequester : s.requester <;>
        simp only [mailboxStep, hrequester] at hstep
      case answered =>
        cases hstep
        exact h.getResponse hrequester
      all_goals cases hstep
  | renameProfile faceId faceName =>
      simp only [mailboxStep] at hstep
      by_cases hkind : kind = .interactive
      · rw [if_pos hkind] at hstep
        cases hstep
        exact h.congr (h.phase.congr rfl rfl rfl rfl rfl) rfl rfl rfl rfl rfl
          rfl h.exits h.stops
      · rw [if_neg hkind] at hstep
        cases hstep
  | takeCommand =>
      cases hmain : s.main <;> simp only [mailboxStep, hmain] at hstep
      case idle =>
        cases hstep
        exact h.takeCommand hmain
      all_goals cases hstep
  | readFaceId =>
      cases hmain : s.main <;> simp only [mailboxStep, hmain] at hstep
      case took cmd =>
        cases cmd <;> simp only at hstep
        case updateFaceProfile =>
          cases hstep
          exact h.readFaceId hmain
        all_goals cases hstep
      all_goals cases hstep
  | execute result =>
      cases hmain : s.main <;> simp only [mailboxStep, hmain] at hstep
      case took cmd => exact h.executeCmd hmain hstep
      case updating faceId =>
        cases hstep
        exact h.executeUpdate hmain
      all_goals cases hstep
  | publish =>
      cases hmain : s.main <;> simp only [mailboxStep, hmain] at hstep
      case executed cmd retCode =>
        cases hstep
        exact h.publishResponse hmain
      all_goals cases hstep
  | quit =>
      cases hstep
      exact h.congr (h.phase.congr rfl rfl rfl rfl rfl) rfl rfl rfl rfl rfl rfl
        (fun _ _ => rfl) (fun hstopped => ⟨rfl, (h.stops hstopped).2⟩)

end Steps

/-!
## The theorem
-/

section Delivery

variable {kind : RequesterKind} {s : Mailbox}

/-- What is published is what was sent, up to the command in flight. -/
theorem Phase.published_prefix (h : Phase s) :
    exists later, s.sent.map KtAppRequest.cmd =
      s.published.map KtAppResponse.cmd ++ later := by
  cases h with
  | settled main pending executed published last =>
      exact ⟨[], by rw [published, List.append_nil]⟩
  | inFlight front sent pending published progress =>
      refine ⟨[s.shmem.request.cmd], ?_⟩
      rw [sent, published, List.map_append]
      rfl

theorem Invariant.delivered (h : Invariant kind s) : Delivered s := by
  have hexecuted : (s.executed = s.sent.map KtAppRequest.execution) ∨
      exists front, s.sent = front ++ [s.shmem.request] ∧
        s.shmem.cmdPending = true ∧
        s.executed = front.map KtAppRequest.execution := by
    cases h.phase with
    | settled main pending executed published last =>
        exact Or.inl executed
    | inFlight front sent pending published progress =>
        rcases progress with ⟨-, hexec⟩ | ⟨-, hexec⟩ | ⟨-, -, hexec⟩ |
          ⟨_, -, hexec⟩
        · exact Or.inr ⟨front, sent, pending, hexec⟩
        · exact Or.inr ⟨front, sent, pending, hexec⟩
        · exact Or.inr ⟨front, sent, pending, hexec⟩
        · exact Or.inl hexec
  constructor
  · rcases hexecuted with hexec | ⟨front, sent, -, hexec⟩
    · rw [hexec, List.length_map, List.take_length]
    · rw [hexec, sent, List.length_map, List.take_left]
  · rcases hexecuted with hexec | ⟨front, sent, -, hexec⟩
    · rw [hexec, List.length_map]
      exact Nat.le_succ _
    · rw [hexec, sent, List.length_map, List.length_append]
      exact le_refl _
  · intro hpending
    rcases hexecuted with hexec | ⟨front, sent, pending, hexec⟩
    · rw [hexec, List.length_map]
    · rw [hpending] at pending
      cases pending
  · intro n response hmem
    have hpublished := h.picked n response hmem
    refine ⟨hpublished, ?_⟩
    rcases h.phase.published_prefix with ⟨later, hprefix⟩
    have hlt : n < (s.published.map KtAppResponse.cmd).length := by
      rw [List.length_map]
      exact (List.getElem?_eq_some_iff.mp hpublished).1
    rw [← List.getElem?_map, hprefix, List.getElem?_append_left hlt,
      List.getElem?_map, hpublished]
    rfl

theorem canFinish_settled (hpending : s.shmem.cmdPending = false)
    (hexec : s.executed = s.sent.map KtAppRequest.execution) :
    CanFinish kind s :=
  ⟨[], s, by simp, rfl, rfl, hpending, hexec⟩

theorem CanFinish.cons {s' : Mailbox} {action : MailboxAction}
    (hmain : action.ofMain = true)
    (hstep : mailboxStep kind s action = some s') (hsent : s'.sent = s.sent)
    (h : CanFinish kind s') : CanFinish kind s := by
  rcases h with ⟨actions, last, hactions, hrun, hlast, hpending, hexec⟩
  refine ⟨action :: actions, last, ?_, ?_, hlast.trans hsent, hpending,
    by rw [hexec, hsent]⟩
  · intro a ha
    rcases List.mem_cons.mp ha with rfl | ha
    · exact hmain
    · exact hactions a ha
  · rw [runActions, hstep]
    exact hrun

theorem Invariant.canFinish_executed (h : Invariant kind s) {cmd : KtAppCmd}
    {retCode : Int} (hmain : s.main = .executed cmd retCode) :
    CanFinish kind s := by
  have hstep : mailboxStep kind s .publish =
      some (s.publishResponse cmd retCode) := by
    simp only [mailboxStep, hmain]
  have hnext := h.publishResponse hmain
  cases hnext.phase with
  | settled main pending executed published last =>
      exact .cons rfl hstep rfl (canFinish_settled pending executed)
  | inFlight front sent pending published progress =>
      cases pending

theorem Invariant.canFinish_updating (h : Invariant kind s) {faceId : UInt32}
    (hmain : s.main = .updating faceId) : CanFinish kind s := by
  have hstep : mailboxStep kind s (.execute ⟨0, 0, 0⟩) =
      some (s.executeUpdate faceId) := by
    simp only [mailboxStep, hmain]
  exact .cons rfl hstep rfl ((h.executeUpdate hmain).canFinish_executed rfl)

theorem Mailbox.executeCmd_isSome {cmd : KtAppCmd} (result : KtLibResult)
    (h : cmd ≠ .updateFaceProfile) :
    exists s', s.executeCmd cmd result = some s' := by
  cases cmd
  case updateFaceProfile => exact absurd rfl h
  all_goals exact ⟨_, rfl⟩

theorem Invariant.canFinish_took (h : Invariant kind s) {cmd : KtAppCmd}
    (hmain : s.main = .took cmd) : CanFinish kind s := by
  by_cases hupdate : cmd = .updateFaceProfile
  · subst hupdate
    have hstep : mailboxStep kind s .readFaceId =
        some { s with main := .updating s.shmem.request.faceId } := by
      simp only [mailboxStep, hmain]
    exact .cons rfl hstep rfl ((h.readFaceId hmain).canFinish_updating rfl)
  · rcases Mailbox.executeCmd_isSome (s := s) ⟨0, 0, 0⟩ hupdate
      with ⟨s', hexecute⟩
    have hstep : mailboxStep kind s (.execute ⟨0, 0, 0⟩) = some s' := by
      simp only [mailboxStep, hmain, hexecute]
    have hnext := h.executeCmd hmain hexecute
    rcases Mailbox.executeCmd_cases hexecute
      with ⟨-, shmem, shouldExit, faceDb, retCode, -, -, -, rfl⟩
    exact .cons rfl hstep rfl (hnext.canFinish_executed rfl)

theorem Invariant.canFinish (h : Invariant kind s) : CanFinish kind s := by
  cases h.phase with
  | settled main pending executed published last =>
      exact canFinish_settled pending executed
  | inFlight front sent pending published progress =>
      rcases progress with ⟨hmain, -⟩ | ⟨hmain, -⟩ | ⟨hmain, -⟩ |
        ⟨retCode, hmain, -⟩
      · have hstep : mailboxStep kind s .takeCommand =
            some { s with
              main := if s.shmem.cmdPending then .took s.shmem.request.cmd
                else .idle } := by
          simp only [mailboxStep, hmain]
        exact .cons rfl hstep rfl
          ((h.takeCommand hmain).canFinish_took (if_pos pending))
      · exact h.canFinish_took hmain
      · exact h.canFinish_updating hmain
      · exact h.canFinish_executed hmain

end Delivery

/-- In a run whose steps are all careful, every request is executed exactly
once with its own payload, the main thread can always finish what was sent, and
what is picked up is the response to the command that was waited for. -/
theorem mailbox_delivers (kind : RequesterKind) {s : Mailbox} (hs : Started s)
    (actions : List MailboxAction)
    (hcareful : RunMeets (mailboxStep kind) (Careful kind) s actions) :
    forall s', s' ∈ reachedStates (mailboxStep kind) s actions ->
      Delivered s' ∧ CanFinish kind s' := by
  have hstart : Invariant kind s := hs.invariant
  have hinv := reachedStates_of_meets
    (fun _ _ _ h hgood hstep => mailboxStep_invariant h hgood hstep)
    hstart actions hcareful
  intro s' hmem
  exact ⟨(hinv s' hmem).delivered, (hinv s' hmem).canFinish⟩

/-- The threads behind the initialisation, with nothing else in the memory they
share. -/
def startMailbox : Mailbox :=
  { shmem :=
      { request := { cmd := .none, faceId := 0, faceName := [] }
        response :=
          { cmd := .none, retCode := ktAppRetCodePending, payload := .unset }
        cmdPending := false }
    shouldExit := false
    faceDb := { profiles := [], count_le := by decide }
    main := .idle
    requester := .ready
    sent := []
    executed := []
    published := []
    picked := [] }

theorem startMailbox_started : Started startMailbox :=
  ⟨rfl, rfl, rfl, rfl, rfl, rfl, rfl, rfl⟩

/-- A face identifier is generated and, once that is done, the new profile is
renamed. -/
def generateThenRename : List MailboxAction :=
  [.loopHead, .sendRequest ⟨.generateFaceIdAsync, 0, []⟩, .takeCommand,
    .execute ⟨0, 5, 0⟩, .publish, .loopHead,
    .sendRequest ⟨.updateFaceProfile, 5, [65, 0]⟩, .lookAtPending, .takeCommand,
    .readFaceId, .execute ⟨0, 0, 0⟩, .lookAtPending, .publish, .lookAtPending,
    .getResponse]

theorem mailbox_delivers_rename :
    exists s', s' ∈ reachedStates (mailboxStep .ipc) startMailbox
        generateThenRename ∧
      s'.picked.length = 1 ∧ Delivered s' ∧ CanFinish .ipc s' := by
  have hlength : 14 < (reachedStates (mailboxStep .ipc) startMailbox
      generateThenRename).length := by
    decide +kernel
  have hpicked : (reachedStates (mailboxStep .ipc) startMailbox
      generateThenRename)[14].picked.length = 1 := by
    decide +kernel +revert
  have hlast := List.getElem_mem hlength
  exact ⟨_, hlast, hpicked,
    mailbox_delivers .ipc startMailbox_started generateThenRename
      (by decide +kernel) _ hlast⟩

/-- The update is sent right behind the command that is not waited for.  It
takes the place of a command that was never read. -/
theorem mailbox_overwrites :
    ¬ forall s', s' ∈ reachedStates (mailboxStep .ipc) startMailbox
        [.loopHead, .sendRequest ⟨.generateFaceIdAsync, 0, []⟩, .loopHead,
          .sendRequest ⟨.updateFaceProfile, 5, [65, 0]⟩] ->
      Delivered s' := by
  intro h
  have hmem := List.getElem_mem (n := 3)
    (show 3 < (reachedStates (mailboxStep .ipc) startMailbox
      [.loopHead, .sendRequest ⟨.generateFaceIdAsync, 0, []⟩, .loopHead,
        .sendRequest ⟨.updateFaceProfile, 5, [65, 0]⟩]).length by
      decide +kernel)
  exact absurd (h _ hmem).not_overwritten (by decide +kernel)

end KtApp
end GardHub
