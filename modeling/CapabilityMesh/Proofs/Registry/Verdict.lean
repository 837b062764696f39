/-
What an agent makes of the reply to a declaration.  Every reply is of one of eight sorts,
whatever its status and its body.  The sort decides the result of the call, and the result
decides how the registration or the heartbeat ends that made the call.
-/
import CapabilityMesh.Proofs.Agent.Fruitless
import CapabilityMesh.Proofs.Registry.Replies
import CapabilityMesh.Proofs.Wire.RoundTrip

namespace CapabilityMesh

namespace RegistrationResponse

/-- Every dependency that an answer marks as resolved comes with its provider. -/
def NamesProviders (response : RegistrationResponse) : Prop :=
  ∀ f ∈ response.functions, ∀ d ∈ f.dependencies, d.status = .resolved → d.provider ≠ none

/-- An answer has bindings exactly if it names the provider of each resolved dependency. -/
theorem bindings_ok_iff (response : RegistrationResponse) :
    (∃ b, response.bindings = .ok b) ↔ response.NamesProviders := by
  have hfail := response.bindings_fail_iff
  cases hbindings : response.bindings with
  | error e =>
      obtain ⟨f, hf, d, hd, hresolved, hnone⟩ := hfail.mp ⟨e, hbindings⟩
      exact iff_of_false nofun fun hnames => hnames f hf d hd hresolved hnone
  | ok b =>
      refine iff_of_true ⟨b, rfl⟩ ?_
      intro f hf d hd hresolved hnone
      obtain ⟨e, he⟩ := hfail.mpr ⟨f, hf, d, hd, hresolved, hnone⟩
      rw [hbindings] at he
      cases he

end RegistrationResponse

/-- How a heartbeat that may be tried again reports an error. -/
def MeshError.standing : MeshError → HeartbeatStatus
  | transport _ => .networkError
  | _ => .registryError

namespace Agent

/-- Errors that may pass degrade the agent, and all others are breaches of the protocol. -/
theorem onError_outcome (a : Agent) (h : Heap) (e : MeshError) :
    (a.onError h e).2.2 =
      if e.isRetryable then .degraded e.standing a.failed.state.failures a.drops
      else .contractViolation e.message := by
  unfold onError
  split
  · have hfail : ∀ status reason, (a.fail h status reason).2.2 =
        .degraded status a.failed.state.failures a.drops := by
      intro status reason
      obtain ⟨later, -, heq⟩ := a.fail_spec h status reason
      rw [heq]
    rw [hfail]
    cases e <;> rfl
  · rfl

theorem afterHeartbeat_refused (a : Agent) (h : Heap) (now : Timestamp) (force : Bool)
    {answer : Except MeshError RegistrationResponse} {e : MeshError}
    (he : bindingsOf answer = .error e) :
    (a.afterHeartbeat h now force answer).2.2 =
      .ended (if e.isRetryable then .degraded e.standing a.failed.state.failures a.drops
        else .contractViolation e.message) := by
  rw [a.afterHeartbeat_error h now force he, onError_outcome]

end Agent

namespace HttpRegistry

/-- No answer came, or its body broke off. -/
def IsUnread (reply : HttpReply) : Prop :=
  ∀ answer, reply = .answer answer → answer.isComplete = false

/-- The registry failed, or answered that it did not accept. -/
def IsFailure (net : Network) (reply : HttpReply) : Prop :=
  ∃ answer, reply = .answer answer ∧ answer.isComplete = true ∧
    (isServerError answer.status = true ∨
      isSuccess answer.status = true ∧
        ∃ response, RegistrationResponse.ofJson (net.text answer) = .ok response ∧
          response.status ≠ "success")

/-- The registry accepted, and sent what it has to send. -/
def Accepts (net : Network) (reply : HttpReply) (response : RegistrationResponse) : Prop :=
  ∃ answer, reply = .answer answer ∧ answer.isComplete = true ∧
    isSuccess answer.status = true ∧
    RegistrationResponse.ofJson (net.text answer) = .ok response ∧
    response.status = "success"

/-- The sorts of replies, each with the result of the call. -/
inductive Sorted (net : Network) :
    HttpReply → Except MeshError RegistrationResponse → Prop where
  | undelivered (reason : String) :
      Sorted net (.undelivered reason) (.error (.transport reason))
  | lost (reason : String) : Sorted net (.lost reason) (.error (.transport reason))
  | brokenOff (reason : String) {answer : HttpAnswer} (hbroken : answer.isComplete = false) :
      Sorted net (.answer answer) (.error (.transport reason))
  | failing (reason : String) {answer : HttpAnswer} (hcomplete : answer.isComplete = true)
      (hstatus : isServerError answer.status = true) :
      Sorted net (.answer answer) (.error (.registry answer.status reason))
  | unexpected {answer : HttpAnswer} (hcomplete : answer.isComplete = true)
      (hserver : isServerError answer.status = false)
      (hstatus : isSuccess answer.status = false) :
      Sorted net (.answer answer) (.error (.unexpectedStatus answer.status))
  | malformed (reason : String) {answer : HttpAnswer} {fault : Json.Fault}
      (hcomplete : answer.isComplete = true) (hstatus : isSuccess answer.status = true)
      (hbody : RegistrationResponse.ofJson (net.text answer) = .error fault) :
      Sorted net (.answer answer) (.error (.contractViolation reason))
  | rejected (reason : String) {answer : HttpAnswer} {response : RegistrationResponse}
      (hcomplete : answer.isComplete = true) (hstatus : isSuccess answer.status = true)
      (hbody : RegistrationResponse.ofJson (net.text answer) = .ok response)
      (hword : response.status ≠ "success") :
      Sorted net (.answer answer) (.error (.rejected reason))
  | accepted {answer : HttpAnswer} {response : RegistrationResponse}
      (hcomplete : answer.isComplete = true) (hstatus : isSuccess answer.status = true)
      (hbody : RegistrationResponse.ofJson (net.text answer) = .ok response)
      (hword : response.status = "success") :
      Sorted net (.answer answer) (.ok response)

theorem isSuccess_of_isServerError {status : Nat} (hserver : isServerError status = true) :
    isSuccess status = false := by
  simp only [isServerError, isSuccess, Bool.and_eq_true, decide_eq_true_eq,
    Bool.and_eq_false_iff, decide_eq_false_iff_not] at *
  omega

theorem isServerError_of_isSuccess {status : Nat} (hstatus : isSuccess status = true) :
    isServerError status = false := by
  rw [Bool.eq_false_iff]
  intro hserver
  rw [isSuccess_of_isServerError hserver] at hstatus
  cases hstatus

theorem readDeclarationAnswer_sorted (net : Network) (answer : HttpAnswer) :
    Sorted net (.answer answer) (readDeclarationAnswer net answer) := by
  simp only [readDeclarationAnswer]
  split
  · rename_i hbroken
    exact .brokenOff _ (by simpa using hbroken)
  · rename_i hcomplete
    have hcomplete : answer.isComplete = true := by simpa using hcomplete
    split
    · rename_i hserver
      exact .failing _ hcomplete hserver
    · rename_i hserver
      split
      · rename_i hstatus
        exact .unexpected hcomplete (by simpa using hserver) (by simpa using hstatus)
      · rename_i hstatus
        have hstatus : isSuccess answer.status = true := by simpa using hstatus
        rw [RegistrationResponse.parse]
        split
        · rename_i fault hbody
          exact .malformed _ hcomplete hstatus hbody
        · rename_i response hbody
          split
          · rename_i hword
            exact .accepted hcomplete hstatus hbody
              (by simpa [RegistrationResponse.isSuccess] using hword)
          · rename_i hword
            exact .rejected _ hcomplete hstatus hbody
              (by simpa [RegistrationResponse.isSuccess] using hword)

theorem outcome_sorted (net : Network) (reply : HttpReply) :
    Sorted net reply (reply.outcome.bind (readDeclarationAnswer net)) := by
  cases reply with
  | undelivered reason => exact .undelivered reason
  | lost reason => exact .lost reason
  | answer answer => exact readDeclarationAnswer_sorted net answer

/-- What a reply means for the result of a call and for the operation that made it. -/
structure Settles (net : Network) (reply : HttpReply)
    (result : Except MeshError RegistrationResponse) (move : AgentMove) : Prop where
  accepted : ∀ response, result = .ok response ↔ Accepts net reply response
  refused : ∀ e, result = .error e → (e.isRetryable ^^ e.isContractViolation) = true
  networkError : (∃ failures dropped,
    move = .ended (.degraded .networkError failures dropped)) ↔ IsUnread reply
  registryError : (∃ failures dropped,
    move = .ended (.degraded .registryError failures dropped)) ↔ IsFailure net reply
  reconciled : (∃ changed, move = .ended (.reconciled changed)) ↔
    ∃ response, result = .ok response ∧ response.NamesProviders
  violated : (∃ message, move = .ended (.contractViolation message)) ↔
    ¬ IsUnread reply ∧ ¬ IsFailure net reply ∧
      ¬ ∃ response, result = .ok response ∧ response.NamesProviders

section Answers

variable {net : Network} {answer : HttpAnswer} {response : RegistrationResponse}

theorem isUnread_answer : IsUnread (.answer answer) ↔ answer.isComplete = false := by
  simp [IsUnread]

theorem isFailure_answer : IsFailure net (.answer answer) ↔ answer.isComplete = true ∧
    (isServerError answer.status = true ∨
      isSuccess answer.status = true ∧
        ∃ response, RegistrationResponse.ofJson (net.text answer) = .ok response ∧
          response.status ≠ "success") := by
  simp [IsFailure]

theorem accepts_answer : Accepts net (.answer answer) response ↔ answer.isComplete = true ∧
    isSuccess answer.status = true ∧
    RegistrationResponse.ofJson (net.text answer) = .ok response ∧
    response.status = "success" := by
  simp [Accepts]

theorem accepts_written (hcomplete : answer.isComplete = true)
    (hstatus : isSuccess answer.status = true)
    (hnamed : (answer.contentType.bind net.encoding?).getD .utf8 = .utf8)
    (hbody : answer.body = Text.utf8 response.toJson.toList)
    (hword : response.status = "success") : Accepts net (.answer answer) response := by
  have hwrite : response.toJson.toList = response.write := String.toList_ofList
  have htext : net.text answer = response.toJson :=
    Network.text_utf8 hnamed (by decide) (hbody.trans (congrArg Text.utf8 hwrite))
  rw [accepts_answer, htext]
  exact ⟨hcomplete, hstatus, response.ofJson_toJson, hword⟩

end Answers

/-- An error settles an operation if the reply is unread exactly where the error tells of
the network, and a failure exactly where it tells of the registry. -/
theorem settles_error (a : Agent) (h : Heap) (now : Timestamp) (force : Bool)
    {net : Network} {reply : HttpReply} {e : MeshError}
    (hrefused : (e.isRetryable ^^ e.isContractViolation) = true)
    (haccepts : ∀ response, ¬ Accepts net reply response)
    (hunread : IsUnread reply ↔ e.isRetryable = true ∧ e.standing = .networkError)
    (hfailure : IsFailure net reply ↔ e.isRetryable = true ∧ e.standing = .registryError) :
    Settles net reply (.error e) (a.afterHeartbeat h now force (.error e)).2.2 := by
  have hbindings : Agent.bindingsOf (.error e) = .error e := rfl
  rw [a.afterHeartbeat_refused h now force hbindings]
  constructor
  case accepted =>
    intro response
    simpa using haccepts response
  case refused =>
    intro first hfirst
    rwa [← Except.error.inj hfirst]
  case networkError =>
    rw [hunread]
    cases e.isRetryable <;> simp
  case registryError =>
    rw [hfailure]
    cases e.isRetryable <;> simp
  case reconciled => cases e.isRetryable <;> simp
  case violated =>
    rw [hunread, hfailure]
    have hstanding : e.standing = .networkError ∨ e.standing = .registryError := by
      cases e <;> simp [MeshError.standing]
    cases e.isRetryable with
    | false => simp
    | true => rcases hstanding with hsame | hsame <;> simp [hsame]

theorem settles_accepted (a : Agent) (h : Heap) (now : Timestamp) (force : Bool)
    {net : Network} {answer : HttpAnswer} {response : RegistrationResponse}
    (hcomplete : answer.isComplete = true) (hstatus : isSuccess answer.status = true)
    (hbody : RegistrationResponse.ofJson (net.text answer) = .ok response)
    (hword : response.status = "success") :
    Settles net (.answer answer) (.ok response) (a.afterHeartbeat h now force (.ok response)).2.2 := by
  have hserver := isServerError_of_isSuccess hstatus
  have hunread : ¬ IsUnread (.answer answer) := by simp [isUnread_answer, hcomplete]
  have hfailure : ¬ IsFailure net (.answer answer) := by
    simp [isFailure_answer, hserver, hbody, hword]
  have haccepts : ∀ other, .ok response = (.ok other : Except MeshError _) ↔
      Accepts net (.answer answer) other := by
    intro other
    simp only [accepts_answer, hcomplete, hstatus, hbody, Except.ok.injEq, true_and]
    constructor
    · rintro rfl
      exact ⟨rfl, hword⟩
    · exact And.left
  cases hbindings : response.bindings with
  | ok b =>
      have hnames := response.bindings_ok_iff.mp ⟨b, hbindings⟩
      have hanswer : Agent.bindingsOf (.ok response) = .ok b := hbindings
      obtain ⟨later, -, hmove⟩ := a.afterHeartbeat_ok h now force hanswer
      rw [hmove]
      exact {
        accepted := haccepts
        refused := by simp
        networkError := by simp [hunread]
        registryError := by simp [hfailure]
        reconciled := by simp [hnames]
        violated := by simp [hnames] }
  | error e =>
      have hnames : ¬ response.NamesProviders := by
        rw [← response.bindings_ok_iff, hbindings]
        simp
      have hfinal := RegistrationResponse.bindings_final hbindings
      have hanswer : Agent.bindingsOf (.ok response) = .error e := hbindings
      rw [a.afterHeartbeat_refused h now force hanswer, hfinal]
      exact {
        accepted := haccepts
        refused := by simp
        networkError := by simp [hunread]
        registryError := by simp [hfailure]
        reconciled := by simp [hnames]
        violated := by simp [hunread, hfailure, hnames] }

theorem Sorted.settles {net : Network} {reply : HttpReply}
    {result : Except MeshError RegistrationResponse} (hsorted : Sorted net reply result)
    (a : Agent) (h : Heap) (now : Timestamp) (force : Bool) :
    Settles net reply result (a.afterHeartbeat h now force result).2.2 := by
  cases hsorted with
  | undelivered reason | lost reason =>
      apply settles_error
      · rfl
      · simp [Accepts]
      · simp [IsUnread, MeshError.isRetryable, MeshError.standing]
      · simp [IsFailure, MeshError.standing]
  | brokenOff reason hbroken =>
      apply settles_error
      · rfl
      · simp [accepts_answer, hbroken]
      · simp [isUnread_answer, hbroken, MeshError.isRetryable, MeshError.standing]
      · simp [isFailure_answer, hbroken, MeshError.standing]
  | failing reason hcomplete hserver =>
      apply settles_error
      · rfl
      · simp [accepts_answer, isSuccess_of_isServerError hserver]
      · simp [isUnread_answer, hcomplete, MeshError.standing]
      · simp [isFailure_answer, hcomplete, hserver, MeshError.isRetryable, MeshError.standing]
  | unexpected hcomplete hserver hstatus =>
      apply settles_error
      · rfl
      · simp [accepts_answer, hstatus]
      · simp [isUnread_answer, hcomplete, MeshError.standing]
      · simp [isFailure_answer, hserver, hstatus, MeshError.isRetryable]
  | malformed reason hcomplete hstatus hbody =>
      have hserver := isServerError_of_isSuccess hstatus
      apply settles_error
      · rfl
      · simp [accepts_answer, hbody]
      · simp [isUnread_answer, hcomplete, MeshError.standing]
      · simp [isFailure_answer, hserver, hbody, MeshError.isRetryable]
  | rejected reason hcomplete hstatus hbody hword =>
      apply settles_error
      · rfl
      · intro other
        simp only [accepts_answer, hbody, Except.ok.injEq]
        rintro ⟨-, -, rfl, hsame⟩
        exact hword hsame
      · simp [isUnread_answer, hcomplete, MeshError.standing]
      · simp [isFailure_answer, hcomplete, hstatus, hbody, hword, MeshError.isRetryable,
          MeshError.standing]
  | accepted hcomplete hstatus hbody hword =>
      exact settles_accepted a h now force hcomplete hstatus hbody hword

/-- Whatever the network replies in the end to a declaration settles the operation that sent
it.  The result of the call is an answer only for a success whose body reads as one that
says "success", and an error may pass or is a breach of the protocol, never both.  The
operation is degraded for the network where no answer was read, degraded for the registry
where that failed or did not accept, reconciled where it accepted and named its providers,
and finds the protocol broken in every other case. -/
theorem reply_settles_operation (r : HttpRegistry) (net : Network)
    (request : RegistrationRequest) (a : Agent) (h : Heap) (now : Timestamp) :
    (∃ reply,
      (∀ other, r.Replied net "/agents/register_decorators" request other ↔ other = reply) ∧
        Settles net reply (r.register net request).result
          (a.afterRegister h now (r.register net request).result).2.2) ∧
      ∃ reply, (∀ other, r.Replied net "/heartbeat_decorators" request other ↔ other = reply) ∧
        ∀ force, Settles net reply (r.heartbeat net request).result
          (a.afterHeartbeat h now force (r.heartbeat net request).result).2.2 := by
  constructor
  · obtain ⟨reply, hreplied⟩ := r.exists_replied net "/agents/register_decorators" request
    refine ⟨reply, hreplied.iff_eq, ?_⟩
    obtain ⟨later, -, hregister⟩ := a.afterRegister_eq h now (r.register net request).result
    rw [hregister, register, hreplied.result_postDeclaration]
    exact (outcome_sorted net reply).settles a h now true
  · obtain ⟨reply, hreplied⟩ := r.exists_replied net "/heartbeat_decorators" request
    refine ⟨reply, hreplied.iff_eq, fun force => ?_⟩
    rw [heartbeat, hreplied.result_postDeclaration]
    exact (outcome_sorted net reply).settles a h now force

/-- An answer that accepts, with nothing to bind. -/
def acceptance : RegistrationResponse := ⟨"success", some "d\u00E9j\u00E0 \"vu\"", []⟩

def acceptingAnswer : HttpAnswer :=
  { status := 201
    contentType := some "application/json"
    body := Text.utf8 acceptance.toJson.toList }

/-- A registry that has moved, and accepts where it is now. -/
def movedRegistry : Network where
  reply sent _ :=
    if sent = 0 then .answer { status := 307, location := some "/v2/register" }
    else .answer acceptingAnswer
  encoding? _ := none

/-- An address on the same server. -/
def homeUrl (names : List String) : Url :=
  ⟨"http", "", "", some (.address6 [0, 0, 0, 0, 0, 0, 0, 1]), some 8000, .segments names,
    none, none⟩

theorem replied_movedRegistry (request : RegistrationRequest) :
    (ofAddress "http://[::1]:8000/").Replied movedRegistry "/agents/register_decorators"
      request (.answer acceptingAnswer) := by
  have hurl : Url.parse
      ((ofAddress "http://[::1]:8000/").baseUrl ++ "/agents/register_decorators") =
        .ok (homeUrl ["agents", "register_decorators"]) := by decide +kernel
  have hnext : redirect?
      ⟨.post, homeUrl ["agents", "register_decorators"], some "application/json", request.toJson⟩
        { status := 307, location := some "/v2/register" } =
      some ⟨.post, homeUrl ["v2", "register"], some "application/json", request.toJson⟩ := rfl
  exact .met hurl (.redirected hnext (.last rfl))

/-- The request of an agent without tools. -/
def bareRequest : RegistrationRequest := ⟨"a", ⟨0, 0⟩, ⟨"n", "1", "n", "e", []⟩⟩

/-- A registration goes through where the registry has moved. -/
theorem accepted_behind_redirection :
    ((ofAddress "http://[::1]:8000/").register movedRegistry bareRequest).result =
        .ok acceptance ∧
      ∃ changed, ((Agent.create AgentRun.sampleIdentity {}).afterRegister {} ⟨0, 0⟩
        ((ofAddress "http://[::1]:8000/").register movedRegistry bareRequest).result).2.2 =
          .ended (.reconciled changed) := by
  obtain ⟨⟨reply, hreply, hsettles⟩, -⟩ :=
    reply_settles_operation (ofAddress "http://[::1]:8000/") movedRegistry bareRequest
      (.create AgentRun.sampleIdentity {}) {} ⟨0, 0⟩
  obtain rfl := (hreply _).mp (replied_movedRegistry bareRequest)
  have haccepts : Accepts movedRegistry (.answer acceptingAnswer) acceptance :=
    accepts_written rfl rfl rfl rfl rfl
  have hresult := (hsettles.accepted acceptance).mpr haccepts
  refine ⟨hresult, hsettles.reconciled.mpr ⟨acceptance, hresult, ?_⟩⟩
  simp [RegistrationResponse.NamesProviders, acceptance]

end HttpRegistry

end CapabilityMesh
