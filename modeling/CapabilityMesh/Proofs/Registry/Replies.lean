/-
What the network replies in the end.  A request may be redirected, and what counts is the
reply at which that ends.  Which reply this is follows from the replies to the requests one
by one, whatever an agent makes of them; there is exactly one, and it is the one that an
agent gets to see.
-/
import CapabilityMesh.Proofs.Text.Utf8
import CapabilityMesh.Registry.Http

namespace CapabilityMesh

/-- No mark begins with a byte that is a character of its own. -/
theorem Encoding.sniff_ascii (named : Encoding) {b : UInt8} (hb : b.toNat < 0x80)
    (rest : List UInt8) : sniff named (b :: rest) = named (b :: rest) := by
  have hmark : ofMark? (b :: rest) = none := by
    rw [ofMark?]
    all_goals
      intro _ hbytes
      obtain ⟨rfl, -⟩ := List.cons.inj hbytes
      exact absurd hb (by decide)
  rw [sniff, hmark]

/-- A text in UTF-8 comes back if it begins with a character that takes one byte. -/
theorem Network.text_utf8 {net : Network} {answer : HttpAnswer} {c : Char} {cs : List Char}
    (hnamed : (answer.contentType.bind net.encoding?).getD .utf8 = .utf8)
    (hc : c.toNat < 0x80) (hbody : answer.body = Text.utf8 (c :: cs)) :
    net.text answer = String.ofList (c :: cs) := by
  have hhead : Text.utf8 (c :: cs) = c.toNat.toUInt8 :: Text.utf8 cs := by
    rw [Text.utf8, List.flatMap_cons, Text.utf8OfChar, if_pos hc]
    rfl
  have hbyte : c.toNat.toUInt8.toNat < 0x80 := by
    rw [Text.toNat_toUInt8 (by omega)]
    exact hc
  rw [text, hnamed, hbody, hhead, Encoding.sniff_ascii _ hbyte, ← hhead]
  exact Text.ofUtf8Lossy_utf8 (c :: cs)

namespace HttpReply

/-- The request that follows if a reply redirects the one that it is the reply to. -/
def next? (request : HttpRequest) : HttpReply → Option HttpRequest
  | .answer found => HttpRegistry.redirect? request found
  | _ => none

/-- A reply as the result of a call. -/
def outcome : HttpReply → Except MeshError HttpAnswer
  | .undelivered reason => .error (.transport reason)
  | .lost reason => .error (.transport reason)
  | .answer found => .ok found

end HttpReply

namespace Network

/-- The reply to one request.  None is sent to an address of a kind that is not supported. -/
def replyTo (net : Network) (sent : Nat) (request : HttpRequest) : HttpReply :=
  if request.url.isWeb then net.reply sent request else .undelivered "unsupported scheme"

/-- What the network replies in the end to a request, of a call that has sent a number of
requests before, if it may be redirected as many times as there is fuel. -/
inductive Meets (net : Network) : Nat → Nat → HttpRequest → HttpReply → Prop where
  | last {fuel sent : Nat} {request : HttpRequest}
      (hlast : (net.replyTo sent request).next? request = none) :
      Meets net fuel sent request (net.replyTo sent request)
  /-- A redirection too many counts as no answer. -/
  | exhausted {sent : Nat} {request next : HttpRequest}
      (hnext : (net.replyTo sent request).next? request = some next) :
      Meets net 0 sent request (.lost "too many redirects")
  | redirected {fuel sent : Nat} {request next : HttpRequest} {reply : HttpReply}
      (hnext : (net.replyTo sent request).next? request = some next)
      (hrest : Meets net fuel (sent + 1) next reply) :
      Meets net (fuel + 1) sent request reply

theorem exists_meets (net : Network) (fuel sent : Nat) (request : HttpRequest) :
    ∃ reply, net.Meets fuel sent request reply := by
  induction fuel generalizing sent request with
  | zero =>
      cases hnext : (net.replyTo sent request).next? request with
      | none => exact ⟨_, .last hnext⟩
      | some next => exact ⟨_, .exhausted hnext⟩
  | succ fuel ih =>
      cases hnext : (net.replyTo sent request).next? request with
      | none => exact ⟨_, .last hnext⟩
      | some next =>
          obtain ⟨reply, hreply⟩ := ih (sent + 1) next
          exact ⟨reply, .redirected hnext hreply⟩

section Following

variable {net : Network} {fuel sent : Nat} {request next : HttpRequest} {reply : HttpReply}

theorem Meets.unique (hmeets : net.Meets fuel sent request reply) {other : HttpReply}
    (hother : net.Meets fuel sent request other) : other = reply := by
  induction hmeets with
  | last hlast =>
      cases hother with
      | last => rfl
      | exhausted hnext | redirected hnext =>
          rw [hlast] at hnext
          cases hnext
  | exhausted hnext =>
      cases hother with
      | last hlast =>
          rw [hlast] at hnext
          cases hnext
      | exhausted => rfl
  | redirected hnext hrest ih =>
      cases hother with
      | last hlast =>
          rw [hlast] at hnext
          cases hnext
      | redirected hsame hother =>
          obtain rfl := Option.some.inj (hnext.symm.trans hsame)
          exact ih hother

theorem result_follow_last (hlast : (net.replyTo sent request).next? request = none) :
    (HttpRegistry.follow net fuel sent request).result = (net.replyTo sent request).outcome := by
  unfold HttpRegistry.follow
  cases hweb : request.url.isWeb with
  | false => simp [replyTo, hweb, HttpReply.outcome]
  | true =>
      rw [replyTo, if_pos hweb] at hlast ⊢
      cases hreply : net.reply sent request with
      | undelivered reason | lost reason => rfl
      | answer answer =>
          rw [hreply] at hlast
          simp only [HttpReply.next?] at hlast
          simp [hlast, HttpReply.outcome]

theorem answer_of_next? (hnext : (net.replyTo sent request).next? request = some next) :
    request.url.isWeb = true ∧ ∃ answer, net.reply sent request = .answer answer ∧
      HttpRegistry.redirect? request answer = some next := by
  cases hweb : request.url.isWeb with
  | false => simp [replyTo, hweb, HttpReply.next?] at hnext
  | true =>
      rw [replyTo, if_pos hweb] at hnext
      cases hreply : net.reply sent request with
      | undelivered reason | lost reason => simp [hreply, HttpReply.next?] at hnext
      | answer answer =>
          rw [hreply, HttpReply.next?] at hnext
          exact ⟨rfl, answer, rfl, hnext⟩

theorem result_follow_exhausted
    (hnext : (net.replyTo sent request).next? request = some next) :
    (HttpRegistry.follow net 0 sent request).result =
      .error (.transport "too many redirects") := by
  obtain ⟨hweb, answer, hreply, hredirect⟩ := answer_of_next? hnext
  simp [HttpRegistry.follow, hweb, hreply, hredirect]

theorem result_follow_redirected
    (hnext : (net.replyTo sent request).next? request = some next) :
    (HttpRegistry.follow net (fuel + 1) sent request).result =
      (HttpRegistry.follow net fuel (sent + 1) next).result := by
  obtain ⟨hweb, answer, hreply, hredirect⟩ := answer_of_next? hnext
  rw [HttpRegistry.follow]
  simp [hweb, hreply, hredirect]

/-- Following redirections ends with the reply that is met. -/
theorem Meets.result_follow (hmeets : net.Meets fuel sent request reply) :
    (HttpRegistry.follow net fuel sent request).result = reply.outcome := by
  induction hmeets with
  | last hlast => exact result_follow_last hlast
  | exhausted hnext => exact result_follow_exhausted hnext
  | redirected hnext _ ih => rw [result_follow_redirected hnext, ih]

end Following

end Network

namespace HttpRegistry

/-- What the network replies in the end to a declaration that is sent to a path below the
base address.  It is not sent if there is no such address. -/
inductive Replied (r : HttpRegistry) (net : Network) (path : String)
    (request : RegistrationRequest) : HttpReply → Prop where
  | nowhere {fault : UrlFault} (hurl : Url.parse (r.baseUrl ++ path) = .error fault) :
      Replied r net path request (.undelivered fault.message)
  | met {url : Url} {reply : HttpReply} (hurl : Url.parse (r.baseUrl ++ path) = .ok url)
      (hmeets : net.Meets 10 0
        ⟨.post, url, some "application/json", request.toJson⟩ reply) :
      Replied r net path request reply

section Declarations

variable {r : HttpRegistry} {net : Network} {path : String} {request : RegistrationRequest}

theorem exists_replied (r : HttpRegistry) (net : Network) (path : String)
    (request : RegistrationRequest) : ∃ reply, r.Replied net path request reply := by
  cases hurl : Url.parse (r.baseUrl ++ path) with
  | error fault => exact ⟨_, .nowhere hurl⟩
  | ok url =>
      obtain ⟨reply, hmeets⟩ := net.exists_meets 10 0
        ⟨.post, url, some "application/json", request.toJson⟩
      exact ⟨reply, .met hurl hmeets⟩

theorem Replied.unique {reply other : HttpReply} (hreplied : r.Replied net path request reply)
    (hother : r.Replied net path request other) : other = reply := by
  cases hreplied with
  | nowhere hurl =>
      cases hother with
      | nowhere hsame =>
          obtain rfl := Except.error.inj (hurl.symm.trans hsame)
          rfl
      | met hread =>
          rw [hurl] at hread
          cases hread
  | met hurl hmeets =>
      cases hother with
      | nowhere hread =>
          rw [hurl] at hread
          cases hread
      | met hsame hother =>
          obtain rfl := Except.ok.inj (hurl.symm.trans hsame)
          exact hmeets.unique hother

theorem Replied.iff_eq {reply : HttpReply} (hreplied : r.Replied net path request reply)
    (other : HttpReply) : r.Replied net path request other ↔ other = reply := by
  constructor
  · exact hreplied.unique
  · rintro rfl
    exact hreplied

/-- What an agent makes of a declaration is what it makes of the network's reply. -/
theorem Replied.result_postDeclaration {reply : HttpReply}
    (hreplied : r.Replied net path request reply) :
    (r.postDeclaration net path request).result =
      reply.outcome.bind (readDeclarationAnswer net) := by
  rw [postDeclaration, send]
  cases hreplied with
  | nowhere hurl =>
      rw [hurl]
      rfl
  | met hurl hmeets =>
      rw [hurl]
      dsimp only
      rw [hmeets.result_follow]

end Declarations

end HttpRegistry

end CapabilityMesh
