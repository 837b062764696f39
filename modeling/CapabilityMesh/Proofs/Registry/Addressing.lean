/-
Which agent a request is about.  The address of the registry and the id of the agent are put
together as text and read as one URL.  So the id is one segment of its path if nothing in it
has a meaning of its own there, and only then.
-/
import CapabilityMesh.Proofs.Config.Soundness
import CapabilityMesh.Proofs.Url.Below
import CapabilityMesh.Registry.Http

namespace CapabilityMesh

/-- A network that brings every request to its server. -/
def Network.Delivers (net : Network) : Prop :=
  ∀ sent request reason, net.reply sent request ≠ .undelivered reason

namespace HttpRegistry

/-- Whether a URL has the path of a base without slashes at its end, then a folder, and one
segment that stands for an id. -/
def Addresses (base : Url) (folder id : String) (url : Url) : Prop :=
  ∃ segment, url.path = .segments (Url.stem base.path.names ++ [folder, segment]) ∧
    Url.decodeBytes segment.toList = Text.utf8 id.toList

/-- Two URLs that stand for ids below the same folder have the same path only if the ids are
the same. -/
theorem Addresses.id_eq {base url other : Url} {folder id otherId : String}
    (h : Addresses base folder id url) (hother : Addresses base folder otherId other)
    (hpath : url.path.render = other.path.render) : id = otherId := by
  obtain ⟨segment, hsegment, hbytes⟩ := h
  obtain ⟨otherSegment, hotherSegment, hotherBytes⟩ := hother
  have hrender : ∀ segment, (Url.Path.segments
      (Url.stem base.path.names ++ [folder, segment])).render =
        String.join ((Url.stem base.path.names).map ("/" ++ ·)) ++
          ("/" ++ folder ++ ("/" ++ segment)) := by
    intro segment
    rw [Url.Path.render, List.map_append, String.join_append]
    simp [String.join_cons]
  rw [hsegment, hotherSegment, hrender, hrender, String.append_right_inj,
    String.append_right_inj, String.append_right_inj] at hpath
  rw [← hpath, hbytes] at hotherBytes
  exact String.toList_inj.mp (Text.utf8_injective hotherBytes)

section Sending

variable {net : Network} {request : HttpRequest}

theorem head?_follow (hnet : net.Delivers) (hweb : request.url.isWeb = true)
    (fuel sent : Nat) : (follow net fuel sent request).requests.head? = some request := by
  unfold follow
  rw [hweb, if_neg (by decide)]
  cases hreply : net.reply sent request with
  | undelivered reason => exact absurd hreply (hnet sent request reason)
  | lost reason => rfl
  | answer answer =>
      simp only
      split
      · rfl
      · split <;> rfl

theorem head?_send (hnet : net.Delivers) (r : HttpRegistry) {path : String} {url : Url}
    (hread : Url.parse (r.baseUrl ++ path) = .ok url) (hweb : url.isWeb = true)
    (method : HttpMethod) (contentType : Option String) (body : String) :
    (r.send net method path contentType body).requests.head? =
      some ⟨method, url, contentType, body⟩ := by
  rw [send, hread]
  exact head?_follow hnet hweb 10 0

theorem requests_probe (r : HttpRegistry) (id : String) :
    (r.probe net id).requests = (r.send net .head ("/heartbeat/" ++ id) none "").requests := by
  rw [probe]

theorem requests_unregister (r : HttpRegistry) (id : String) :
    (r.unregister net id).requests =
      (r.send net .delete ("/agents/" ++ id) none "").requests := by
  rw [unregister]

end Sending

/-- Below an address that is accepted and plain, probes and removals are sent to the path of
the address, a folder, and one segment that stands for the agent's id, if the id is plain,
and only then.  Plain ids that differ have different targets. -/
theorem plain_ids_addressed {address : String}
    (haddress : Settings.urlFaults "registry.url" address = [])
    (hplain : Url.isPlainBase address.toList = true) :
    ∃ base, Url.parse address = .ok base ∧ ∃ url : String → String → Url,
      (∀ (net : Network) (id : String), net.Delivers →
        ((ofAddress address).probe net id).requests.head? =
            some ⟨.head, url "heartbeat" id, none, ""⟩ ∧
          ((ofAddress address).unregister net id).requests.head? =
            some ⟨.delete, url "agents" id, none, ""⟩) ∧
      ∀ folder ∈ ["heartbeat", "agents"],
        (∀ id : String, Url.isPlain id.toList = true ↔
          Addresses base folder id (url folder id)) ∧
        (∀ id : String, Url.isPlain id.toList = true →
          url folder id = { base with path := (url folder id).path }) ∧
        ∀ id other : String, Url.isPlain id.toList = true → Url.isPlain other.toList = true →
          (url folder id).target = (url folder other).target → id = other := by
  obtain ⟨base, hread, hweb⟩ :=
    FieldValue.isWebAddress_iff.mp ((Settings.urlFaults_eq_nil _ _).mp haddress)
  have hfolders : ∀ folder ∈ ["heartbeat", "agents"],
      Url.isFolder folder.toList = true := by decide +kernel
  have : Nonempty Url := ⟨base⟩
  choose! url hsent hsentWeb hpath hrest using fun folder hmem id =>
    Url.parse_below hread hweb hplain (hfolders folder hmem) id
  have haddresses : ∀ folder ∈ ["heartbeat", "agents"], ∀ id : String,
      Url.isPlain id.toList = true ↔ Addresses base folder id (url folder id) := by
    intro folder hmem id
    rw [Url.isPlain_iff_segment (Url.stem base.path.names ++ [folder]), Addresses,
      hpath folder hmem id]
    simp only [Url.Path.segments.injEq, List.append_assoc, List.cons_append, List.nil_append]
  refine ⟨base, hread, url, fun net id hnet => ⟨?_, ?_⟩, fun folder hmem =>
    ⟨haddresses folder hmem, hrest folder hmem, fun id other hid hother htarget => ?_⟩⟩
  · rw [requests_probe]
    have hread := hsent "heartbeat" (by simp) id
    rw [show "/" ++ "heartbeat" ++ "/" = "/heartbeat/" by decide] at hread
    exact head?_send hnet (ofAddress address) hread (hsentWeb _ (by simp) id) .head none ""
  · rw [requests_unregister]
    have hread := hsent "agents" (by simp) id
    rw [show "/" ++ "agents" ++ "/" = "/agents/" by decide] at hread
    exact head?_send hnet (ofAddress address) hread (hsentWeb _ (by simp) id) .delete none ""
  · refine Addresses.id_eq ((haddresses folder hmem id).mp hid)
      ((haddresses folder hmem other).mp hother) ?_
    rw [Url.target, Url.target, hrest folder hmem id hid, hrest folder hmem other hother,
      String.append_left_inj] at htarget
    exact htarget

/-- A server that answers every request alike. -/
def steadyServer : Network where
  reply _ _ := .answer { status := 200 }
  encoding? _ := none

theorem delivers_steadyServer : steadyServer.Delivers := by
  intro sent request reason hreply
  simp only [steadyServer] at hreply
  cases hreply

/-- Two agents below a folder of a server of their own. -/
theorem agents_apart :
    Settings.urlFaults "registry.url" "http://[::1]:8000/mesh/" = [] ∧
      Url.isPlainBase "http://[::1]:8000/mesh/".toList = true ∧
      ((ofAddress "http://[::1]:8000/mesh/").unregister steadyServer "a-1").requests.head?.map
          (·.url.target) ≠
        ((ofAddress "http://[::1]:8000/mesh/").unregister steadyServer "a-2").requests.head?.map
          (·.url.target) := by
  have haddress : Settings.urlFaults "registry.url" "http://[::1]:8000/mesh/" = [] := by
    decide +kernel
  have hplain : Url.isPlainBase "http://[::1]:8000/mesh/".toList = true := by decide +kernel
  obtain ⟨base, -, url, hsent, hfolders⟩ := plain_ids_addressed haddress hplain
  obtain ⟨-, -, hdistinct⟩ := hfolders "agents" (by decide)
  refine ⟨haddress, hplain, fun hsame => ?_⟩
  rw [(hsent steadyServer "a-1" delivers_steadyServer).2,
    (hsent steadyServer "a-2" delivers_steadyServer).2] at hsame
  exact absurd (hdistinct "a-1" "a-2" (by decide +kernel) (by decide +kernel)
    (Option.some.inj hsame)) (by decide)

/-- An id that is accepted, and not plain, has another agent removed. -/
theorem removes_another_agent :
    ¬ ∀ (address id other : String) (net : Network), net.Delivers →
      Settings.urlFaults "registry.url" address = [] →
      Settings.idFaults (some id) = [] → Settings.idFaults (some other) = [] → id ≠ other →
        ((ofAddress address).unregister net id).requests.head? ≠
          ((ofAddress address).unregister net other).requests.head? := by
  intro h
  refine h "http://[::1]:8000" "x/../victim" "victim" steadyServer delivers_steadyServer
    (by decide +kernel) (by decide +kernel) (by decide +kernel) (by decide) ?_
  decide +kernel

end HttpRegistry

end CapabilityMesh
