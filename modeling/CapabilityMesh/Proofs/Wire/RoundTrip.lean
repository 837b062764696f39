/-
The round trip of the wire format.  Requests and answers are legible: they are read from
their texts as they were written, so that a text that was read is written again in a form
that stays as it is.  Clocks show no leap second but at the end of a minute, and a request
that was made in another one is read as made in the second that follows.
-/
import CapabilityMesh.Proofs.Json.Draft
import CapabilityMesh.Proofs.Json.Legible
import CapabilityMesh.Proofs.Wire.Timestamp
import CapabilityMesh.Wire.Declaration
import CapabilityMesh.Wire.Response

namespace CapabilityMesh

open Json

theorem legible_texts (texts : List String) :
    Legible (readList readText) (writeList writeString) texts :=
  Legible.list fun s _ => legible_text s

theorem eq_some_of_need {α : Type} {name : String} {value : Option α} {a : α}
    (hneed : need name value = .ok a) : value = some a := by
  cases value with
  | none => cases hneed
  | some value =>
      obtain rfl := Except.ok.inj hneed
      rfl

section Requests

/-- Declared dependencies come back: a version that is left out is read as none. -/
theorem DependencyDeclaration.legible (d : DependencyDeclaration) :
    Legible shape.read write d := by
  obtain ⟨capability, tags, version⟩ := d
  have hcapability := (legible_text capability).reads
  have htags := (legible_texts tags).reads
  cases version with
  | none =>
      have hwrite : write ⟨capability, tags, none⟩ =
          writeObject [("capability", writeString capability),
            ("tags", writeList writeString tags)] := rfl
      exact Legible.record (by decide) hwrite
        (.next 0 rfl rfl rfl hcapability.put (.next 1 rfl rfl rfl htags.put (.done _))) rfl
  | some version =>
      have hversion := (legible_text version).optional
      have hwrite : write ⟨capability, tags, some version⟩ =
          writeObject [("capability", writeString capability),
            ("tags", writeList writeString tags), ("version", writeString version)] := rfl
      exact Legible.record (by decide) hwrite
        (.next 0 rfl rfl rfl hcapability.put (.next 1 rfl rfl rfl htags.put
          (.next 2 rfl rfl rfl hversion.put (.done _)))) rfl

theorem ToolDeclaration.legible (t : ToolDeclaration) : Legible shape.read write t := by
  obtain ⟨function, capability, version, tags, dependencies⟩ := t
  have hdependencies : Legible (readList DependencyDeclaration.shape.read)
      (writeList DependencyDeclaration.write) dependencies :=
    Legible.list fun d _ => d.legible
  exact Legible.record (by decide) rfl
    (.next 0 rfl rfl rfl (legible_text function).reads.put
      (.next 1 rfl rfl rfl (legible_text capability).reads.put
        (.next 2 rfl rfl rfl (legible_text version).reads.put
          (.next 3 rfl rfl rfl (legible_texts tags).reads.put
            (.next 4 rfl rfl rfl hdependencies.reads.put (.done _)))))) rfl

/-- Declared agents come back. -/
theorem AgentMetadata.legible (m : AgentMetadata) : Legible shape.read write m := by
  obtain ⟨name, version, agentNamespace, endpoint, tools⟩ := m
  have htools : Legible (readList ToolDeclaration.shape.read)
      (writeList ToolDeclaration.write) tools :=
    Legible.list fun t _ => t.legible
  exact Legible.record (by decide) rfl
    (.next 0 rfl rfl rfl (legible_text name).reads.put
      (.next 1 rfl rfl rfl (legible_text version).reads.put
        (.next 2 rfl rfl rfl (legible_text agentNamespace).reads.put
          (.next 3 rfl rfl rfl (legible_text endpoint).reads.put
            (.next 4 rfl rfl rfl htools.reads.put (.done _)))))) rfl

/-- Points in time come back whose text denotes them. -/
theorem Timestamp.reads_render {t : Timestamp} (hyear : 0 ≤ t.year ∧ t.year ≤ 9999)
    (hregular : t.isRegular = true) : Reads Timestamp.read (writeString t.render) t := by
  intro rest
  rw [Timestamp.read, writeString_append, readTextAs, skipSpace_cons (by decide)]
  simp only [readStringTail_writeString, parse_render hyear hregular]

theorem Timestamp.isRegular_of_read {t : Timestamp} {cs rest : List Char}
    (hread : Timestamp.read cs = .ok (t, rest)) : t.isRegular = true := by
  rw [Timestamp.read] at hread
  split at hread
  · cases hread
  · split at hread
    · rename_i hparse
      obtain ⟨rfl, -⟩ := Prod.mk.inj (Except.ok.inj hread)
      exact isRegular_of_parse hparse
    · cases hread

/-- Requests come back. -/
theorem RegistrationRequest.legible {q : RegistrationRequest}
    (hyear : 0 ≤ q.timestamp.year ∧ q.timestamp.year ≤ 9999)
    (hregular : q.timestamp.isRegular = true) : Legible shape.read write q := by
  obtain ⟨agentId, timestamp, metadata⟩ := q
  exact Legible.record (by decide) rfl
    (.next 0 rfl rfl rfl (legible_text agentId).reads.put
      (.next 1 rfl rfl rfl (Timestamp.reads_render hyear hregular).put
        (.next 2 rfl rfl rfl metadata.legible.reads.put (.done _)))) rfl

theorem RegistrationRequest.ofJson_toJson {q : RegistrationRequest}
    (hyear : 0 ≤ q.timestamp.year ∧ q.timestamp.year ≤ 9999)
    (hregular : q.timestamp.isRegular = true) : ofJson q.toJson = .ok q :=
  (legible hyear hregular).readWhole?

/-- The point in time of a request that is being read is one that was read. -/
theorem RegistrationRequest.keeps_regular :
    ∀ field ∈ shape.fields,
      field.Keeps fun d : Draft => ∀ t, d.timestamp = some t → t.isRegular = true := by
  simp only [shape, List.forall_mem_cons, List.not_mem_nil, IsEmpty.forall_iff, implies_true]
  refine ⟨?agentId, ?timestamp, ?metadata, trivial⟩
  case agentId => exact Field.keeps_of fun draft agentId cs rest hdraft _ => hdraft
  case timestamp =>
    apply Field.keeps_of
    intro draft timestamp cs rest _ hread t ht
    obtain rfl := Option.some.inj ht
    exact Timestamp.isRegular_of_read hread
  case metadata => exact Field.keeps_of fun draft metadata cs rest hdraft _ => hdraft

theorem RegistrationRequest.isRegular_of_ofJson {body : String} {q : RegistrationRequest}
    (hread : ofJson body = .ok q) : q.timestamp.isRegular = true := by
  obtain ⟨rest, hread⟩ := exists_of_readWhole? hread
  obtain ⟨final, hfinal, hbuild⟩ := Record.read_keeps keeps_regular (by simp [shape]) hread
  simp only [shape, bind_eq_ok] at hbuild
  obtain ⟨agentId, -, timestamp, htimestamp, metadata, -, heq⟩ := hbuild
  obtain rfl := Except.ok.inj heq
  exact hfinal timestamp (eq_some_of_need htimestamp)

/-- A request is read as made when clocks showed it to be. -/
theorem RegistrationRequest.ofJson_shown {q : RegistrationRequest}
    (hyear : 0 ≤ q.timestamp.year ∧ q.timestamp.year ≤ 9999)
    (hnano : q.timestamp.nano < 2000000000) :
    ofJson q.toJson = .ok { q with timestamp := q.timestamp.shown } := by
  have htext : toJson { q with timestamp := q.timestamp.shown } = q.toJson := by
    rw [toJson, toJson, write, write, Timestamp.render_shown hnano]
  rw [← htext]
  exact ofJson_toJson (by rwa [Timestamp.year_shown hnano]) (Timestamp.isRegular_shown hnano)

end Requests

section Answers

/-- Resolutions come back under their names. -/
theorem Resolution.reads_name (r : Resolution) :
    Reads Resolution.read (writeString r.name) r := by
  intro rest
  rw [Resolution.read, writeString_append, skipSpace_cons (by decide)]
  simp only [readStringTail_writeString]
  cases r <;> rfl

/-- Providers come back. -/
theorem ProviderInfo.legible (p : ProviderInfo) : Legible shape.read write p := by
  obtain ⟨agentId, endpoint, function⟩ := p
  exact Legible.record (by decide) rfl
    (.next 0 rfl rfl rfl (legible_text agentId).reads.put
      (.next 1 rfl rfl rfl (legible_text endpoint).reads.put
        (.next 2 rfl rfl rfl (legible_text function).reads.put (.done _)))) rfl

/-- Answers for dependencies come back: a provider that is left out is read as none. -/
theorem ResolvedDependency.legible (d : ResolvedDependency) : Legible shape.read write d := by
  obtain ⟨capability, status, provider⟩ := d
  have hcapability := (legible_text capability).reads
  cases provider with
  | none =>
      have hwrite : write ⟨capability, status, none⟩ =
          writeObject [("capability", writeString capability),
            ("status", writeString status.name)] := rfl
      exact Legible.record (by decide) hwrite
        (.next 0 rfl rfl rfl hcapability.put
          (.next 1 rfl rfl rfl status.reads_name.put (.done _))) rfl
  | some provider =>
      have hwrite : write ⟨capability, status, some provider⟩ =
          writeObject [("capability", writeString capability),
            ("status", writeString status.name), ("mcp_tool_info", provider.write)] := rfl
      exact Legible.record (by decide) hwrite
        (.next 0 rfl rfl rfl hcapability.put
          (.next 1 rfl rfl rfl status.reads_name.put
            (.next 2 rfl rfl rfl provider.legible.optional.put (.done _)))) rfl

/-- Answers for functions come back: a capability that is left out is read as none. -/
theorem FunctionResolution.legible (f : FunctionResolution) : Legible shape.read write f := by
  obtain ⟨function, capability, dependencies⟩ := f
  have hfunction := (legible_text function).reads
  have hdependencies : Legible (readList ResolvedDependency.shape.read)
      (writeList ResolvedDependency.write) dependencies :=
    Legible.list fun d _ => d.legible
  cases capability with
  | none =>
      have hwrite : write ⟨function, none, dependencies⟩ =
          writeObject [("function_name", writeString function),
            ("dependencies", writeList ResolvedDependency.write dependencies)] := rfl
      exact Legible.record (by decide) hwrite
        (.next 0 rfl rfl rfl hfunction.put
          (.next 2 rfl rfl rfl hdependencies.reads.put (.done _))) rfl
  | some capability =>
      have hwrite : write ⟨function, some capability, dependencies⟩ =
          writeObject [("function_name", writeString function),
            ("capability", writeString capability),
            ("dependencies", writeList ResolvedDependency.write dependencies)] := rfl
      exact Legible.record (by decide) hwrite
        (.next 0 rfl rfl rfl hfunction.put
          (.next 1 rfl rfl rfl (legible_text capability).optional.put
            (.next 2 rfl rfl rfl hdependencies.reads.put (.done _)))) rfl

/-- Answers come back: a message that is left out is read as none. -/
theorem RegistrationResponse.legible (a : RegistrationResponse) :
    Legible shape.read write a := by
  obtain ⟨status, message, functions⟩ := a
  have hstatus := (legible_text status).reads
  have hfunctions : Legible (readList FunctionResolution.shape.read)
      (writeList FunctionResolution.write) functions :=
    Legible.list fun f _ => f.legible
  cases message with
  | none =>
      have hwrite : write ⟨status, none, functions⟩ =
          writeObject [("status", writeString status),
            ("dependencies_resolved", writeList FunctionResolution.write functions)] := rfl
      exact Legible.record (by decide) hwrite
        (.next 0 rfl rfl rfl hstatus.put
          (.next 2 rfl rfl rfl hfunctions.reads.put (.done _))) rfl
  | some message =>
      have hwrite : write ⟨status, some message, functions⟩ =
          writeObject [("status", writeString status), ("message", writeString message),
            ("dependencies_resolved", writeList FunctionResolution.write functions)] := rfl
      exact Legible.record (by decide) hwrite
        (.next 0 rfl rfl rfl hstatus.put
          (.next 1 rfl rfl rfl (legible_text message).optional.put
            (.next 2 rfl rfl rfl hfunctions.reads.put (.done _)))) rfl

theorem RegistrationResponse.ofJson_toJson (a : RegistrationResponse) :
    ofJson a.toJson = .ok a :=
  a.legible.readWhole?

/-- An answer is accepted in the form it is written if it says "success", and only then. -/
theorem RegistrationResponse.parse_toJson (a : RegistrationResponse) :
    parse a.toJson = .ok a ↔ a.status = "success" := by
  rw [parse, ofJson_toJson]
  dsimp only
  split <;> simp_all [isSuccess]

theorem RegistrationResponse.isSuccess_of_parse {body : String} {a : RegistrationResponse}
    (hparse : parse body = .ok a) : a.status = "success" := by
  rw [parse] at hparse
  split at hparse
  · cases hparse
  · split at hparse
    · rename_i found _ hsuccess
      obtain rfl := Except.ok.inj hparse
      simpa [isSuccess] using hsuccess
    · cases hparse

end Answers

/-- Requests of the years that are written with four digits are read from their texts as
they were written, up to a leap second inside a minute, which is read as the second that
follows.  So are all answers, but the reader that registration uses takes those alone that
say "success".  Whatever text a value was read from, the text that is written for it is read
as the same value, and that is written as the same text. -/
theorem wire_roundTrip :
    (∀ q : RegistrationRequest, 0 ≤ q.timestamp.year ∧ q.timestamp.year ≤ 9999 →
      (RegistrationRequest.ofJson q.toJson = .ok q ↔ q.timestamp.isRegular = true) ∧
        (q.timestamp.nano < 2000000000 → RegistrationRequest.ofJson q.toJson =
          .ok { q with timestamp := q.timestamp.shown })) ∧
    (∀ a : RegistrationResponse, RegistrationResponse.ofJson a.toJson = .ok a ∧
      (RegistrationResponse.parse a.toJson = .ok a ↔ a.status = "success")) ∧
    (∀ (body : String) (q : RegistrationRequest), RegistrationRequest.ofJson body = .ok q →
      0 ≤ q.timestamp.year ∧ q.timestamp.year ≤ 9999 →
      RegistrationRequest.ofJson q.toJson = .ok q ∧
        (RegistrationRequest.ofJson q.toJson).map RegistrationRequest.toJson =
          .ok q.toJson) ∧
    (∀ (body : String) (a : RegistrationResponse), RegistrationResponse.ofJson body = .ok a →
      RegistrationResponse.ofJson a.toJson = .ok a ∧
        (RegistrationResponse.ofJson a.toJson).map RegistrationResponse.toJson =
          .ok a.toJson) ∧
    ∀ (body : String) (a : RegistrationResponse), RegistrationResponse.parse body = .ok a →
      RegistrationResponse.parse a.toJson = .ok a := by
  refine ⟨?requests, ?answers, ?requestTexts, ?answerTexts, ?parsed⟩
  case requests =>
    intro q hyear
    refine ⟨⟨?_, ?_⟩, ?_⟩
    · exact RegistrationRequest.isRegular_of_ofJson
    · exact RegistrationRequest.ofJson_toJson hyear
    · exact RegistrationRequest.ofJson_shown hyear
  case answers =>
    intro a
    exact ⟨a.ofJson_toJson, a.parse_toJson⟩
  case requestTexts =>
    intro body q hread hyear
    have hsame := RegistrationRequest.ofJson_toJson hyear
      (RegistrationRequest.isRegular_of_ofJson hread)
    exact ⟨hsame, by rw [hsame]; rfl⟩
  case answerTexts =>
    intro body a hread
    have hsame := a.ofJson_toJson
    exact ⟨hsame, by rw [hsame]; rfl⟩
  case parsed =>
    intro body a hparse
    exact a.parse_toJson.mpr (RegistrationResponse.isSuccess_of_parse hparse)

theorem wire_roundTrip_leap_second :
    let q : RegistrationRequest := ⟨"a\"\\\n\x01\u2028", ⟨1483228799, 1500000000⟩,
      ⟨"", "1", "n", "e", [⟨"f", "c", "1", ["t", "\t"], [⟨"d", [], none⟩]⟩]⟩⟩
    let inside : RegistrationRequest := ⟨"a", ⟨10, 1500000000⟩, ⟨"n", "1", "n", "e", []⟩⟩
    let bare : RegistrationRequest := ⟨"a", ⟨0, 0⟩, ⟨"n", "1", "n", "e", []⟩⟩
    let a : RegistrationResponse := ⟨"success", none, []⟩
    RegistrationRequest.ofJson q.toJson = .ok q ∧
      RegistrationRequest.ofJson inside.toJson =
        .ok { inside with timestamp := ⟨11, 500000000⟩ } ∧
      RegistrationRequest.ofJson bare.toJson = .ok bare ∧
      RegistrationResponse.ofJson a.toJson = .ok a ∧
      RegistrationResponse.parse a.toJson = .ok a := by
  intro q inside bare a
  obtain ⟨hrequests, -, hrequestTexts, hanswerTexts, hparsed⟩ := wire_roundTrip
  have hinside := (hrequests inside (by decide)).2 (by decide)
  have hshown : inside.timestamp.shown = ⟨11, 500000000⟩ := by decide
  rw [hshown] at hinside
  have hbare := hrequestTexts
    "[\"a\", \"1970-01-01 00:00:00z\", [\"n\", \"1\", \"n\", \"e\", []]]" bare
    (by decide +kernel) (by decide)
  have hread : RegistrationResponse.ofJson
      "\x7b\"more\": [1], \"message\": null, \"status\": \"success\"\x7d" = .ok a := by
    decide +kernel
  have hparse : RegistrationResponse.parse
      "\x7b\"more\": [1], \"message\": null, \"status\": \"success\"\x7d" = .ok a := by
    decide +kernel
  exact ⟨(hrequests q (by decide)).1.mpr (by decide), hinside, hbare.1,
    (hanswerTexts _ a hread).1, hparsed _ a hparse⟩

/-- A request that was made in a leap second inside a minute, and an answer that does not
accept, are not read as they were written. -/
theorem leap_second_inside_minute :
    let q : RegistrationRequest := ⟨"a", ⟨10, 1500000000⟩, ⟨"n", "1", "n", "e", []⟩⟩
    let a : RegistrationResponse := ⟨"error", none, []⟩
    (0 ≤ q.timestamp.year ∧ q.timestamp.year ≤ 9999) ∧
      RegistrationRequest.ofJson q.toJson ≠ .ok q ∧
      RegistrationResponse.parse a.toJson ≠ .ok a := by
  decide +kernel

end CapabilityMesh
