/-
What the redacted text of a URL tells.  Credentials and path are replaced by stars, so that
only their presence and the outline of the path show.  Scheme, host and port stay, and so do
query and fragment, whatever they hold.
-/
import CapabilityMesh.Config.Key
import CapabilityMesh.Proofs.Url.Escapes
import CapabilityMesh.Proofs.Url.Site

namespace CapabilityMesh

namespace Url

/-- An encoded text has characters that need no encoding, percent signs and digits. -/
theorem mem_encode {set : Char → Bool} {cs : List Char} {c : Char} (hc : c ∈ encode set cs) :
    set c = false ∨ c = '%' ∨ (Text.hexDigit? c).isSome = true := by
  obtain ⟨d, -, hd⟩ := List.mem_flatMap.mp hc
  cases hset : set d with
  | false =>
      rw [encodeChar_of_not hset, List.mem_singleton] at hd
      exact Or.inl (hd ▸ hset)
  | true =>
      rw [encodeChar, if_pos hset] at hd
      obtain ⟨b, -, hb⟩ := List.mem_flatMap.mp hd
      have hlt := b.toNat_lt
      rw [escapeByte, Text.hexByte] at hb
      simp only [List.mem_cons, List.not_mem_nil, or_false] at hb
      rcases hb with rfl | rfl | rfl
      · exact Or.inr (Or.inl rfl)
      · exact Or.inr (Or.inr (by rw [hexDigit?_hexChar _ (by omega)]; rfl))
      · exact Or.inr (Or.inr (by rw [hexDigit?_hexChar _ (by omega)]; rfl))

/-- A query has no sign that begins a fragment. -/
theorem kept_query : Kept fun u => ∀ query, u.query = some query → '#' ∉ query.toList where
  segments _ hu := hu
  site _ _ hu := hu
  credentials _ hu := hu
  query {u} cs _ := by
    rintro query hquery hmem
    obtain rfl := Option.some.inj hquery
    rw [String.toList_ofList] at hmem
    rcases mem_encode hmem with hset | hpercent | hdigit
    · simp [inQuerySet] at hset
    · cases hpercent
    · exact absurd hdigit (by decide)
  fragment _ hu := hu

theorem parse_query {s query : String} {u : Url} (hread : parse s = .ok u)
    (hquery : u.query = some query) : '#' ∉ query.toList :=
  kept_query.parse hread (fun _ _ _ _ hnone => by cases hnone) query hquery

/-- Whether a URL has a host, and a path that slashes divide. -/
def IsRooted (u : Url) : Prop :=
  u.host.isSome = true ∧ ∃ names, u.path = .segments names

theorem kept_isRooted : Kept IsRooted where
  segments names hu := ⟨hu.1, names, rfl⟩
  site _ _ hu := ⟨rfl, hu.2⟩
  credentials _ hu := hu
  query _ hu := hu
  fragment _ hu := hu

theorem addSegment_last_ne_nil (file : Bool) (names : List String) (raw : List Char) :
    addSegment file true names raw ≠ [] := by
  rw [addSegment]
  simp only [if_true]
  split
  · exact List.append_ne_nil_of_right_ne_nil _ (List.cons_ne_nil _ _)
  · split
    · exact List.append_ne_nil_of_right_ne_nil _ (List.cons_ne_nil _ _)
    · split
      · exact List.cons_ne_nil _ _
      · exact List.append_ne_nil_of_right_ne_nil _ (List.cons_ne_nil _ _)

/-- A path that is read has a last segment. -/
theorem addSegments_ne_nil (special file : Bool) (names : List String)
    (pending cs : List Char) : addSegments special file names pending cs ≠ [] := by
  induction cs generalizing names pending with
  | nil => exact addSegment_last_ne_nil file names pending.reverse
  | cons c cs ih =>
      rw [addSegments]
      split
      · exact ih _ _
      · exact ih _ _

theorem path_readPath (u : Url) (names : List String) (cs : List Char) :
    ∃ first rest, (readPath u names cs).path = .segments (first :: rest) := by
  obtain ⟨first, rest, hsegments⟩ := List.exists_cons_of_ne_nil
    (addSegments_ne_nil (isSpecialScheme u.scheme) (u.scheme == "file") names []
      (cs.takeWhile fun c => !isPathEnd c))
  exact ⟨first, rest, by rw [readPath, path_readTail, hsegments]⟩

theorem path_trimFilePath {u : Url} (hu : u.IsRooted) :
    ∃ first rest, (trimFilePath u).path = .segments (first :: rest) := by
  obtain ⟨-, names, hnames⟩ := hu
  simp only [trimFilePath, hnames]
  split
  · exact ⟨"", [], rfl⟩
  · rename_i hne
    obtain ⟨first, rest, htrimmed⟩ := List.exists_cons_of_ne_nil hne
    exact ⟨first, rest, by rw [htrimmed]⟩

theorem path_readRootedPath {u : Url} (hspecial : isSpecialScheme u.scheme = true)
    (cs : List Char) : ∃ first rest, (readRootedPath u cs).path = .segments (first :: rest) := by
  unfold readRootedPath
  simp only [hspecial, Bool.not_true, Bool.and_false, if_true]
  split
  · exact path_readPath u _ _
  · split
    · exact path_readPath u _ _
    · exact path_readPath u _ _

theorem host_readSite {scheme : String} {cs : List Char} {site : Url}
    (hread : readSite scheme cs = .ok site) : site.host.isSome = true := by
  rw [readSite] at hread
  obtain ⟨⟨found, more⟩, hhost, hread⟩ := bind_eq_ok.mp hread
  obtain ⟨host, port, rfl⟩ := readHost_sets hhost
  simp only at hread
  split at hread
  · cases hread
  · obtain rfl := Except.ok.inj hread
    rfl

theorem isRooted_of_special {s : String} {u : Url} (hread : parse s = .ok u)
    (hspecial : isSpecialScheme u.scheme = true) :
    u.host.isSome = true ∧ ∃ first rest, u.path = .segments (first :: rest) := by
  rw [parse] at hread
  split at hread
  · rename_i scheme cs _
    rw [scheme_readBehindScheme hread] at hspecial
    rw [readBehindScheme] at hread
    split at hread
    · obtain ⟨v, hv, rfl⟩ := kept_isRooted.readFile hread ⟨rfl, [], rfl⟩
      exact ⟨(kept_isRooted.trimFilePath hv).1, path_trimFilePath hv⟩
    · have hscheme := scheme_readAuthority hread
      rw [readAuthority_special hspecial] at hread
      cases hsite : readSite scheme ((cs.dropWhile (isSlash true)).takeWhile
          fun c => !isSiteEnd c) with
      | error fault =>
          rw [hsite] at hread
          cases hread
      | ok site =>
          rw [hsite] at hread
          obtain rfl := Except.ok.inj hread
          rw [scheme_readRootedPath] at hscheme
          have hrooted : site.IsRooted :=
            ⟨host_readSite hsite, [], (readSite_ok hspecial (fun c hc => by
              simpa using List.mem_takeWhile_imp hc) hsite).2.1⟩
          exact ⟨(kept_isRooted.readRootedPath _ hrooted).1,
            path_readRootedPath (hscheme ▸ hspecial) _⟩
  · cases hread

/-- Whether a URL has a user name or a password. -/
def hasCredentials (u : Url) : Bool :=
  !(u.username.isEmpty && u.password.isEmpty)

def hasPath (u : Url) : Bool :=
  u.path.render != "" && u.path.render != "/"

/-- What redaction leaves of a path. -/
inductive Outline where
  | bare
  | root
  | hidden
  /-- The path begins with an empty segment, where no host stands before it. -/
  | dotted
  /-- No slash divides the path. -/
  | undivided
deriving DecidableEq

/-- What stands for a path. -/
def Outline.render : Outline → String
  | bare => ""
  | root => "/"
  | hidden => "/***"
  | dotted => "/./***"
  | undivided => "%2F***"

def outline (u : Url) : Outline :=
  match u.path with
  | .opaqueText "" => .bare
  | .opaqueText _ => .undivided
  | .segments [] => .bare
  | .segments [""] => .root
  | .segments ("" :: _ :: _) => if u.host.isNone then .dotted else .hidden
  | .segments _ => .hidden

/-- Host and port with stars for the credentials. -/
def veiledSite (u : Url) : String :=
  match u.host with
  | some host =>
      "//" ++ (if u.hasCredentials then "***:***@" else "") ++ host.render
        ++ (u.port.map fun p => ":" ++ toString p).getD ""
  | none => ""

/-- Query and fragment. -/
def ending (u : Url) : String :=
  (u.query.map ("?" ++ ·)).getD "" ++ (u.fragment.map ("#" ++ ·)).getD ""

/-- A URL with stars for its credentials. -/
def veiled (u : Url) : Url :=
  { u with
    username := if u.hasCredentials then "***" else ""
    password := if u.hasCredentials then "***" else "" }

theorem veiled_eq (u : Url) :
    (if u.username.isEmpty && u.password.isEmpty then u
      else { u with username := "***", password := "***" }) = u.veiled := by
  by_cases hnone : (u.username.isEmpty && u.password.isEmpty) = true
  · obtain ⟨husername, hpassword⟩ := Bool.and_eq_true_iff.mp hnone
    obtain ⟨scheme, username, password, host, port, path, query, fragment⟩ := u
    obtain rfl : username = "" := String.isEmpty_iff.mp husername
    obtain rfl : password = "" := String.isEmpty_iff.mp hpassword
    rfl
  · rw [if_neg hnone, veiled, hasCredentials, Bool.eq_false_iff.mpr hnone]
    rfl

theorem credentials_veiled (u : Url) :
    u.veiled.credentials = if u.hasCredentials then "***:***@" else "" := by
  rw [veiled, credentials]
  cases u.hasCredentials <;> rfl

theorem redact_spec (u : Url) :
    ∃ path : Path, u.redact = { u.veiled with path := path } ∧
      path.render = u.outline.render ∧
      (u.host = none → ∀ second rest, path ≠ .segments ("" :: second :: rest)) := by
  have hkept : ∀ path, u.path = path → u.veiled = { u.veiled with path := path } := by
    rintro path rfl
    rfl
  have hveiled : u.veiled.path = u.path := rfl
  rw [redact]
  simp only [veiled_eq, hveiled]
  cases hpath : u.path with
  | opaqueText text =>
      by_cases htext : text = ""
      · subst htext
        have houtline : u.outline = .bare := by simp only [outline, hpath]
        exact ⟨_, hkept _ hpath, by rw [houtline]; rfl, by simp⟩
      · have houtline : u.outline = .undivided := by simp [outline, hpath]
        exact ⟨.opaqueText "%2F***", by simp, by rw [houtline]; rfl, by simp⟩
  | segments names =>
      cases names with
      | nil =>
          have houtline : u.outline = .bare := by simp only [outline, hpath]
          exact ⟨_, hkept _ hpath, by rw [houtline]; rfl, by simp⟩
      | cons first rest =>
          by_cases hfirst : first = ""
          · subst hfirst
            cases rest with
            | nil =>
                have houtline : u.outline = .root := by simp only [outline, hpath]
                exact ⟨_, hkept _ hpath, by rw [houtline]; rfl, by simp⟩
            | cons second rest =>
                have houtline : u.outline = if u.host.isNone then .dotted else .hidden := by
                  simp only [outline, hpath]
                have hhost : u.veiled.host = u.host := rfl
                refine ⟨_, rfl, ?_, ?_⟩
                · rw [houtline, hhost]
                  cases u.host <;> rfl
                · intro hnone
                  rw [hhost, hnone]
                  simp
          · have houtline : u.outline = .hidden := by simp [outline, hpath, hfirst]
            exact ⟨.segments ["***"], by simp [hfirst], by rw [houtline]; rfl, by simp⟩

theorem authority_veiled {u : Url} {path : Path}
    (hpath : u.host = none → ∀ second rest, path ≠ .segments ("" :: second :: rest)) :
    ({ u.veiled with path := path } : Url).authority = u.veiledSite := by
  have hcredentials : ({ u.veiled with path := path } : Url).credentials =
      if u.hasCredentials then "***:***@" else "" := u.credentials_veiled
  have hhost : ({ u.veiled with path := path } : Url).host = u.host := rfl
  have hport : ({ u.veiled with path := path } : Url).port = u.port := rfl
  rw [authority, veiledSite, hcredentials, hhost, hport]
  cases hnone : u.host with
  | some host => rfl
  | none =>
      simp only
      split
      · contradiction
      · exact absurd rfl (hpath hnone _ _)
      · rfl

theorem render_redact (u : Url) :
    u.redact.render = u.scheme ++ ":" ++ u.veiledSite ++ (u.outline.render ++ u.ending) := by
  obtain ⟨path, hredact, hpath, hrooted⟩ := u.redact_spec
  rw [hredact, render, authority_veiled hrooted, ← hpath, ending, target]
  simp only [veiled, String.append_assoc]

theorem Outline.not_isPathEnd (o : Outline) : ∀ c ∈ o.render.toList, isPathEnd c = false := by
  have hall : (o.render.toList.all fun c => !isPathEnd c) = true := by
    cases o <;> rfl
  simpa using hall

theorem Outline.render_inj {o other : Outline} (h : o.render = other.render) : o = other := by
  cases o <;> cases other <;> first | rfl | exact absurd h (by decide)

/-- The text of a fragment with its sign. -/
def fragmentPart (u : Url) : List Char :=
  (u.fragment.map fun fragment => '#' :: fragment.toList).getD []

theorem toList_ending (u : Url) :
    u.ending.toList =
      (u.query.map fun query => '?' :: query.toList).getD [] ++ u.fragmentPart := by
  rw [ending, fragmentPart, String.toList_append]
  cases u.query <;> cases u.fragment <;> simp

theorem fragmentPart_inj {u v : Url} (h : u.fragmentPart = v.fragmentPart) :
    u.fragment = v.fragment := by
  rw [fragmentPart, fragmentPart] at h
  cases hu : u.fragment <;> cases hv : v.fragment <;> simp_all [String.toList_inj]

theorem head?_fragmentPart {u : Url} {c : Char} (hc : u.fragmentPart.head? = some c) :
    (c == '#') = true := by
  rw [fragmentPart] at hc
  cases hu : u.fragment with
  | none => simp [hu] at hc
  | some fragment =>
      rw [hu] at hc
      obtain rfl := Option.some.inj hc
      rfl

theorem head?_ending {u : Url} {c : Char} (hc : u.ending.toList.head? = some c) :
    isPathEnd c = true := by
  rw [toList_ending] at hc
  cases hquery : u.query with
  | some query =>
      simp only [hquery, Option.map_some, Option.getD_some, List.cons_append,
        List.head?_cons, Option.some.injEq] at hc
      rw [← hc]
      rfl
  | none =>
      rw [hquery] at hc
      rw [isPathEnd, head?_fragmentPart hc, Bool.or_true]

theorem ending_eq_iff {u v : Url} (hu : ∀ query, u.query = some query → '#' ∉ query.toList)
    (hv : ∀ query, v.query = some query → '#' ∉ query.toList) :
    u.ending = v.ending ↔ u.query = v.query ∧ u.fragment = v.fragment := by
  constructor
  · intro h
    have hlist := congrArg String.toList h
    rw [toList_ending, toList_ending] at hlist
    have hhash : ∀ w : Url, (∀ query, w.query = some query → '#' ∉ query.toList) →
        ∀ c ∈ (w.query.map fun query => '?' :: query.toList).getD [], (c == '#') = false := by
      intro w hw c hc
      cases hquery : w.query with
      | none => simp [hquery] at hc
      | some query =>
          rw [hquery] at hc
          rcases List.mem_cons.mp hc with rfl | hc
          · rfl
          · exact beq_false_of_ne fun heq => hw query hquery (heq ▸ hc)
    obtain ⟨hquery, hfragment⟩ := append_end_inj (hhash u hu) (hhash v hv)
      (fun _ => head?_fragmentPart) (fun _ => head?_fragmentPart) hlist
    refine ⟨?_, fragmentPart_inj hfragment⟩
    cases huquery : u.query <;> cases hvquery : v.query <;>
      simp_all [String.toList_inj]
  · rintro ⟨hquery, hfragment⟩
    rw [ending, ending, hquery, hfragment]

theorem render_segments_cons (first : String) (rest : List String) :
    (Path.segments (first :: rest)).render.toList =
      '/' :: (first.toList ++ (Path.segments rest).render.toList) := by
  rw [Path.render, List.map_cons, String.join_cons, String.toList_append, String.toList_append]
  rfl

/-- A path behind a host is more than the root unless it is one empty segment. -/
theorem hasPath_iff {u : Url} {first : String} {rest : List String}
    (hpath : u.path = .segments (first :: rest)) :
    u.hasPath = true ↔ ¬ (first = "" ∧ rest = []) := by
  have hrender := render_segments_cons first rest
  rw [hasPath, hpath, Bool.and_eq_true, bne_iff_ne, bne_iff_ne, ne_eq, ne_eq,
    ← String.toList_inj, ← String.toList_inj, hrender]
  have hroot : '/' :: (first.toList ++ (Path.segments rest).render.toList) = "/".toList ↔
      first = "" ∧ rest = [] := by
    constructor
    · intro h
      obtain ⟨hfirst, hmore⟩ := List.append_eq_nil_iff.mp (List.cons.inj h).2
      refine ⟨String.toList_inj.mp hfirst, ?_⟩
      cases rest with
      | nil => rfl
      | cons second more =>
          rw [render_segments_cons] at hmore
          cases hmore
    · rintro ⟨rfl, rfl⟩
      rfl
  rw [hroot]
  exact and_iff_right (List.cons_ne_nil _ _)

/-- Where a host and a path stand, the outline only tells whether the path is more than the
root. -/
theorem outline_of_rooted {u : Url} (hhost : u.host.isSome = true)
    (hpath : ∃ first rest, u.path = .segments (first :: rest)) :
    u.outline = if u.hasPath then .hidden else .root := by
  obtain ⟨first, rest, hpath⟩ := hpath
  have hsome : u.host.isNone = false := by
    rw [← Option.not_isSome, hhost]
    rfl
  by_cases hroot : first = "" ∧ rest = []
  · rw [if_neg fun h => (hasPath_iff hpath).mp h hroot, outline, hpath, hroot.1, hroot.2]
    rfl
  · rw [if_pos ((hasPath_iff hpath).mpr hroot), outline, hpath]
    split
    · contradiction
    · contradiction
    · rename_i h
      exact absurd (Path.segments.inj h) (List.cons_ne_nil _ _)
    · rename_i h
      obtain ⟨rfl, rfl⟩ := List.cons.inj (Path.segments.inj h)
      exact absurd ⟨rfl, rfl⟩ hroot
    · rw [hsome]
      rfl
    · rfl

end Url

namespace ConfigKey

/-- Of two URLs with the same scheme, host and port, both with or both without credentials,
logs show the same text exactly if the outlines of their paths, their queries and their
fragments are the same.  Under a special scheme the outline tells no more than whether there
is a path besides the root.  So user names, passwords and paths never show, but queries and
fragments do. -/
theorem redact_eq_iff {key : ConfigKey} (hkey : key.isSensitive = true)
    {a b : String} {u v : Url} (ha : Url.parse a = .ok u) (hb : Url.parse b = .ok v)
    (hscheme : u.scheme = v.scheme) (hhost : u.host = v.host) (hport : u.port = v.port)
    (hcredentials : u.hasCredentials = v.hasCredentials) :
    (key.redact a = key.redact b ↔
      u.outline = v.outline ∧ u.query = v.query ∧ u.fragment = v.fragment) ∧
    (Url.isSpecialScheme u.scheme = true → u.hasPath = v.hasPath → u.outline = v.outline) := by
  have hsite : u.veiledSite = v.veiledSite := by
    rw [Url.veiledSite, Url.veiledSite, hcredentials, hhost, hport]
  have htext : key.redact a = key.redact b ↔
      u.outline.render ++ u.ending = v.outline.render ++ v.ending := by
    rw [redact, redact, if_pos hkey, if_pos hkey, ha, hb]
    simp only [Url.render_redact, hscheme, hsite]
    exact String.append_right_inj _
  refine ⟨htext.trans ?_, ?_⟩
  · rw [← Url.ending_eq_iff (fun _ => Url.parse_query ha) (fun _ => Url.parse_query hb)]
    constructor
    · intro h
      have hlist := congrArg String.toList h
      rw [String.toList_append, String.toList_append] at hlist
      obtain ⟨houtline, hending⟩ := Url.append_end_inj u.outline.not_isPathEnd
        v.outline.not_isPathEnd (fun _ => Url.head?_ending) (fun _ => Url.head?_ending) hlist
      exact ⟨Url.Outline.render_inj (String.toList_inj.mp houtline), String.toList_inj.mp hending⟩
    · rintro ⟨houtline, hending⟩
      rw [houtline, hending]
  · intro hspecial hpath
    obtain ⟨huhost, hupath⟩ := Url.isRooted_of_special ha hspecial
    obtain ⟨hvhost, hvpath⟩ := Url.isRooted_of_special hb (hscheme ▸ hspecial)
    rw [Url.outline_of_rooted huhost hupath, Url.outline_of_rooted hvhost hvpath, hpath]

/-- Two URLs that differ in their credentials and in their paths alone look the same. -/
theorem redact_hides_credentials :
    registryUrl.isSensitive = true ∧
      registryUrl.redact "http://user:secret@[::1]:8000/api" =
        registryUrl.redact "http://other@[::1]:8000/v2/agents" := by
  have hu : Url.parse "http://user:secret@[::1]:8000/api" = .ok
      { scheme := "http", username := "user", password := "secret"
        host := some (.address6 [0, 0, 0, 0, 0, 0, 0, 1]), port := some 8000
        path := .segments ["api"] } := eq_ok_of_toOption (by decide +kernel)
  have hv : Url.parse "http://other@[::1]:8000/v2/agents" = .ok
      { scheme := "http", username := "other"
        host := some (.address6 [0, 0, 0, 0, 0, 0, 0, 1]), port := some 8000
        path := .segments ["v2", "agents"] } := eq_ok_of_toOption (by decide +kernel)
  have hkey : registryUrl.isSensitive = true := rfl
  obtain ⟨hsame, hspecial⟩ := redact_eq_iff hkey hu hv rfl rfl rfl rfl
  exact ⟨hkey, hsame.mpr ⟨hspecial rfl (by decide), rfl, rfl⟩⟩

/-- Redaction does not hide queries, although nothing but the query may tell two URLs
apart. -/
theorem redact_shows_query :
    ¬ ∀ (key : ConfigKey) (a b : String) (u v : Url), key.isSensitive = true →
      Url.parse a = .ok u → Url.parse b = .ok v → u.scheme = v.scheme → u.host = v.host →
      u.port = v.port → u.hasCredentials = v.hasCredentials → u.hasPath = v.hasPath →
      key.redact a = key.redact b := by
  intro h
  have hu : Url.parse "http://[::1]:8000/?token=secret" = .ok
      { scheme := "http", host := some (.address6 [0, 0, 0, 0, 0, 0, 0, 1])
        port := some 8000, path := .segments [""]
        query := some "token=secret" } := eq_ok_of_toOption (by decide +kernel)
  have hv : Url.parse "http://[::1]:8000/?token=other" = .ok
      { scheme := "http", host := some (.address6 [0, 0, 0, 0, 0, 0, 0, 1])
        port := some 8000, path := .segments [""]
        query := some "token=other" } := eq_ok_of_toOption (by decide +kernel)
  have hsame := h .endpoint _ _ _ _ rfl hu hv rfl rfl rfl rfl rfl
  exact absurd hsame (by decide +kernel)

end ConfigKey

end CapabilityMesh
