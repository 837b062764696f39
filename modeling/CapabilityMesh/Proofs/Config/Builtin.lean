/-
Built-in values pass the checks of their own keys.  All but one are checked as they stand.
The registry's address names its host in ASCII letters, and no such letter runs from right
to left, so that the name stands for itself whatever else the tables of directions hold.
-/
import CapabilityMesh.Proofs.Config.Soundness
import CapabilityMesh.Proofs.Text.Letter
import CapabilityMesh.Proofs.Url.Site

namespace CapabilityMesh

namespace Text

namespace Direction

/-- The directions that bring the directions of a name into question. -/
def backward : List Direction := [rightToLeft, arabicLetter, arabicNumber]

set_option maxRecDepth 10000 in
theorem backward_beyond_ascii : (ranges.all fun entry =>
    !backward.contains entry.1 || entry.2.all fun range => 0x80 ≤ range.1) = true := by
  have hbackward : backward.contains rightToLeft = true ∧
      backward.contains arabicLetter = true ∧ backward.contains arabicNumber = true := by
    decide
  have hother : ∀ d ∈ [europeanNumber, numberSign, numberEnd, numberSeparator, mark,
      boundary, neutral], backward.contains d = false := by decide
  simp only [List.forall_mem_cons] at hother
  simp only [ranges, List.all_cons, List.all_nil, hbackward, hother, Bool.not_true,
    Bool.not_false, Bool.false_or, Bool.true_or, Bool.and_true, Bool.and_eq_true]
  refine ⟨Ranges.all_ofText ?_, Ranges.all_ofText ?_, Ranges.all_ofText ?_⟩
  · decide +kernel
  · decide +kernel
  · decide +kernel

theorem backward_of_find? {table : List (Direction × Ranges)} {entry : Direction × Ranges}
    {n : Nat} (htable : (table.all fun entry =>
      !backward.contains entry.1 || entry.2.all fun range => 0x80 ≤ range.1) = true)
    (hn : n < 0x80) (hentry : table.find? (fun entry => entry.2.contains n) = some entry) :
    backward.contains entry.1 = false := by
  have hrow := List.all_eq_true.mp htable entry (List.mem_of_find?_eq_some hentry)
  have hfound := List.find?_some hentry
  obtain ⟨range, hrange, hin⟩ := List.any_eq_true.mp hfound
  rw [Bool.eq_false_iff]
  intro hbackward
  rw [hbackward, Bool.not_true, Bool.false_or, List.all_eq_true] at hrow
  have hfirst := of_decide_eq_true (hrow range hrange)
  have hbounds := of_decide_eq_true hin
  omega

theorem backward_of_ascii {c : Char} (hc : c.toNat < 0x80) :
    backward.contains (of c) = false := by
  -- Only the name of the function is unfolded, so that nothing evaluates the table.
  obtain ⟨direction, hdirection⟩ : ∃ direction, of = direction := ⟨of, rfl⟩
  rw [hdirection]
  delta of at hdirection
  subst hdirection
  beta_reduce
  split
  · rename_i entry hentry
    exact backward_of_find? backward_beyond_ascii hc hentry
  · rfl

end Direction

end Text

namespace Url

theorem hasRightToLeft_ascii {label : List Char}
    (hascii : (label.all fun c => c.toNat < 0x80) = true) : hasRightToLeft label = false := by
  rw [hasRightToLeft, List.any_eq_false]
  intro c hc
  rw [Bool.not_eq_true]
  exact Text.Direction.backward_of_ascii (of_decide_eq_true (List.all_eq_true.mp hascii c hc))

/-- A domain without letters from right to left is judged label by label. -/
theorem domainToAscii?_eq {cs : List Char} {folded labels : List (List Char)}
    (hfolded : cs.mapM foldCharacter? = some folded)
    (hlabels : (Text.splitOn '.' (Text.canonical folded.flatten)).mapM labelCharacters? =
      some labels) (hmixed : labels.any hasRightToLeft = false) :
    domainToAscii? cs =
      if labels.all (labelOk false) then some (['.'].intercalate (labels.map labelToAscii))
      else none := by
  rw [domainToAscii?, hfolded]
  simp only [Option.bind_eq_bind, Option.bind_some, hlabels, hmixed]

theorem domainToAscii?_localhost :
    domainToAscii? "localhost".toList = some "localhost".toList := by
  have hlabel : hasRightToLeft "localhost".toList = false :=
    hasRightToLeft_ascii rfl
  have hmixed : ["localhost".toList].any hasRightToLeft = false := by
    simp only [List.any_cons, List.any_nil, hlabel, Bool.or_false]
  have hfolded : "localhost".toList.mapM foldCharacter? =
      some ("localhost".toList.map fun c => [c]) := by decide +kernel
  rw [domainToAscii?_eq hfolded (by decide +kernel) hmixed]
  decide +kernel

theorem read_domain {cs name : List Char} {decoded : String}
    (hbracket : ∀ rest, cs ≠ '[' :: rest)
    (hdecoded : Text.ofUtf8? (decodeBytes cs) = some decoded)
    (hname : domainToAscii? decoded.toList = some name) (hne : name.isEmpty = false)
    (hnumber : endsInNumber name = false) :
    Host.read cs = .ok (.domain (String.ofList name)) := by
  rw [Host.read.eq_def]
  split
  · exact absurd rfl (hbracket _)
  · simp only [hdecoded, hname, hne, hnumber]
    rfl

/-- A host and a port that can be read make a site without credentials. -/
theorem readSite_of_read {scheme : String} {cs name digits more : List Char} {host : Host}
    {port : Option Nat} (hspecial : isSpecialScheme scheme = true)
    (hparts : siteParts scheme cs = ({ scheme, path := .segments [] }, cs))
    (hsplit : splitHost false cs = (name, ':' :: digits)) (hne : name.isEmpty = false)
    (hread : Host.read name = .ok host) (hhost : host.isEmpty = false)
    (hport : readPort 0 false digits = .ok (port, more)) :
    readSite scheme cs = .ok
      { scheme, host := some host
        port := if port = defaultPort? scheme then none else port
        path := .segments [] } := by
  rw [readSite, hparts, readHost]
  simp only [hsplit, hspecial, hne, hread, hhost, hport, Bool.and_false, Bool.false_eq_true,
    if_false, if_true, ok_bind, Option.all_some]

/-- The registry on one's own machine. -/
theorem parse_localhost : Url.parse "http://localhost:8000" = .ok
    { scheme := "http", host := some (.domain "localhost"), port := some 8000
      path := .segments [""] } := by
  have hname : Host.read "localhost".toList = .ok (.domain "localhost") := by
    have hdecoded : Text.ofUtf8? (decodeBytes "localhost".toList) = some "localhost" := by
      decide +kernel
    exact read_domain (by simp) hdecoded domainToAscii?_localhost (by decide)
      (by decide +kernel)
  have hsplit : splitHost false "localhost:8000".toList =
      ("localhost".toList, ':' :: "8000".toList) := by decide +kernel
  have hport : readPort 0 false "8000".toList = .ok (some 8000, []) := by decide +kernel
  have hsite : readSite "http" "localhost:8000".toList = .ok
      { scheme := "http", host := some (.domain "localhost"), port := some 8000
        path := .segments [] } :=
    readSite_of_read rfl (by decide +kernel) hsplit (by decide) hname (by decide +kernel) hport
  have hscheme : readScheme? (significant "http://localhost:8000") =
      some ("http", "//localhost:8000".toList) := by decide +kernel
  have hhead : ("//localhost:8000".toList.dropWhile (isSlash true)).takeWhile
      (fun c => !isSiteEnd c) = "localhost:8000".toList := by decide +kernel
  have htail : ("//localhost:8000".toList.dropWhile (isSlash true)).dropWhile
      (fun c => !isSiteEnd c) = [] := by decide +kernel
  rw [parse]
  simp only [hscheme]
  rw [readBehindScheme, if_neg (by decide), if_pos (by decide), readAuthority_special (by decide),
    hhead, htail, hsite]
  exact congrArg Except.ok (by decide +kernel)

end Url

theorem ConfigKey.accepts_builtin {key : ConfigKey} {text : String}
    (hbuiltin : key.builtin? = some text) : key.accepts text = true := by
  cases key with
  | registryUrl =>
      obtain rfl := Option.some.inj hbuiltin
      have htrim : Text.trim "http://localhost:8000" = "http://localhost:8000" := by
        decide +kernel
      rw [accepts_iff, htrim, kind, check_url, FieldValue.isWebAddress_iff]
      exact ⟨by decide, _, Url.parse_localhost, by decide⟩
  | agentId | endpoint => cases hbuiltin
  | _ =>
      obtain rfl := Option.some.inj hbuiltin
      decide +kernel

end CapabilityMesh
