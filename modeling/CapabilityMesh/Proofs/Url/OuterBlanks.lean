/-
Blanks around a web address.  What stands in front of it is no part of it; what stands
behind may be read as the end of its path, but never of its site, since neither a host nor a
port ends in a blank.  So a text that is a web address is one without its outer blanks.
-/
import CapabilityMesh.Proofs.Text.Letter
import CapabilityMesh.Proofs.Text.Strip
import CapabilityMesh.Proofs.Url.Escapes
import CapabilityMesh.Proofs.Url.Site

namespace CapabilityMesh

namespace Url

/-- Whether a character is a blank outside ASCII, which is not dropped when a URL is read. -/
def isWideBlank (c : Char) : Bool :=
  Text.isBlank c && 0x20 < c.toNat

theorem toNat_of_isWideBlank {c : Char} (hc : isWideBlank c = true) : 0x85 ≤ c.toNat := by
  simp only [isWideBlank, Text.isBlank, Bool.and_eq_true, Bool.or_eq_true, beq_iff_eq,
    decide_eq_true_eq] at hc
  omega

theorem ne_of_isWideBlank {w c : Char} (hw : isWideBlank w = true) (hc : c.toNat < 0x80) :
    w ≠ c := by
  rintro rfl
  have := toNat_of_isWideBlank hw
  omega

theorem foldCharacter?_blank {c : Char} (hc : isWideBlank c = true) :
    foldCharacter? c = none := by
  have hwide := toNat_of_isWideBlank hc
  rw [isWideBlank, Bool.and_eq_true] at hc
  rw [foldCharacter?, if_neg (by omega), if_pos (by simp [hc.1])]

theorem domainToAscii?_none {c : Char} {cs : List Char} (hc : c ∈ cs)
    (hfold : foldCharacter? c = none) : domainToAscii? cs = none := by
  have hnone : cs.mapM foldCharacter? = none := by
    induction cs with
    | nil => cases hc
    | cons d cs ih =>
        rcases List.mem_cons.mp hc with rfl | hc
        · simp [hfold]
        · cases hd : foldCharacter? d <;> simp [hd, ih hc]
  rw [domainToAscii?, hnone]
  rfl

/-- What stands behind a separator ends as the whole does, if that is no separator. -/
theorem getLast?_behind {sep w : Char} {front back : List Char} (hne : w ≠ sep)
    (hlast : (front ++ sep :: back).getLast? = some w) : back.getLast? = some w := by
  rw [List.getLast?_append, List.getLast?_cons] at hlast
  cases hback : back.getLast? with
  | none =>
      rw [hback] at hlast
      exact absurd (Option.some.inj hlast).symm hne
  | some c =>
      rw [hback] at hlast
      exact hlast

theorem Host.read_blank {w : Char} (hw : isWideBlank w = true) {cs : List Char}
    (hlast : cs.getLast? = some w) : (Host.read cs).isOk = false := by
  have hwide : 0x80 ≤ w.toNat := by
    have := toNat_of_isWideBlank hw
    omega
  rw [Host.read.eq_def]
  split
  · rename_i rest
    have hbracket : ([] ++ '[' :: rest).getLast? = some w := hlast
    have hrest := getLast?_behind (ne_of_isWideBlank hw (by decide)) hbracket
    rw [readBracketed, if_neg]
    · rfl
    · rw [hrest, Option.some.injEq]
      exact ne_of_isWideBlank hw (by decide)
  · obtain ⟨front, rfl⟩ := List.getLast?_eq_some_iff.mp hlast
    rw [decodeBytes_concat hwide]
    cases hdecoded : Text.ofUtf8? (decodeBytes front ++ Text.utf8OfChar w) with
    | none => rfl
    | some s =>
        have hfound := Text.mem_scanUtf8 (decodeBytes front) w []
        rw [List.append_nil, Text.scanUtf8_of_ofUtf8? hdecoded] at hfound
        obtain ⟨c, hc, hsame⟩ := List.mem_map.mp hfound
        obtain rfl := Option.some.inj hsame
        simp only [domainToAscii?_none hc (foldCharacter?_blank hw)]
        rfl

/-- Nor does a site, since no port does either. -/
theorem readSite_blank {scheme : String} (hspecial : isSpecialScheme scheme = true)
    {cs : List Char} (hcs : ∀ c ∈ cs, isSiteEnd c = false) {w : Char}
    (hw : isWideBlank w = true) (hlast : cs.getLast? = some w) :
    (readSite scheme cs).isOk = false := by
  obtain ⟨⟨username, password, hbare⟩, hhost⟩ := siteParts_spec scheme cs
  rw [readSite]
  generalize siteParts scheme cs = parts at hbare hhost
  obtain ⟨bare, host⟩ := parts
  simp only at hbare hhost
  obtain ⟨hhostLast, hin⟩ : host.getLast? = some w ∧ ∀ c ∈ host, isSiteEnd c = false := by
    rcases hhost with rfl | ⟨front, rfl⟩
    · exact ⟨hlast, hcs⟩
    · exact ⟨getLast?_behind (ne_of_isWideBlank hw (by decide)) hlast,
        fun c hc => hcs c (List.mem_append_right _ (List.mem_cons_of_mem _ hc))⟩
  cases hread : readHost bare host with
  | error fault => rfl
  | ok found =>
      obtain ⟨site, more⟩ := found
      have hscheme : isSpecialScheme bare.scheme = true := by
        rw [hbare]
        exact hspecial
      obtain ⟨-, -, name, digits, hparts, -, hok, hdigits⟩ := readHost_ok hscheme hin hread
      rcases hparts with rfl | rfl
      · rw [Host.read_blank hw hhostLast] at hok
        cases hok
      · have hport := getLast?_behind (ne_of_isWideBlank hw (by decide)) hhostLast
        have hdigit := hdigits w (List.mem_of_getLast? hport)
        have hwide := toNat_of_isWideBlank hw
        rw [digit?_wide (by omega)] at hdigit
        cases hdigit

theorem isBlank_of_isAlpha {c : Char} (hc : c.isAlpha = true) : Text.isBlank c = false := by
  apply Text.isBlank_of_isAlphanum
  change (c.isAlpha || c.isDigit) = true
  rw [hc, Bool.true_or]

/-- Whether a character is dropped at both ends when a URL is read. -/
def isOuter (c : Char) : Bool :=
  c.toNat ≤ 0x20

def counts (c : Char) : Bool :=
  !(c == '\t' || c == '\n' || c == '\r')

theorem counts_of_not_isOuter {c : Char} (hc : isOuter c = false) : counts c = true := by
  have hne : ∀ {d : Char}, isOuter d = true → c ≠ d := by
    rintro d hd rfl
    rw [hc] at hd
    cases hd
  simp [counts, hne (show isOuter '\t' = true by decide),
    hne (show isOuter '\n' = true by decide), hne (show isOuter '\r' = true by decide)]

theorem significant_eq (s : String) :
    significant s = (Text.strip isOuter s.toList).filter counts :=
  rfl

/-- What counts of a text that begins with a letter counts without outer blanks, too, up to
blanks and controls at the end. -/
theorem significant_trim {s : String} {c : Char} (hfirst : (significant s).head? = some c)
    (hc : c.isAlpha = true) :
    ∃ behind, significant s = significant (Text.trim s) ++ behind ∧
      (∀ d ∈ behind, isOuter d = true ∨ Text.isBlank d = true) ∧
      ∀ d, behind.getLast? = some d → isWideBlank d = true := by
  simp only [significant_eq, Text.trim, String.toList_ofList] at hfirst ⊢
  have hfront : ∀ d ∈ s.toList.takeWhile isOuter, isOuter d = true := fun d hd =>
    List.mem_takeWhile_imp hd
  have hcs := List.takeWhile_append_dropWhile (p := isOuter) (l := s.toList)
  rcases Text.dropWhile_cases isOuter s.toList with hnone | ⟨d, rest, hdrop, hd⟩
  · rw [Text.strip, hnone] at hfirst
    cases hfirst
  · rw [hdrop] at hcs
    generalize s.toList.takeWhile isOuter = front at hcs hfront
    have hnone : front.dropWhile isOuter = [] := List.dropWhile_eq_nil_iff.mpr hfront
    have hless : (front.dropWhile Text.isBlank).dropWhile isOuter = [] :=
      List.dropWhile_eq_nil_iff.mpr fun e he =>
        hfront e ((List.dropWhile_suffix _).subset he)
    have hd' := counts_of_not_isOuter hd
    rw [← hcs, Text.strip_append_cons hd, hnone, List.nil_append,
      List.filter_cons_of_pos hd'] at hfirst ⊢
    obtain rfl : d = c := Option.some.inj hfirst
    rw [Text.strip_append_cons (isBlank_of_isAlpha hc), Text.strip_append_cons hd, hless,
      List.nil_append, List.filter_cons_of_pos hd']
    obtain ⟨behind, hbehind, hmem, hlast⟩ :=
      Text.exists_dropEnd_eq_append isOuter Text.isBlank rest
    refine ⟨behind.filter counts, ?_, fun e he => hmem e (List.mem_of_mem_filter he), ?_⟩
    · rw [hbehind, List.filter_append]
      rfl
    · intro e he
      rcases List.eq_nil_or_concat behind with rfl | ⟨others, last, rfl⟩
      · cases he
      · obtain ⟨houter, hblank⟩ := hlast last (by simp)
        have hkept : (others.concat last).filter counts = others.filter counts ++ [last] := by
          simp [counts_of_not_isOuter houter]
        rw [hkept, List.getLast?_concat] at he
        obtain rfl := Option.some.inj he
        rw [isWideBlank, hblank, Bool.true_and]
        simpa [isOuter] using houter

section Behind

variable {behind : List Char}

/-- The controls and blanks that stand behind a URL are none of the characters that have a
meaning in it. -/
theorem toNat_behind (hbehind : ∀ d ∈ behind, isOuter d = true ∨ Text.isBlank d = true)
    {d : Char} (hd : d ∈ behind) : d.toNat ≤ 0x20 ∨ 0x85 ≤ d.toNat := by
  rcases hbehind d hd with houter | hblank
  · exact Or.inl (by simpa [isOuter] using houter)
  · simp only [Text.isBlank, Bool.or_eq_true, Bool.and_eq_true, decide_eq_true_eq,
      beq_iff_eq] at hblank
    omega

theorem ne_behind {d : Char} (hd : d.toNat ≤ 0x20 ∨ 0x85 ≤ d.toNat) (e : Char)
    (he : 0x20 < e.toNat ∧ e.toNat < 0x85) : d ≠ e := by
  rintro rfl
  omega

theorem dropWhile_append_behind {p : Char → Bool} (hp : ∀ d ∈ behind, p d = false)
    (cs : List Char) : (cs ++ behind).dropWhile p = cs.dropWhile p ++ behind := by
  rw [List.dropWhile_append, Text.dropWhile_eq_self hp]
  split
  · rename_i hnone
    rw [List.isEmpty_iff.mp hnone, List.nil_append]
  · rfl

theorem isSiteEnd_behind {d : Char} (hd : d.toNat ≤ 0x20 ∨ 0x85 ≤ d.toNat) :
    isSiteEnd d = false := by
  simp [isSiteEnd, isSlash, isPathEnd, ne_behind hd '/' (by decide),
    ne_behind hd '\\' (by decide), ne_behind hd '?' (by decide), ne_behind hd '#' (by decide)]

/-- A scheme is read from text without what stands behind a URL, too. -/
theorem readScheme?_append
    (hbehind : ∀ d ∈ behind, d.toNat ≤ 0x20 ∨ 0x85 ≤ d.toNat) {cs rest : List Char}
    {scheme : String} (hread : readScheme? (cs ++ behind) = some (scheme, rest)) :
    ∃ more, readScheme? cs = some (scheme, more) ∧ rest = more ++ behind := by
  obtain ⟨name, hcs, hletter, hname, hscheme⟩ := readScheme?_iff.mp hread
  have hcolon : ':' ∉ behind := fun hmem => absurd (hbehind ':' hmem) (by decide)
  rcases List.append_eq_append_iff.mp hcs with ⟨more, -, hmore⟩ | ⟨more, rfl, hmore⟩
  · exact absurd (by simp [hmore]) hcolon
  · cases more with
    | nil =>
        rw [List.nil_append] at hmore
        exact absurd (by simp [← hmore]) hcolon
    | cons d more =>
        obtain ⟨rfl, rfl⟩ := List.cons.inj hmore
        exact ⟨more, readScheme?_iff.mpr ⟨name, rfl, hletter, hname, hscheme⟩, rfl⟩

end Behind

theorem isAlpha_of_readScheme? {cs rest : List Char} {scheme : String}
    (hread : readScheme? cs = some (scheme, rest)) :
    ∃ c, cs.head? = some c ∧ c.isAlpha = true := by
  obtain ⟨hletter, -, -⟩ := readScheme?_eq_some.mp hread
  cases cs with
  | nil => cases hletter
  | cons c cs => exact ⟨c, rfl, hletter⟩

/-- A text that is a web address is one without its outer blanks. -/
theorem parse_trim {s : String} {u : Url} (hread : parse s = .ok u) (hweb : u.isWeb = true) :
    ∃ v, parse (Text.trim s) = .ok v ∧ v.isWeb = true := by
  obtain ⟨hscheme, rest, hrest, hsite⟩ := parse_web_iff.mp ⟨hread, hweb⟩
  obtain ⟨c, hfirst, hc⟩ := isAlpha_of_readScheme? hrest
  obtain ⟨behind, hbehind, hloose, hlast⟩ := significant_trim hfirst hc
  have hrange := fun d (hd : d ∈ behind) => toNat_behind hloose hd
  rw [hbehind] at hrest
  obtain ⟨more, hmore, rfl⟩ := readScheme?_append hrange hrest
  have hspecial := isSpecialScheme_web hscheme
  have hend : ∀ d ∈ behind, isSiteEnd d = false := fun d hd => isSiteEnd_behind (hrange d hd)
  have hslash : ∀ d ∈ behind, isSlash true d = false := fun d hd =>
    (Bool.or_eq_false_iff.mp (hend d hd)).1
  rw [dropWhile_append_behind hslash] at hsite
  -- Only the site can fail to be read, and it does not have what stands behind.
  suffices hless : ∃ v, readAuthority u.scheme (more.dropWhile (isSlash true)) = .ok v by
    obtain ⟨v, hv⟩ := hless
    have hkept := scheme_readAuthority hv
    rw [← hkept] at hscheme hmore hv
    exact ⟨v, parse_web_iff.mpr ⟨hscheme, more, hmore, hv⟩⟩
  generalize more.dropWhile (isSlash true) = cs at hsite
  rw [readAuthority_special hspecial] at hsite ⊢
  suffices hsame : (cs ++ behind).takeWhile (fun c => !isSiteEnd c) =
      cs.takeWhile fun c => !isSiteEnd c by
    rw [hsame] at hsite
    cases hread : readSite u.scheme (cs.takeWhile fun c => !isSiteEnd c) with
    | error fault =>
        rw [hread] at hsite
        cases hsite
    | ok site => exact ⟨_, rfl⟩
  by_cases hall : ∀ c ∈ cs, isSiteEnd c = false
  · -- All of it is the site, which has no blank behind it then.
    have hin : ∀ c ∈ cs ++ behind, isSiteEnd c = false := fun c hc =>
      (List.mem_append.mp hc).elim (hall c) (hend c)
    have hwhole : (cs ++ behind).takeWhile (fun c => !isSiteEnd c) = cs ++ behind :=
      List.takeWhile_eq_self_iff.mpr fun c hc => by simp [hin c hc]
    cases hblank : behind.getLast? with
    | none => rw [List.getLast?_eq_none_iff.mp hblank, List.append_nil]
    | some w =>
        have hlong : (cs ++ behind).getLast? = some w := by
          rw [List.getLast?_append, hblank, Option.some_or]
        have hfail := readSite_blank hspecial hin (hlast w hblank) hlong
        rw [hwhole] at hsite
        cases hread : readSite u.scheme (cs ++ behind) with
        | error fault =>
            rw [hread] at hsite
            cases hsite
        | ok site =>
            rw [hread] at hfail
            cases hfail
  · rw [List.takeWhile_append, if_neg]
    intro hlength
    have hself := (List.takeWhile_prefix fun c => !isSiteEnd c).eq_of_length hlength
    refine hall fun c hc => ?_
    simpa using List.takeWhile_eq_self_iff.mp hself c hc

end Url

end CapabilityMesh
