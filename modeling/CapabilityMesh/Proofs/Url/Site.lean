/-
The parts of a web address.  The scheme is the text before the first colon; the site, with
its credentials, host and port, depends on the text before the first slash behind it; and
what follows is read as path, query and fragment, whatever the site is.
-/
import CapabilityMesh.Proofs.Text.Strip
import CapabilityMesh.Proofs.Url.Kept

namespace CapabilityMesh

namespace Url

/-- Whether a character ends the site of a web address. -/
def isSiteEnd (c : Char) : Bool :=
  isSlash true c || isPathEnd c

theorem readPort_digits {cs more : List Char} {value : Nat} {seen : Bool} {port : Option Nat}
    (hcs : ∀ c ∈ cs, isSiteEnd c = false)
    (hport : readPort value seen cs = .ok (port, more)) :
    more = [] ∧ ∀ c ∈ cs, (Text.digit? c).isSome = true := by
  induction cs generalizing value seen with
  | nil =>
      obtain ⟨-, rfl⟩ := Prod.mk.inj (Except.ok.inj hport)
      exact ⟨rfl, by simp⟩
  | cons c cs ih =>
      obtain ⟨hc, hrest⟩ := List.forall_mem_cons.mp hcs
      rw [readPort] at hport
      split at hport
      · rename_i d hdigit
        simp only at hport
        split at hport
        · obtain ⟨hmore, hdigits⟩ := ih hrest hport
          refine ⟨hmore, List.forall_mem_cons.mpr ⟨?_, hdigits⟩⟩
          rw [hdigit]
          rfl
        · cases hport
      · rw [if_neg] at hport
        · cases hport
        · simp only [isSiteEnd, isSlash, isPathEnd, Bool.or_eq_false_iff] at hc
          simp_all

/-- A host ends where the text does, or at the colon of its port. -/
theorem splitHost_append (inside : Bool) (cs : List Char) :
    (splitHost inside cs).1 ++ (splitHost inside cs).2 = cs ∧
      ((splitHost inside cs).2 = [] ∨ ∃ digits, (splitHost inside cs).2 = ':' :: digits) := by
  induction cs generalizing inside with
  | nil => exact ⟨rfl, Or.inl rfl⟩
  | cons c cs ih =>
      rw [splitHost.eq_def]
      simp only
      split
      · rename_i hcolon
        simp only [Bool.and_eq_true, decide_eq_true_eq] at hcolon
        exact ⟨rfl, Or.inr ⟨cs, by rw [hcolon.1]⟩⟩
      · obtain ⟨happend, hends⟩ :=
          ih (if c = '[' then true else if c = ']' then false else inside)
        exact ⟨by rw [List.cons_append, happend], hends⟩

/-- What the host and the port of a web address consist of. -/
theorem readHost_ok {u site : Url} {cs more : List Char}
    (hspecial : isSpecialScheme u.scheme = true) (hcs : ∀ c ∈ cs, isSiteEnd c = false)
    (hhost : readHost u cs = .ok (site, more)) :
    more = [] ∧ (∃ host port, site = { u with host := some host, port := port }) ∧
      ∃ name digits, (cs = name ∨ cs = name ++ ':' :: digits) ∧ name ≠ [] ∧
        (Host.read name).isOk = true ∧ ∀ c ∈ digits, (Text.digit? c).isSome = true := by
  obtain ⟨happend, hends⟩ := splitHost_append false cs
  rw [readHost] at hhost
  generalize splitHost false cs = parts at happend hends hhost
  obtain ⟨name, rest⟩ := parts
  simp only [hspecial, Bool.true_and, if_true] at hhost
  split at hhost
  · cases hhost
  · rename_i hname
    have hne : name ≠ [] := by simpa using hname
    obtain ⟨host, hread, hhost⟩ := bind_eq_ok.mp hhost
    have hok : (Host.read name).isOk = true := by
      rw [hread]
      rfl
    rcases hends with hnone | ⟨digits, hdigits⟩
    · obtain rfl : rest = [] := hnone
      obtain ⟨rfl, rfl⟩ := Prod.mk.inj (Except.ok.inj hhost)
      refine ⟨rfl, ⟨host, u.port, rfl⟩, name, [], Or.inl ?_, hne, hok, by simp⟩
      simpa using happend.symm
    · obtain rfl : rest = ':' :: digits := hdigits
      simp only at hhost
      split at hhost
      · cases hhost
      · obtain ⟨⟨port, behind⟩, hport, hhost⟩ := bind_eq_ok.mp hhost
        obtain ⟨rfl, rfl⟩ := Prod.mk.inj (Except.ok.inj hhost)
        have hin : ∀ c ∈ digits, isSiteEnd c = false := by
          intro c hc
          apply hcs
          rw [← happend]
          exact List.mem_append_right _ (List.mem_cons_of_mem _ hc)
        obtain ⟨hmore, hall⟩ := readPort_digits hin hport
        exact ⟨hmore, ⟨host, _, rfl⟩, name, digits, Or.inr happend.symm, hne, hok, hall⟩

theorem splitLast?_append {sep : Char} {cs front back : List Char}
    (hsplit : splitLast? sep cs = some (front, back)) : cs = front ++ sep :: back := by
  rw [splitLast?] at hsplit
  split at hsplit
  · cases hsplit
  · rename_i c before hdrop
    obtain ⟨rfl, rfl⟩ := Prod.mk.inj (Option.some.inj hsplit)
    have hsep : c = sep := by
      have hfirst := List.head_dropWhile_not (· != sep) (l := cs.reverse) (by simp [hdrop])
      simpa [hdrop] using hfirst
    have hparts : cs.reverse.takeWhile (· != sep) ++ c :: before = cs.reverse := by
      rw [← hdrop, List.takeWhile_append_dropWhile]
    have hback := congrArg List.reverse hparts
    rw [List.reverse_reverse, List.reverse_append, List.reverse_cons, hsep] at hback
    simpa using hback.symm

/-- The credentials of a site, and its host with the port. -/
def siteParts (scheme : String) (cs : List Char) : Url × List Char :=
  let bare : Url := { scheme := scheme, path := .segments [] }
  match splitLast? '@' cs with
  | none => (bare, cs)
  | some ([], host) => (bare, host)
  | some (info, host) => (readCredentials bare info, host)

def readSite (scheme : String) (cs : List Char) : Except UrlFault Url := do
  let (u, _) ← readHost (siteParts scheme cs).1 (siteParts scheme cs).2
  if !u.credentials.isEmpty && (u.host.all Host.isEmpty) then .error .emptyHost
  .ok u

theorem siteParts_spec (scheme : String) (cs : List Char) :
    (∃ username password, (siteParts scheme cs).1 =
      { scheme, username, password, path := .segments [] }) ∧
      ((siteParts scheme cs).2 = cs ∨
        ∃ front, cs = front ++ '@' :: (siteParts scheme cs).2) := by
  rw [siteParts]
  split
  · exact ⟨⟨"", "", rfl⟩, Or.inl rfl⟩
  · rename_i host hsplit
    exact ⟨⟨"", "", rfl⟩, Or.inr ⟨[], splitLast?_append hsplit⟩⟩
  · rename_i info host _ hsplit
    exact ⟨⟨_, _, rfl⟩, Or.inr ⟨info, splitLast?_append hsplit⟩⟩

/-- The site of a web address does not depend on what follows, nor does what follows
depend on the site. -/
theorem readAuthority_special {scheme : String} (hspecial : isSpecialScheme scheme = true)
    (cs : List Char) :
    readAuthority scheme cs =
      (readSite scheme (cs.takeWhile fun c => !isSiteEnd c)).map fun u =>
        readRootedPath u (cs.dropWhile fun c => !isSiteEnd c) := by
  have hend : (fun c => !(isSlash (isSpecialScheme scheme) c || isPathEnd c)) =
      fun c => !isSiteEnd c := by
    rw [hspecial]
    rfl
  have hcs : ∀ c ∈ cs.takeWhile fun c => !isSiteEnd c, isSiteEnd c = false := by
    intro c hc
    simpa using List.mem_takeWhile_imp hc
  rw [readAuthority, readSite]
  simp only [hend]
  generalize (cs.takeWhile fun c => !isSiteEnd c) = authority at hcs
  generalize (cs.dropWhile fun c => !isSiteEnd c) = rest
  obtain ⟨⟨username, password, hbare⟩, hhost⟩ := siteParts_spec scheme authority
  have hin : ∀ c ∈ (siteParts scheme authority).2, isSiteEnd c = false := by
    intro c hc
    apply hcs
    rcases hhost with hall | ⟨front, hfront⟩
    · exact hall ▸ hc
    · rw [hfront]
      exact List.mem_append_right _ (List.mem_cons_of_mem _ hc)
  have hscheme : isSpecialScheme (siteParts scheme authority).1.scheme = true := by
    rw [hbare]
    exact hspecial
  -- Behind the host, nothing of the authority is left for the path.
  have hread : ∀ parts : Url × List Char, parts = siteParts scheme authority →
      (do
        let (u, more) ← readHost parts.1 parts.2
        if !u.credentials.isEmpty && (u.host.all Host.isEmpty) then .error .emptyHost
        .ok (readRootedPath u (more ++ rest))) =
      ((do
        let (u, _) ← readHost (siteParts scheme authority).1 (siteParts scheme authority).2
        if !u.credentials.isEmpty && (u.host.all Host.isEmpty) then .error .emptyHost
        .ok u) : Except UrlFault Url).map fun u => readRootedPath u rest := by
    rintro parts rfl
    cases hhost : readHost (siteParts scheme authority).1 (siteParts scheme authority).2 with
    | error fault => rfl
    | ok found =>
        obtain ⟨u, more⟩ := found
        obtain ⟨rfl, -⟩ := readHost_ok hscheme hin hhost
        simp only [ok_bind]
        split <;> rfl
  cases hsplit : splitLast? '@' authority with
  | none => exact hread _ (by rw [siteParts, hsplit])
  | some parts =>
      obtain ⟨info, host⟩ := parts
      cases info with
      | nil =>
          simp only
          split
          · -- An empty host is refused before it is read, or when it is.
            rename_i hempty
            obtain rfl : host = [] := by simp_all
            have hparts : siteParts scheme authority =
                ({ scheme := scheme, path := .segments [] }, []) := by
              rw [siteParts, hsplit]
            rw [hparts]
            simp [readHost, splitHost, hspecial]
            rfl
          · exact hread _ (by rw [siteParts, hsplit])
      | cons c info => exact hread _ (by rw [siteParts, hsplit])

def isSchemeChar (c : Char) : Bool :=
  c.isAlphanum || c == '+' || c == '-' || c == '.'

theorem readScheme?_eq_some {cs rest : List Char} {scheme : String} :
    readScheme? cs = some (scheme, rest) ↔ cs.head?.any Char.isAlpha = true ∧
      cs.dropWhile isSchemeChar = ':' :: rest ∧
      String.ofList ((cs.takeWhile isSchemeChar).map Text.lowerAscii) = scheme := by
  have hscheme : (fun c : Char => c.isAlphanum || c == '+' || c == '-' || c == '.') =
      isSchemeChar := rfl
  cases cs with
  | nil => simp [readScheme?]
  | cons c cs =>
      rw [readScheme?.eq_def]
      simp only [hscheme, List.head?_cons, Option.any_some]
      split
      · rename_i more hletter hmore
        rw [hletter, hmore]
        simp only [Option.some.injEq, Prod.mk.injEq, List.cons.injEq, true_and]
        exact and_comm
      · rename_i hnone
        constructor
        · rintro ⟨⟩
        · rintro ⟨hletter, hcolon, -⟩
          exact absurd hcolon (hnone rest hletter)

theorem isSpecialScheme_web {scheme : String} (h : scheme = "http" ∨ scheme = "https") :
    isSpecialScheme scheme = true := by
  rcases h with rfl | rfl
  · rfl
  · rfl

theorem isWeb_iff {u : Url} : u.isWeb = true ↔ u.scheme = "http" ∨ u.scheme = "https" := by
  simp [isWeb]

/-- A text is a web address if one of the two schemes stands at its head, and a site behind
it. -/
theorem parse_web_iff {s : String} {u : Url} :
    parse s = .ok u ∧ u.isWeb = true ↔ (u.scheme = "http" ∨ u.scheme = "https") ∧
      ∃ rest, readScheme? (significant s) = some (u.scheme, rest) ∧
        readAuthority u.scheme (rest.dropWhile (isSlash true)) = .ok u := by
  have hspecial : ∀ {scheme : String}, scheme = "http" ∨ scheme = "https" →
      ∀ cs, readBehindScheme scheme cs = readAuthority scheme (cs.dropWhile (isSlash true)) := by
    rintro scheme (rfl | rfl) cs
    · rfl
    · rfl
  rw [isWeb_iff, parse]
  constructor
  · rintro ⟨hread, hweb⟩
    split at hread
    · rename_i scheme rest hscheme
      have hsame := scheme_readBehindScheme hread
      rw [hsame] at hweb ⊢
      rw [hspecial hweb] at hread
      exact ⟨hweb, rest, hscheme, hread⟩
    · cases hread
  · rintro ⟨hweb, rest, hscheme, hread⟩
    rw [hscheme]
    exact ⟨(hspecial hweb rest).trans hread, hweb⟩

/-- What stands before the path of a web address, and the address without its path that is
read from it. -/
structure IsFront (front : List Char) (bare : Url) : Prop where
  scheme : bare.scheme = "http" ∨ bare.scheme = "https"
  path : bare.path = .segments []
  query : bare.query = none
  fragment : bare.fragment = none
  /-- It ends in its site. -/
  ends : ∃ c, front.getLast? = some c ∧ isSiteEnd c = false
  /-- Whatever path stands behind it is read alone. -/
  parse : ∀ (s : String) (rest : List Char), significant s = front ++ rest →
    (∀ c, rest.head? = some c → isSiteEnd c = true) → parse s = .ok (readRootedPath bare rest)

theorem readSite_nil {scheme : String} (hspecial : isSpecialScheme scheme = true) :
    readSite scheme [] = .error .emptyHost := by
  rw [readSite]
  simp [siteParts, splitLast?, readHost, splitHost, hspecial]
  rfl

/-- A site has no path, and nothing stands behind it. -/
theorem readSite_ok {scheme : String} {cs : List Char} {bare : Url}
    (hspecial : isSpecialScheme scheme = true) (hcs : ∀ c ∈ cs, isSiteEnd c = false)
    (hread : readSite scheme cs = .ok bare) :
    bare.scheme = scheme ∧ bare.path = .segments [] ∧ bare.query = none ∧
      bare.fragment = none := by
  obtain ⟨⟨username, password, hbare⟩, hhost⟩ := siteParts_spec scheme cs
  rw [readSite] at hread
  generalize siteParts scheme cs = parts at hbare hhost hread
  obtain ⟨start, host⟩ := parts
  simp only at hbare hhost hread
  subst hbare
  have hin : ∀ c ∈ host, isSiteEnd c = false := by
    intro c hc
    apply hcs
    rcases hhost with hall | ⟨front, hfront⟩
    · exact hall ▸ hc
    · rw [hfront]
      exact List.mem_append_right _ (List.mem_cons_of_mem _ hc)
  obtain ⟨⟨site, more⟩, hsite, hread⟩ := bind_eq_ok.mp hread
  obtain ⟨-, ⟨found, port, rfl⟩, -⟩ := readHost_ok hspecial hin hsite
  simp only at hread
  split at hread
  · cases hread
  · obtain rfl := Except.ok.inj hread
    exact ⟨rfl, rfl, rfl, rfl⟩

/-- A scheme is what stands before the first colon. -/
theorem readScheme?_iff {cs rest : List Char} {scheme : String} :
    readScheme? cs = some (scheme, rest) ↔ ∃ name, cs = name ++ ':' :: rest ∧
      name.head?.any Char.isAlpha = true ∧ (∀ c ∈ name, isSchemeChar c = true) ∧
      String.ofList (name.map Text.lowerAscii) = scheme := by
  have hcolon : isSchemeChar ':' = false := by decide
  have hhead : ∀ name : List Char, (name ++ ':' :: rest).head?.any Char.isAlpha =
      name.head?.any Char.isAlpha := by
    intro name
    cases name with
    | nil =>
        show Char.isAlpha ':' = false
        decide
    | cons c name => rfl
  rw [readScheme?_eq_some]
  constructor
  · rintro ⟨hletter, hdrop, hname⟩
    have hcs := List.takeWhile_append_dropWhile (p := isSchemeChar) (l := cs)
    rw [hdrop] at hcs
    rw [← hcs, hhead] at hletter
    exact ⟨_, hcs.symm, hletter, fun c hc => List.mem_takeWhile_imp hc, hname⟩
  · rintro ⟨name, rfl, hletter, hname, hscheme⟩
    rw [hhead, List.dropWhile_append_of_pos hname, List.takeWhile_append_of_pos hname,
      List.dropWhile_cons_of_neg (by simp [hcolon]),
      List.takeWhile_cons_of_neg (by simp [hcolon]), List.append_nil]
    exact ⟨hletter, rfl, hscheme⟩

/-- A part is what stands before the first character that ends it. -/
theorem takeWhile_append_end {p : Char → Bool} {part rest : List Char}
    (hpart : ∀ c ∈ part, p c = false) (hrest : ∀ c, rest.head? = some c → p c = true) :
    ((part ++ rest).takeWhile fun c => !p c) = part ∧
      ((part ++ rest).dropWhile fun c => !p c) = rest := by
  have hpos : ∀ c ∈ part, (!p c) = true := fun c hc => by simp [hpart c hc]
  rw [List.takeWhile_append_of_pos hpos, List.dropWhile_append_of_pos hpos]
  cases rest with
  | nil => exact ⟨List.append_nil _, rfl⟩
  | cons c rest =>
      have hc := hrest c rfl
      rw [List.takeWhile_cons_of_neg (by simp [hc]), List.dropWhile_cons_of_neg (by simp [hc])]
      exact ⟨List.append_nil _, rfl⟩

/-- What stands before the first character that ends it, and the rest, are told by the text
of both. -/
theorem append_end_inj {p : Char → Bool} {part other rest more : List Char}
    (hpart : ∀ c ∈ part, p c = false) (hother : ∀ c ∈ other, p c = false)
    (hrest : ∀ c, rest.head? = some c → p c = true)
    (hmore : ∀ c, more.head? = some c → p c = true) (heq : part ++ rest = other ++ more) :
    part = other ∧ rest = more := by
  obtain ⟨htake, hdrop⟩ := takeWhile_append_end hpart hrest
  obtain ⟨htake', hdrop'⟩ := takeWhile_append_end hother hmore
  rw [heq] at htake hdrop
  exact ⟨htake.symm.trans htake', hdrop.symm.trans hdrop'⟩

theorem head?_dropWhile_not {p : Char → Bool} {cs : List Char} {c : Char}
    (hc : (cs.dropWhile fun c => !p c).head? = some c) : p c = true := by
  rcases Text.dropWhile_cases (fun c => !p c) cs with hnone | ⟨d, rest, hrest, hd⟩
  · rw [hnone] at hc
    cases hc
  · rw [hrest] at hc
    obtain rfl := Option.some.inj hc
    simpa using hd

/-- A name, a colon, slashes and a site make a web address of whatever path stands behind
them. -/
theorem parse_parts {s : String} {scheme : String} {name slashes site rest : List Char}
    {bare : Url} (hscheme : scheme = "http" ∨ scheme = "https")
    (hletter : name.head?.any Char.isAlpha = true) (hname : ∀ c ∈ name, isSchemeChar c = true)
    (hlower : String.ofList (name.map Text.lowerAscii) = scheme)
    (hslashes : ∀ c ∈ slashes, isSlash true c = true)
    (hsite : ∀ c ∈ site, isSiteEnd c = false) (hne : site ≠ [])
    (hbare : readSite scheme site = .ok bare) (hsame : bare.scheme = scheme)
    (hs : significant s = (name ++ ':' :: slashes) ++ site ++ rest)
    (hrest : ∀ c, rest.head? = some c → isSiteEnd c = true) :
    parse s = .ok (readRootedPath bare rest) := by
  have hread : readScheme? (significant s) = some (scheme, slashes ++ (site ++ rest)) :=
    readScheme?_iff.mpr ⟨name, by simp [hs], hletter, hname, hlower⟩
  have hstart : (site ++ rest).dropWhile (isSlash true) = site ++ rest := by
    cases site with
    | nil => exact absurd rfl hne
    | cons c site =>
        have hc : isSlash true c = false :=
          (Bool.or_eq_false_iff.mp (hsite c List.mem_cons_self)).1
        exact List.dropWhile_cons_of_neg (by simp [hc])
  obtain ⟨htake, hdrop⟩ := takeWhile_append_end hsite hrest
  have hauthority : readAuthority scheme ((slashes ++ (site ++ rest)).dropWhile
      (isSlash true)) = .ok (readRootedPath bare rest) := by
    rw [List.dropWhile_append_of_pos hslashes, hstart,
      readAuthority_special (isSpecialScheme_web hscheme), htake, hdrop, hbare]
    rfl
  have hkept : (readRootedPath bare rest).scheme = scheme :=
    (scheme_readRootedPath bare rest).trans hsame
  rw [← hkept] at hscheme hread hauthority
  exact (parse_web_iff.mpr ⟨hscheme, _, hread, hauthority⟩).1

theorem exists_front {s : String} {u : Url} (hread : parse s = .ok u) (hweb : u.isWeb = true) :
    ∃ front rest bare, IsFront front bare ∧ significant s = front ++ rest ∧
      (∀ c, rest.head? = some c → isSiteEnd c = true) ∧ u = readRootedPath bare rest := by
  obtain ⟨hscheme, more, hmore, hauthority⟩ := parse_web_iff.mp ⟨hread, hweb⟩
  have hspecial := isSpecialScheme_web hscheme
  obtain ⟨name, hs, hletter, hname, hlower⟩ := readScheme?_iff.mp hmore
  obtain ⟨slashes, hslashes, hbehind⟩ :
      ∃ slashes, (∀ c ∈ slashes, isSlash true c = true) ∧
        more = slashes ++ more.dropWhile (isSlash true) :=
    ⟨more.takeWhile (isSlash true), fun c hc => List.mem_takeWhile_imp hc,
      List.takeWhile_append_dropWhile.symm⟩
  generalize more.dropWhile (isSlash true) = behind at hauthority hbehind
  obtain ⟨site, rest, rfl, hsite, hrest⟩ : ∃ site rest, behind = site ++ rest ∧
      (∀ c ∈ site, isSiteEnd c = false) ∧ ∀ c, rest.head? = some c → isSiteEnd c = true :=
    ⟨behind.takeWhile fun c => !isSiteEnd c, behind.dropWhile fun c => !isSiteEnd c,
      List.takeWhile_append_dropWhile.symm, fun c hc => by simpa using List.mem_takeWhile_imp hc,
      fun c hc => head?_dropWhile_not hc⟩
  obtain ⟨htake, hdrop⟩ := takeWhile_append_end hsite hrest
  rw [readAuthority_special hspecial, htake, hdrop] at hauthority
  cases hbare : readSite u.scheme site with
  | error fault =>
      rw [hbare] at hauthority
      cases hauthority
  | ok bare =>
      rw [hbare] at hauthority
      obtain ⟨hsame, hpath, hquery, hfragment⟩ := readSite_ok hspecial hsite hbare
      have hne : site ≠ [] := by
        rintro rfl
        rw [readSite_nil hspecial] at hbare
        cases hbare
      have hlast := List.getLast?_eq_some_getLast hne
      refine ⟨(name ++ ':' :: slashes) ++ site, rest, bare, ?_, by simp [hs, hbehind], hrest,
        (Except.ok.inj hauthority).symm⟩
      exact {
        scheme := hsame ▸ hscheme
        path := hpath
        query := hquery
        fragment := hfragment
        ends := ⟨_, by rw [List.getLast?_append, hlast, Option.some_or],
          hsite _ (List.mem_of_getLast? hlast)⟩
        parse := fun t others ht hothers => parse_parts hscheme hletter hname hlower hslashes
          hsite hne hbare hsame ht hothers }

end Url

end CapabilityMesh
