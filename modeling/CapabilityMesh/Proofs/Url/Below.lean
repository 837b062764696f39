/-
URLs below a web address.  The address, without the slashes at its end, and a path are joined
as text and read as one URL.  The path is then put behind that of the address, if nothing in
the address keeps it from being read as path.
-/
import CapabilityMesh.Proofs.Url.Segments

namespace CapabilityMesh

namespace Url

/-- Behind a front, all but the first slash and the tail is read as segments. -/
theorem IsFront.readRootedPath {front cs : List Char} {bare : Url} (hfront : IsFront front bare)
    (hcs : ∀ c, cs.head? = some c → isSlash true c = true) :
    readRootedPath bare cs = readTail
      { bare with
        path := .segments
          (addSegments true false [] [] (cs.tail.takeWhile fun c => !isPathEnd c)) }
      (cs.tail.dropWhile fun c => !isPathEnd c) := by
  have hspecial := isSpecialScheme_web hfront.scheme
  have hfile : (bare.scheme == "file") = false := by
    rcases hfront.scheme with hscheme | hscheme
    · rw [hscheme]
      rfl
    · rw [hscheme]
      rfl
  cases cs with
  | nil =>
      rw [Url.readRootedPath]
      simp only [hspecial, if_true, readPath, hfile]
      rfl
  | cons c cs =>
      rw [Url.readRootedPath]
      simp only [hspecial, hcs c rfl, if_true, readPath, hfile]
      rfl

/-- If nothing behind a front ends the path, all of it is read as segments. -/
theorem IsFront.readRootedPath_of_not_isPathEnd {front cs : List Char} {bare : Url}
    (hfront : IsFront front bare) (hcs : ∀ c, cs.head? = some c → isSlash true c = true)
    (hend : ∀ c ∈ cs, isPathEnd c = false) :
    Url.readRootedPath bare cs =
      { bare with path := .segments (addSegments true false [] [] cs.tail) } := by
  have hpos : ∀ c ∈ cs.tail, (!isPathEnd c) = true := fun c hc => by
    simp [hend c (List.mem_of_mem_tail hc)]
  rw [hfront.readRootedPath hcs, List.takeWhile_eq_self_iff.mpr hpos,
    List.dropWhile_eq_nil_iff.mpr hpos]
  rfl

/-- If a text behind a front has a path end, it is in what ends the text. -/
theorem IsFront.readRootedPath_append {front cs : List Char} {bare : Url}
    (hfront : IsFront front bare) (hcs : ∀ c ∈ cs, isPathEnd c = false) (hne : cs ≠ [])
    (hfirst : ∀ c, cs.head? = some c → isSlash true c = true) (rest : List Char) :
    Url.readRootedPath bare (cs ++ rest) = readTail
      { bare with
        path := .segments (addSegments true false [] []
          (cs ++ rest.takeWhile fun c => !isPathEnd c).tail) }
      (rest.dropWhile fun c => !isPathEnd c) := by
  have hpos : ∀ c ∈ cs.tail, (!isPathEnd c) = true := fun c hc => by
    simp [hcs c (List.mem_of_mem_tail hc)]
  rw [hfront.readRootedPath, List.tail_append_of_ne_nil hne, List.tail_append_of_ne_nil hne,
    List.takeWhile_append_of_pos hpos, List.dropWhile_append_of_pos hpos]
  intro c hc
  rw [List.head?_append_of_ne_nil _ hne] at hc
  exact hfirst c hc

/-- Slashes at the end of a web address belong to its path. -/
theorem IsFront.dropEnd {front : List Char} {bare : Url} (hfront : IsFront front bare)
    (rest : List Char) :
    Text.dropEnd (· == '/') (front ++ rest) = front ++ Text.dropEnd (· == '/') rest := by
  obtain ⟨c, hlast, hc⟩ := hfront.ends
  have hself : Text.dropEnd (· == '/') front = front := by
    refine Text.dropEnd_eq_self fun d hd => ?_
    rw [hlast] at hd
    obtain rfl := Option.some.inj hd
    exact (Bool.or_eq_false_iff.mp (Bool.or_eq_false_iff.mp hc).1).1
  rw [Text.dropEnd_append, hself]
  split
  · rename_i hnone
    rw [hnone, List.append_nil]
  · rfl

section Text

variable {cs : List Char}

theorem filter_counts (hcs : ∀ c ∈ cs, isOuter c = false) : cs.filter counts = cs :=
  List.filter_eq_self.mpr fun c hc => counts_of_not_isOuter (hcs c hc)

/-- Text without controls and blanks counts as a whole. -/
theorem significant_of_not_isOuter {s : String} (hs : ∀ c ∈ s.toList, isOuter c = false) :
    significant s = s.toList := by
  rw [significant_eq, Text.strip_eq_self hs, filter_counts hs]

/-- Behind such text, less is passed over than in front of it. -/
theorem significant_append {s : String} {c : Char} {rest : List Char}
    (hs : s.toList = cs ++ c :: rest) (hcs : ∀ c ∈ cs, isOuter c = false)
    (hc : isOuter c = false) :
    significant s = cs ++ c :: (Text.dropEnd isOuter rest).filter counts := by
  rw [significant_eq, hs, Text.strip_append_cons hc, Text.dropWhile_eq_self hcs,
    List.filter_append, filter_counts hcs, List.filter_cons_of_pos (counts_of_not_isOuter hc)]

theorem exists_slashes (cs : List Char) :
    ∃ k, cs = Text.dropEnd (· == '/') cs ++ List.replicate k '/' := by
  obtain ⟨behind, hbehind, hslashes⟩ := Text.exists_eq_dropEnd_append (· == '/') cs
  refine ⟨behind.length, ?_⟩
  rw [← List.eq_replicate_of_mem fun c hc => by simpa using hslashes c hc]
  exact hbehind

theorem lastPiece_append {c : Char} (hc : isSlash true c = true) (front : List Char) :
    lastPiece (front ++ c :: cs) = lastPiece cs := by
  have hstop : ((c :: front.reverse).takeWhile fun d => !isSlash true d) = [] :=
    List.takeWhile_cons_of_neg (by simp [hc])
  simp only [lastPiece, List.rtakeWhile, List.reverse_append, List.reverse_cons,
    List.append_assoc, List.singleton_append, List.takeWhile_append, hstop, List.append_nil]
  split
  · rename_i hall
    rw [(List.takeWhile_prefix _).eq_of_length hall]
  · rfl

end Text

/-- Whether a path can be put behind the text of an address, slashes at its end aside: it has
no query and no fragment, nothing that is passed over, and ends in a piece of its own. -/
def isPlainBase (cs : List Char) : Bool :=
  cs.all (fun c => !isOuter c && !isPathEnd c)
    && !(lastPiece (Text.dropEnd (· == '/') cs)).isEmpty
    && !isDots (lastPiece (Text.dropEnd (· == '/') cs))

theorem isPlainBase_iff {cs : List Char} : isPlainBase cs = true ↔
    (∀ c ∈ cs, isOuter c = false ∧ isPathEnd c = false) ∧
      lastPiece (Text.dropEnd (· == '/') cs) ≠ [] ∧
        isDots (lastPiece (Text.dropEnd (· == '/') cs)) = false := by
  simp [isPlainBase, and_assoc]

/-- Whether a text is one segment as it stands. -/
def isFolder (cs : List Char) : Bool :=
  isPlain cs && encode inPathSet cs == cs && cs.all fun c => !isOuter c

theorem isFolder_iff {cs : List Char} : isFolder cs = true ↔
    isPlain cs = true ∧ encode inPathSet cs = cs ∧ ∀ c ∈ cs, isOuter c = false := by
  simp [isFolder, and_assoc]

/-- What is read of a path that continues another. -/
theorem addSegments_below {before : List String} {folder : List Char}
    (hfolder : isFolder folder = true) (cs : List Char) :
    addSegments true false before [] (folder ++ '/' :: cs) =
      addSegments true false (before ++ [String.ofList folder]) [] cs := by
  obtain ⟨hplain, hsame, -⟩ := isFolder_iff.mp hfolder
  obtain ⟨hchars, -, -, hdots⟩ := isPlain_iff.mp hplain
  have hslash : ∀ c ∈ folder, isSlash true c = false := fun c hc =>
    (Bool.or_eq_false_iff.mp (hchars c hc).1).1
  rw [addSegments_slash hslash (by decide), List.reverse_nil, List.nil_append,
    addSegment_of_not_isDots false before hdots, hsame]

/-- What stands behind a front, up to slashes at its end, stays in front of what is put
behind it. -/
theorem addSegments_stem {rest : List Char}
    (hrest : ∀ c, rest.head? = some c → isSlash true c = true)
    (hpiece : rest = [] ∨ lastPiece rest ≠ [] ∧ isDots (lastPiece rest) = false)
    (k : Nat) (cs : List Char) :
    addSegments true false [] [] (rest ++ '/' :: cs).tail =
      addSegments true false
        (stem (addSegments true false [] [] (rest ++ List.replicate k '/').tail)) [] cs := by
  cases rest with
  | nil =>
      rw [List.nil_append, List.nil_append, List.tail_cons, List.tail_replicate,
        addSegments_slashes, List.nil_append, ← List.nil_append (List.replicate _ ""),
        stem_append_empty]
      rfl
  | cons c rest =>
      rcases hpiece with hnone | ⟨hne, hdots⟩
      · cases hnone
      · have hlast : lastPiece ([] ++ c :: rest) = lastPiece rest :=
          lastPiece_append (hrest c rfl) []
        rw [List.nil_append] at hlast
        rw [hlast] at hne hdots
        obtain ⟨before, hstem, hbefore⟩ := exists_stem hne hdots
        rw [List.cons_append, List.cons_append, List.tail_cons, List.tail_cons, hstem, hbefore]

/-- A plain address is a front and a path, to which slashes are added; what is put behind the
path without them is put behind its segments. -/
theorem exists_plain_path {address : String} {base : Url} (hread : parse address = .ok base)
    (hweb : base.isWeb = true) (hplain : isPlainBase address.toList = true) :
    ∃ front path bare, IsFront front bare ∧
      Text.dropEnd (· == '/') address.toList = front ++ path ∧
      (∀ c ∈ front ++ path, isOuter c = false ∧ isPathEnd c = false) ∧
      (∀ c, path.head? = some c → isSlash true c = true) ∧
      base = { bare with path := base.path } ∧
      ∀ cs, addSegments true false [] [] (path ++ '/' :: cs).tail =
        addSegments true false (stem base.path.names) [] cs := by
  obtain ⟨front, rest, bare, hfront, haddress, hrest, rfl⟩ := exists_front hread hweb
  obtain ⟨hchars, hne, hdots⟩ := isPlainBase_iff.mp hplain
  rw [significant_of_not_isOuter fun c hc => (hchars c hc).1] at haddress
  obtain ⟨k, hk⟩ := exists_slashes rest
  rw [haddress] at hchars
  rw [haddress, hfront.dropEnd] at hne hdots ⊢
  generalize Text.dropEnd (· == '/') rest = path at hk hne hdots ⊢
  subst hk
  have hslash : ∀ c, (path ++ List.replicate k '/').head? = some c → isSlash true c = true := by
    intro c hc
    have hmem := List.mem_append_right front (List.mem_of_mem_head? hc)
    have hend := hrest c hc
    rwa [isSiteEnd, (hchars c hmem).2, Bool.or_false] at hend
  have hpath : ∀ c, path.head? = some c → isSlash true c = true := fun c hc =>
    hslash c (by rw [List.head?_append, hc, Option.some_or])
  have hpiece : path = [] ∨ lastPiece path ≠ [] ∧ isDots (lastPiece path) = false := by
    cases path with
    | nil => exact Or.inl rfl
    | cons c path =>
        have hsame : lastPiece (front ++ c :: path) = lastPiece ([] ++ c :: path) := by
          rw [lastPiece_append (hpath c rfl), lastPiece_append (hpath c rfl)]
        rw [hsame, List.nil_append] at hne hdots
        exact Or.inr ⟨hne, hdots⟩
  have hbase := hfront.readRootedPath_of_not_isPathEnd hslash fun c hc =>
    (hchars c (List.mem_append_right _ hc)).2
  refine ⟨front, path, bare, hfront, rfl, fun c hc => hchars c ?_, hpath, ?_, fun cs => ?_⟩
  · rw [← List.append_assoc]
    exact List.mem_append_left _ hc
  · rw [hbase]
  · rw [hbase]
    exact addSegments_stem hpath hpiece k cs

/-- What counts of a URL below a front and a path: all but what is passed over in the id. -/
theorem significant_below {front path : List Char} {folder : String}
    (houter : ∀ c ∈ front ++ path ++ '/' :: folder.toList, isOuter c = false) (id : String) :
    significant (String.ofList (front ++ path) ++ ("/" ++ folder ++ "/" ++ id)) =
      front ++ (path ++ '/' :: folder.toList ++
        '/' :: (Text.dropEnd isOuter id.toList).filter counts) := by
  have htext : (String.ofList (front ++ path) ++ ("/" ++ folder ++ "/" ++ id)).toList =
      front ++ path ++ '/' :: folder.toList ++ '/' :: id.toList := by
    simp [String.toList_append]
  rw [significant_append htext houter (by decide)]
  simp

/-- A path put behind the text of a plain address is put behind its path. -/
theorem parse_below {address : String} {base : Url} (hread : parse address = .ok base)
    (hweb : base.isWeb = true) (hplain : isPlainBase address.toList = true)
    {folder : String} (hfolder : isFolder folder.toList = true) (id : String) :
    ∃ url, parse (String.ofList (Text.dropEnd (· == '/') address.toList) ++
        ("/" ++ folder ++ "/" ++ id)) = .ok url ∧ url.isWeb = true ∧
      url.path = .segments
        (addSegments true false (stem base.path.names ++ [folder]) [] (pathPart id.toList)) ∧
      (isPlain id.toList = true → url = { base with path := url.path }) := by
  obtain ⟨front, path, bare, hfront, haddress, hchars, hpath, hbase, hstem⟩ :=
    exists_plain_path hread hweb hplain
  obtain ⟨hfolderPlain, -, hfolderOuter⟩ := isFolder_iff.mp hfolder
  obtain ⟨hfolderChars, -, -, -⟩ := isPlain_iff.mp hfolderPlain
  have hopening : ∀ c ∈ front ++ path ++ '/' :: folder.toList,
      isOuter c = false ∧ isPathEnd c = false := by
    intro c hc
    rcases List.mem_append.mp hc with hc | hc
    · exact hchars c hc
    · rcases List.mem_cons.mp hc with rfl | hc
      · decide
      · exact ⟨hfolderOuter c hc, (Bool.or_eq_false_iff.mp (hfolderChars c hc).1).2⟩
  have hfirst : ∀ c, (path ++ '/' :: folder.toList).head? = some c →
      isSlash true c = true := by
    intro c hc
    cases path with
    | nil =>
        obtain rfl := Option.some.inj hc
        decide
    | cons d path => exact hpath c hc
  have hread := hfront.parse _ _
    (significant_below (fun c hc => (hopening c hc).1) id) fun c hc => by
      rw [List.head?_append_of_ne_nil _ (by simp)] at hc
      rw [isSiteEnd, hfirst c hc, Bool.true_or]
  -- The path ends within the id, or not at all.
  have hurl := hfront.readRootedPath_append (fun c hc => (hopening c (by
    rw [List.append_assoc]
    exact List.mem_append_right _ hc)).2) (by simp) hfirst
      ('/' :: (Text.dropEnd isOuter id.toList).filter counts)
  have hpart : ('/' :: (Text.dropEnd isOuter id.toList).filter counts).takeWhile
      (fun c => !isPathEnd c) = '/' :: pathPart id.toList := rfl
  have htail : path ++ '/' :: folder.toList ++ '/' :: pathPart id.toList =
      path ++ '/' :: (folder.toList ++ '/' :: pathPart id.toList) := by simp
  rw [hpart, htail, hstem, addSegments_below hfolder, String.ofList_toList] at hurl
  rw [haddress]
  refine ⟨_, hread, ?_, ?_, fun hid => ?_⟩
  · rw [isWeb_iff, scheme_readRootedPath]
    exact hfront.scheme
  · rw [hurl, path_readTail]
  · have hnone : ('/' :: (Text.dropEnd isOuter id.toList).filter counts).dropWhile
        (fun c => !isPathEnd c) = [] := dropWhile_of_isPlain hid
    rw [hurl, hnone, hbase]
    rfl

end Url

end CapabilityMesh
