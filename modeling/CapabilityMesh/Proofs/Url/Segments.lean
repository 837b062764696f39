/-
The segments of a path.  A slash ends what is read of a path so far, whatever follows; the
piece behind the last slash becomes the last segment, unless it stands for a folder.
-/
import Mathlib.Data.List.DropRight
import CapabilityMesh.Proofs.Url.OuterBlanks

namespace CapabilityMesh

namespace Url

/-- A path without the slashes at its end. -/
def stem (names : List String) : List String :=
  names.rdropWhile String.isEmpty

/-- Whether a piece of a path stands for the folder itself or the one above. -/
def isDots (cs : List Char) : Bool :=
  isSingleDot (String.ofList (encode inPathSet cs)) ||
    isDoubleDot (String.ofList (encode inPathSet cs))

/-- The piece behind the last slash of a path. -/
def lastPiece (cs : List Char) : List Char :=
  cs.rtakeWhile fun c => !isSlash true c

section Segments

variable {names : List String} {cs : List Char}

theorem addSegment_of_not_isDots (last : Bool) (names : List String)
    (hcs : isDots cs = false) :
    addSegment false last names cs = names ++ [String.ofList (encode inPathSet cs)] := by
  obtain ⟨hsingle, hdouble⟩ := Bool.or_eq_false_iff.mp hcs
  simp [addSegment, hsingle, hdouble]

/-- A piece that stands for a folder leaves an empty segment at the end of a path. -/
theorem getLast?_addSegment_of_isDots (names : List String) (hcs : isDots cs = true) :
    (addSegment false true names cs).getLast? = some "" := by
  rw [addSegment]
  simp only [if_true]
  split
  · exact List.getLast?_concat
  · rename_i hdouble
    rw [isDots, Bool.eq_false_iff.mpr hdouble, Bool.or_false] at hcs
    rw [if_pos hcs]
    exact List.getLast?_concat

theorem addSegments_piece {pending : List Char} (hcs : ∀ c ∈ cs, isSlash true c = false) :
    addSegments true false names pending cs =
      addSegment false true names (pending.reverse ++ cs) := by
  induction cs generalizing pending with
  | nil => rw [addSegments, List.append_nil]
  | cons c cs ih =>
      obtain ⟨hc, hcs⟩ := List.forall_mem_cons.mp hcs
      rw [addSegments, hc, if_neg Bool.false_ne_true, ih hcs]
      simp

theorem addSegments_slash {pending : List Char} (hcs : ∀ c ∈ cs, isSlash true c = false)
    {c : Char} (hc : isSlash true c = true) (rest : List Char) :
    addSegments true false names pending (cs ++ c :: rest) =
      addSegments true false (addSegment false false names (pending.reverse ++ cs)) [] rest := by
  induction cs generalizing pending with
  | nil => rw [List.nil_append, addSegments, if_pos hc, List.append_nil]
  | cons d cs ih =>
      obtain ⟨hd, hcs⟩ := List.forall_mem_cons.mp hcs
      rw [List.cons_append, addSegments, hd, if_neg Bool.false_ne_true, ih hcs]
      simp

/-- What is read in front of a slash does not depend on what follows. -/
theorem exists_addSegments_slash (pending cs : List Char) (names : List String)
    {c : Char} (hc : isSlash true c = true) :
    ∃ before, ∀ rest, addSegments true false names pending (cs ++ c :: rest) =
      addSegments true false before [] rest := by
  induction cs generalizing names pending with
  | nil =>
      refine ⟨addSegment false false names pending.reverse, fun rest => ?_⟩
      rw [List.nil_append, addSegments, if_pos hc]
  | cons d cs ih =>
      cases hd : isSlash true d with
      | true =>
          obtain ⟨before, hbefore⟩ := ih [] (addSegment false false names pending.reverse)
          refine ⟨before, fun rest => ?_⟩
          rw [List.cons_append, addSegments, if_pos hd, hbefore]
      | false =>
          obtain ⟨before, hbefore⟩ := ih (d :: pending) names
          refine ⟨before, fun rest => ?_⟩
          rw [List.cons_append, addSegments, hd, if_neg Bool.false_ne_true, hbefore]

theorem lastPiece_no_slash {c : Char} (hc : c ∈ lastPiece cs) : isSlash true c = false := by
  simpa using List.mem_rtakeWhile_imp hc

/-- Only the piece behind the last slash is still open. -/
theorem exists_addSegments_lastPiece (names : List String) (cs : List Char) :
    ∃ before, ∀ rest, addSegments true false names [] (cs ++ rest) =
      addSegments true false before [] (lastPiece cs ++ rest) := by
  have hcs : cs.rdropWhile (fun c => !isSlash true c) ++ lastPiece cs = cs :=
    List.rdropWhile_append_rtakeWhile
  rcases List.eq_nil_or_concat (cs.rdropWhile fun c => !isSlash true c) with
    hnone | ⟨front, c, hfront⟩
  · rw [hnone, List.nil_append] at hcs
    exact ⟨names, fun rest => by rw [hcs]⟩
  · have hc : isSlash true c = true := by
      have hlast := List.rdropWhile_last_not (fun c => !isSlash true c) cs (by simp [hfront])
      simpa [hfront] using hlast
    obtain ⟨before, hbefore⟩ := exists_addSegments_slash [] front names hc
    refine ⟨before, fun rest => ?_⟩
    have hsplit : cs ++ rest = front ++ c :: (lastPiece cs ++ rest) := by
      conv_lhs => rw [← hcs, hfront]
      simp
    rw [hsplit, hbefore]

theorem addSegments_slashes (names : List String) (k : Nat) :
    addSegments true false names [] (List.replicate k '/') =
      names ++ List.replicate (k + 1) "" := by
  have hnil : isDots [] = false := by decide +kernel
  induction k generalizing names with
  | zero => exact addSegment_of_not_isDots true names hnil
  | succ k ih =>
      rw [List.replicate_succ, addSegments, if_pos (by decide), List.reverse_nil,
        addSegment_of_not_isDots false names hnil, ih, List.append_assoc]
      rfl

theorem stem_append_empty (names : List String) (k : Nat) :
    stem (names ++ List.replicate k "") = stem names := by
  induction k with
  | zero => rw [List.replicate_zero, List.append_nil]
  | succ k ih =>
      rw [List.replicate_succ', ← List.append_assoc, stem,
        List.rdropWhile_concat_pos _ _ _ (by decide), ← stem, ih]

theorem stem_concat {segment : String} (hne : segment ≠ "") (names : List String) :
    stem (names ++ [segment]) = names ++ [segment] :=
  List.rdropWhile_concat_neg _ _ _ (by simpa using hne)

theorem encode_ne_nil {set : Char → Bool} (hne : cs ≠ []) : encode set cs ≠ [] := by
  cases cs with
  | nil => exact absurd rfl hne
  | cons c cs =>
      rw [encode_cons]
      cases hc : set c with
      | false =>
          rw [encodeChar_of_not hc]
          exact List.cons_ne_nil _ _
      | true =>
          obtain ⟨rest, hrest⟩ := encodeChar_of_mem hc
          rw [hrest]
          exact List.cons_ne_nil _ _

/-- A path that ends in a piece of its own, and slashes, keeps all but those when it is
continued. -/
theorem exists_stem (hne : lastPiece cs ≠ []) (hdots : isDots (lastPiece cs) = false) :
    ∃ before, (∀ k, stem (addSegments true false [] [] (cs ++ List.replicate k '/')) = before) ∧
      ∀ rest, addSegments true false [] [] (cs ++ '/' :: rest) =
        addSegments true false before [] rest := by
  obtain ⟨before, hbefore⟩ := exists_addSegments_lastPiece [] cs
  have hslash : ∀ c ∈ lastPiece cs, isSlash true c = false := fun c => lastPiece_no_slash
  have hsegment : String.ofList (encode inPathSet (lastPiece cs)) ≠ "" := by
    rw [ne_eq, String.ofList_eq_empty_iff]
    exact encode_ne_nil hne
  have hrest : ∀ rest, addSegments true false [] [] (cs ++ '/' :: rest) =
      addSegments true false (before ++ [String.ofList (encode inPathSet (lastPiece cs))]) []
        rest := by
    intro rest
    rw [hbefore, addSegments_slash hslash (by decide), List.reverse_nil, List.nil_append,
      addSegment_of_not_isDots false before hdots]
  refine ⟨_, fun k => ?_, hrest⟩
  cases k with
  | zero =>
      rw [List.replicate_zero, hbefore, List.append_nil, addSegments_piece hslash,
        List.reverse_nil, List.nil_append, addSegment_of_not_isDots true before hdots]
      exact stem_concat hsegment before
  | succ k =>
      rw [List.replicate_succ, hrest, addSegments_slashes, stem_append_empty]
      exact stem_concat hsegment before

end Segments

/-- What is read as path of a text that stands at the end of a URL. -/
def pathPart (cs : List Char) : List Char :=
  ((Text.dropEnd isOuter cs).filter counts).takeWhile fun c => !isPathEnd c

/-- Whether a text has nothing that means more than itself in a path: no slash, no query, no
fragment, no escape, nothing that is passed over, and no dots for a folder. -/
def isPlain (cs : List Char) : Bool :=
  cs.all (fun c => !isSiteEnd c && counts c) && !cs.getLast?.any isOuter && !hasEscape cs
    && !isDots cs

section Plain

variable {cs ds : List Char}

theorem isPlain_iff : isPlain cs = true ↔
    (∀ c ∈ cs, isSiteEnd c = false ∧ counts c = true) ∧
      (∀ c, cs.getLast? = some c → isOuter c = false) ∧ hasEscape cs = false ∧
        isDots cs = false := by
  have hlast : (!cs.getLast?.any isOuter) = true ↔
      ∀ c, cs.getLast? = some c → isOuter c = false := by
    cases cs.getLast? <;> simp
  simp only [isPlain, Bool.and_eq_true, hlast, List.all_eq_true, Bool.not_eq_true', and_assoc]

theorem pathPart_of_isPlain (hcs : isPlain cs = true) : pathPart cs = cs := by
  obtain ⟨hchars, hlast, -, -⟩ := isPlain_iff.mp hcs
  have hend : Text.dropEnd isOuter cs = cs := Text.dropEnd_eq_self hlast
  have hcount : cs.filter counts = cs :=
    List.filter_eq_self.mpr fun c hc => (hchars c hc).2
  rw [pathPart, hend, hcount, List.takeWhile_eq_self_iff]
  intro c hc
  simp [(Bool.or_eq_false_iff.mp (hchars c hc).1).2]

/-- Nothing stands behind the path then. -/
theorem dropWhile_of_isPlain (hcs : isPlain cs = true) :
    (((Text.dropEnd isOuter cs).filter counts).dropWhile fun c => !isPathEnd c) = [] := by
  obtain ⟨hchars, -, -, -⟩ := isPlain_iff.mp hcs
  rw [List.dropWhile_eq_nil_iff]
  intro c hc
  have hmem : c ∈ cs := (List.rdropWhile_prefix _ _).subset (List.mem_of_mem_filter hc)
  simp [(Bool.or_eq_false_iff.mp (hchars c hmem).1).2]

/-- To leave out characters leaves out at least as many bytes. -/
theorem length_utf8_sublist (hsub : cs.Sublist ds) :
    (Text.utf8 cs).length + ds.length ≤ (Text.utf8 ds).length + cs.length := by
  induction hsub with
  | slnil => exact Nat.le_refl _
  | cons c _ ih =>
      have hc := length_utf8OfChar c
      simp only [Text.utf8, List.flatMap_cons, List.length_append, List.length_cons] at ih ⊢
      omega
  | cons_cons c _ ih =>
      simp only [Text.utf8, List.flatMap_cons, List.length_append, List.length_cons] at ih ⊢
      omega

/-- What is read last, without anything left out, is all of the text. -/
theorem isPlain_of_lastPiece (hbytes : decodeBytes (lastPiece (pathPart cs)) = Text.utf8 cs)
    (hdots : isDots (lastPiece (pathPart cs)) = false) : isPlain cs = true := by
  have hcount : (pathPart cs).Sublist ((Text.dropEnd isOuter cs).filter counts) :=
    (List.takeWhile_prefix _).sublist
  have hend : ((Text.dropEnd isOuter cs).filter counts).Sublist (Text.dropEnd isOuter cs) :=
    List.filter_sublist
  have hall : (Text.dropEnd isOuter cs).Sublist cs := (List.rdropWhile_prefix _ _).sublist
  have hpiece : (lastPiece (pathPart cs)).Sublist (pathPart cs) :=
    (List.rtakeWhile_suffix _ _).sublist
  have hself : lastPiece (pathPart cs) = cs := by
    have hsub := hpiece.trans (hcount.trans (hend.trans hall))
    have hle := length_decodeBytes_le (lastPiece (pathPart cs))
    have hless := length_utf8_sublist hsub
    rw [hbytes] at hle
    exact hsub.eq_of_length_le (by omega)
  rw [hself] at hbytes hdots hpiece
  have hdrop : Text.dropEnd isOuter cs = cs := hall.antisymm (hpiece.trans (hcount.trans hend))
  refine isPlain_iff.mpr ⟨fun c hc => ⟨?_, ?_⟩, fun c hc => ?_, ?_, hdots⟩
  · have hslash : isSlash true c = false := by
      rw [← hself] at hc
      exact lastPiece_no_slash hc
    have hpath := List.mem_takeWhile_imp (hpiece.subset hc)
    rw [isSiteEnd, hslash, Bool.false_or]
    simpa using hpath
  · exact List.of_mem_filter (hcount.subset (hpiece.subset hc))
  · rw [← hdrop] at hc
    exact Text.getLast?_dropEnd hc
  · cases hescape : hasEscape cs with
    | false => rfl
    | true =>
        have hlt := length_decodeBytes_lt hescape
        rw [hbytes] at hlt
        exact absurd hlt (Nat.lt_irrefl _)

/-- A text is one segment of a path, and stands for itself there, if it is plain, and only
then. -/
theorem isPlain_iff_segment (names : List String) : isPlain cs = true ↔
    ∃ segment, addSegments true false names [] (pathPart cs) = names ++ [segment] ∧
      decodeBytes segment.toList = Text.utf8 cs := by
  constructor
  · intro hplain
    obtain ⟨hchars, -, hescape, hdots⟩ := isPlain_iff.mp hplain
    have hslash : ∀ c ∈ cs, isSlash true c = false := fun c hc =>
      (Bool.or_eq_false_iff.mp (hchars c hc).1).1
    refine ⟨String.ofList (encode inPathSet cs), ?_, ?_⟩
    · rw [pathPart_of_isPlain hplain, addSegments_piece hslash, List.reverse_nil,
        List.nil_append, addSegment_of_not_isDots true names hdots]
    · rw [String.toList_ofList, decodeBytes_encode, decodeBytes_eq_utf8 hescape]
  · rintro ⟨segment, hsegment, hbytes⟩
    by_cases hnone : segment = ""
    · -- An empty segment stands for the empty text alone.
      subst hnone
      have hempty : cs.length ≤ 0 := by
        have hle := length_utf8 cs
        rw [← hbytes] at hle
        exact hle
      obtain rfl := List.length_eq_zero_iff.mp (Nat.le_zero.mp hempty)
      decide +kernel
    · obtain ⟨before, hbefore⟩ := exists_addSegments_lastPiece names (pathPart cs)
      have hpiece : ∀ c ∈ lastPiece (pathPart cs), isSlash true c = false :=
        fun c => lastPiece_no_slash
      have hopen := hbefore []
      rw [List.append_nil, List.append_nil, hsegment, addSegments_piece hpiece,
        List.reverse_nil, List.nil_append] at hopen
      cases hdots : isDots (lastPiece (pathPart cs)) with
      | true =>
          have hlast := getLast?_addSegment_of_isDots before hdots
          rw [← hopen, List.getLast?_concat] at hlast
          exact absurd (Option.some.inj hlast) hnone
      | false =>
          rw [addSegment_of_not_isDots true before hdots] at hopen
          obtain ⟨-, hsame⟩ := List.append_inj' hopen rfl
          obtain rfl := (List.cons.inj hsame).1
          rw [String.toList_ofList, decodeBytes_encode] at hbytes
          exact isPlain_of_lastPiece hbytes hdots

end Plain

end Url

end CapabilityMesh
