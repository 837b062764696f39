/-
Which folders of runs a cleanup keeps.  The runs are put in order, the newest first, so that
the recent ones stand before all others; what is kept are as many of these as are asked for,
and what is removed stands behind them.  More is kept the further back a cutoff lies, as long
as the calendar reaches it; a count of days from 2^63 up is read as a negative one, and its
cutoff lies ahead.
-/
import Mathlib.Data.List.Basic
import Mathlib.Data.List.Perm.Basic
import Mathlib.Data.List.Nodup
import CapabilityMesh.Log.Retention
import CapabilityMesh.Proofs.Wire.Calendar

namespace CapabilityMesh

namespace Timestamp

/-- Whether the calendar reaches a second: its first year is 262144 before the common era, and
its last one 262142 of it. -/
def InCalendar (second : Int) : Prop :=
  Date.toDays ⟨-262143, 1, 1⟩ * 86400 ≤ second ∧ second < Date.toDays ⟨262143, 1, 1⟩ * 86400

instance (second : Int) : Decidable (InCalendar second) :=
  inferInstanceAs (Decidable (_ ∧ _))

theorem inCalendar_iff (second : Int) :
    InCalendar second ↔ -96465292 * 86400 ≤ second ∧ second < 95026237 * 86400 := by
  have hfirst : Date.toDays ⟨-262143, 1, 1⟩ = -96465292 := by decide
  have hend : Date.toDays ⟨262143, 1, 1⟩ = 95026237 := by decide
  rw [InCalendar, hfirst, hend]

theorem yearInRange_iff (second : Int) :
    yearInRange (Date.ofDays (second / 86400)).year = true ↔ InCalendar second := by
  have hlow := Date.le_year_ofDays_iff (-262143) (second / 86400)
  have hhigh := Date.le_year_ofDays_iff 262143 (second / 86400)
  simp only [yearInRange, InCalendar, Bool.and_eq_true, decide_eq_true_eq]
  omega

theorem atLeast_iff (a b : Timestamp) :
    a.atLeast b = true ↔ b.second < a.second ∨ b.second = a.second ∧ b.nano ≤ a.nano := by
  simp [atLeast]

theorem atLeast_trans {a b c : Timestamp} (hab : a.atLeast b = true)
    (hbc : b.atLeast c = true) : a.atLeast c = true := by
  rw [atLeast_iff] at *
  omega

/-- Of two points in time one is not before the other. -/
theorem atLeast_of_not {a b : Timestamp} (h : ¬ a.atLeast b = true) : b.atLeast a = true := by
  rw [atLeast_iff] at *
  omega

end Timestamp

namespace LogRetention

open Timestamp (InCalendar)

/-- There is a cutoff if the calendar reaches it: the distance of two times of the calendar is
never too large. -/
theorem cutoff?_eq {now : Timestamp} (hnow : InCalendar now.second) (days : Nat) :
    cutoff? now days =
      if InCalendar (now.second - daysBack days * 86400) then
        some ⟨now.second - daysBack days * 86400, now.nano⟩
      else none := by
  simp only [cutoff?, Timestamp.yearInRange_iff]
  by_cases hreached : InCalendar (now.second - daysBack days * 86400)
  · rw [if_neg (by rw [Timestamp.inCalendar_iff] at *; omega)]
  · rw [if_neg hreached, ite_self]

/-- Runs of which none is newer than one before it. -/
def NewestFirst (runs : List (LogItem × Timestamp)) : Prop :=
  runs.Pairwise fun first second => first.2.atLeast second.2 = true

theorem insertRun_perm (run : LogItem × Timestamp) (others : List (LogItem × Timestamp)) :
    (insertRun run others).Perm (run :: others) := by
  induction others with
  | nil => exact List.Perm.refl [run]
  | cons first rest ih =>
      rw [insertRun]
      split
      · exact (ih.cons first).trans (List.Perm.swap run first rest)
      · exact List.Perm.refl _

theorem NewestFirst.insertRun {others : List (LogItem × Timestamp)} (h : NewestFirst others)
    (run : LogItem × Timestamp) : NewestFirst (insertRun run others) := by
  induction others with
  | nil => exact List.pairwise_singleton _ run
  | cons first rest ih =>
      obtain ⟨hfirst, hrest⟩ := List.pairwise_cons.mp h
      rw [LogRetention.insertRun]
      by_cases hnewer : first.2.atLeast run.2 = true
      · rw [if_pos hnewer]
        apply List.pairwise_cons.mpr
        refine ⟨?_, ih hrest⟩
        intro other hother
        rcases List.mem_cons.mp ((insertRun_perm run rest).mem_iff.mp hother) with rfl | hother
        · exact hnewer
        · exact hfirst other hother
      · rw [if_neg hnewer]
        have hrun := Timestamp.atLeast_of_not hnewer
        apply List.pairwise_cons.mpr
        refine ⟨?_, h⟩
        intro other hother
        rcases List.mem_cons.mp hother with rfl | hother
        · exact hrun
        · exact Timestamp.atLeast_trans hrun (hfirst other hother)

def run? (item : LogItem) : Option (LogItem × Timestamp) :=
  item.stamp?.map fun stamp => (item, stamp)

theorem run?_eq_some {item : LogItem} {run : LogItem × Timestamp} :
    run? item = some run ↔ item = run.1 ∧ item.stamp? = some run.2 := by
  obtain ⟨other, stamp⟩ := run
  cases hstamp : item.stamp? with
  | none => simp [run?, hstamp]
  | some began => simp [run?, hstamp]

/-- The runs are put in order one after the other, among those that are in order already. -/
theorem foldl_addRun (items : List LogItem) {before : List (LogItem × Timestamp)}
    (hbefore : NewestFirst before) :
    (items.foldl addRun before).Perm (items.filterMap run? ++ before) ∧
      NewestFirst (items.foldl addRun before) := by
  induction items generalizing before with
  | nil => exact ⟨List.Perm.refl before, hbefore⟩
  | cons item items ih =>
      cases hstamp : item.stamp? with
      | none =>
          have hnone : run? item = none := by simp [run?, hstamp]
          have hsame : addRun before item = before := by simp [addRun, hstamp]
          rw [List.foldl_cons, hsame, List.filterMap_cons_none hnone]
          exact ih hbefore
      | some stamp =>
          have hsome : run? item = some (item, stamp) := by simp [run?, hstamp]
          have hadded : addRun before item = insertRun (item, stamp) before := by
            simp [addRun, hstamp]
          obtain ⟨hperm, hordered⟩ := ih (hbefore.insertRun (item, stamp))
          rw [List.foldl_cons, hadded, List.filterMap_cons_some hsome]
          refine ⟨hperm.trans ?_, hordered⟩
          exact ((insertRun_perm (item, stamp) before).append_left _).trans List.perm_middle

theorem runs_perm (items : List LogItem) : (runs items).Perm (items.filterMap run?) := by
  have hperm := (foldl_addRun items List.Pairwise.nil).1
  rwa [List.append_nil] at hperm

theorem runs_newestFirst (items : List LogItem) : NewestFirst (runs items) :=
  (foldl_addRun items List.Pairwise.nil).2

theorem mem_runs_iff {items : List LogItem} {run : LogItem × Timestamp} :
    run ∈ runs items ↔ run.1 ∈ items ∧ run.1.stamp? = some run.2 := by
  rw [(runs_perm items).mem_iff, List.mem_filterMap]
  constructor
  · rintro ⟨item, hitem, hrun⟩
    obtain ⟨rfl, hstamp⟩ := run?_eq_some.mp hrun
    exact ⟨hitem, hstamp⟩
  · rintro ⟨hitem, hstamp⟩
    exact ⟨run.1, hitem, run?_eq_some.mpr ⟨rfl, hstamp⟩⟩

/-- Whether a run is not older than a cutoff. -/
def isRecent (cutoff : Timestamp) (run : LogItem × Timestamp) : Bool :=
  run.2.atLeast cutoff

/-- Behind a run that is too old all are. -/
theorem NewestFirst.countP_eq_zero {cutoff : Timestamp} {first : LogItem × Timestamp}
    {rest : List (LogItem × Timestamp)} (h : NewestFirst (first :: rest))
    (hold : ¬ isRecent cutoff first = true) : rest.countP (isRecent cutoff) = 0 := by
  rw [List.countP_eq_zero]
  intro run hrun hrecent
  exact hold (Timestamp.atLeast_trans ((List.pairwise_cons.mp h).1 run hrun) hrecent)

/-- Of runs in order those are removed that stand behind the ones to keep.  The first of them
has some place already. -/
theorem filter_zipIdx_eq_drop (cutoff : Timestamp) (keep : Nat)
    {others : List (LogItem × Timestamp)} (h : NewestFirst others) (place : Nat) :
    ((others.zipIdx place).filter fun (run, index) =>
        !(run.2.atLeast cutoff && index < keep)).map (fun (run, _) => run.1) =
      (others.drop (min (keep - place) (others.countP (isRecent cutoff)))).map Prod.fst := by
  induction others generalizing place with
  | nil => simp
  | cons first rest ih =>
      have hrest := ih (List.pairwise_cons.mp h).2 (place + 1)
      rw [List.zipIdx_cons, List.countP_cons]
      by_cases hrecent : isRecent cutoff first = true
      · by_cases hplace : place < keep
        · have hmin : min (keep - place) (rest.countP (isRecent cutoff) + 1) =
              min (keep - (place + 1)) (rest.countP (isRecent cutoff)) + 1 := by omega
          rw [List.filter_cons_of_neg (by simp [isRecent] at hrecent; simp [hrecent, hplace]),
            hrest, if_pos hrecent, hmin, List.drop_succ_cons]
        · have hnone : keep - place = 0 := by omega
          have hnext : keep - (place + 1) = 0 := by omega
          rw [List.filter_cons_of_pos (by simp [hplace]), List.map_cons, hrest, hnone, hnext]
          simp
      · rw [List.filter_cons_of_pos (by simp [isRecent] at hrecent; simp [hrecent]),
          List.map_cons, hrest, if_neg hrecent, h.countP_eq_zero hrecent]
        simp

/-- As many of the newest are kept as are asked for and recent. -/
theorem expired_eq_drop (cutoff : Timestamp) (keep : Nat)
    {others : List (LogItem × Timestamp)} (h : NewestFirst others) :
    expired cutoff keep others =
      (others.drop (min keep (others.countP (isRecent cutoff)))).map Prod.fst :=
  filter_zipIdx_eq_drop cutoff keep h 0

/-- What expires by an earlier cutoff, or where more is kept, expires by the later one and
where less is kept. -/
theorem mem_expired_of_earlier {cutoff earlier : Timestamp} {keep more : Nat}
    (hcutoff : cutoff.atLeast earlier = true) (hkeep : keep ≤ more)
    {others : List (LogItem × Timestamp)} {item : LogItem}
    (hitem : item ∈ expired earlier more others) : item ∈ expired cutoff keep others := by
  simp only [expired, List.mem_map, List.mem_filter] at hitem ⊢
  obtain ⟨⟨run, index⟩, ⟨hmem, hexpires⟩, rfl⟩ := hitem
  refine ⟨(run, index), ⟨hmem, ?_⟩, rfl⟩
  simp only [Bool.not_eq_true', Bool.and_eq_false_iff, decide_eq_false_iff_not] at hexpires ⊢
  rcases hexpires with hold | hplace
  · left
    rw [← Bool.not_eq_true] at hold ⊢
    intro hrecent
    exact hold (Timestamp.atLeast_trans hrecent hcutoff)
  · right
    omega

theorem mem_remove_left {path : String} {gone items : List LogItem} {item : LogItem} :
    item ∈ (remove path gone items).left ↔
      item ∈ items ∧ ¬ (item ∈ gone ∧ item.refusal = none) := by
  simp [remove, ← Option.ne_none_iff_isSome, imp_iff_not_or]

/-- A cleanup comes to an end if there is nothing to clean, or if the folder is read and the
calendar reaches the cutoff. -/
theorem clean_eq_ok_iff {now : Timestamp} (hnow : InCalendar now.second) (days keep : Nat)
    (path : String) (folder : LogFolder) (cleanup : LogCleanup) :
    clean now days keep path folder = .ok cleanup ↔
      (folder = .missing ∧ cleanup = { left := [], removed := 0, log := [] }) ∨
        ∃ items, folder = .readable items ∧ InCalendar (now.second - daysBack days * 86400) ∧
          cleanup = remove path (expired ⟨now.second - daysBack days * 86400, now.nano⟩ keep
            (runs items)) items := by
  have hcutoff := cutoff?_eq hnow days
  by_cases hreached : InCalendar (now.second - daysBack days * 86400)
  · rw [if_pos hreached] at hcutoff
    cases folder <;> simp [clean, hcutoff, hreached, eq_comm]
  · rw [if_neg hreached] at hcutoff
    cases folder <;> simp [clean, hcutoff, hreached, eq_comm]

theorem clean_outsideCalendar_iff {now : Timestamp} (hnow : InCalendar now.second)
    (days keep : Nat) (path : String) (folder : LogFolder) :
    clean now days keep path folder = .error .outsideCalendar ↔
      folder ≠ .missing ∧ ¬ InCalendar (now.second - daysBack days * 86400) := by
  have hcutoff := cutoff?_eq hnow days
  by_cases hreached : InCalendar (now.second - daysBack days * 86400)
  · rw [if_pos hreached] at hcutoff
    cases folder <;> simp [clean, hcutoff, hreached]
  · rw [if_neg hreached] at hcutoff
    cases folder <;> simp [clean, hcutoff, hreached]

/-- A cleanup ends early for want of a cutoff exactly if there is a folder to clean and the
calendar does not reach back, or ahead, as far as the days say.  Where two cleanups of a
folder come to an end, the one that reaches further back and keeps more runs leaves all that
the other leaves, whatever the system refuses to remove. -/
theorem longer_retention_keeps_more {now : Timestamp} (hnow : InCalendar now.second)
    (path : String) (folder : LogFolder) :
    (∀ days keep, clean now days keep path folder = .error .outsideCalendar ↔
        folder ≠ .missing ∧ ¬ InCalendar (now.second - daysBack days * 86400)) ∧
      ∀ days longer keep more smaller larger,
        daysBack days ≤ daysBack longer → keep ≤ more →
        clean now days keep path folder = .ok smaller →
        clean now longer more path folder = .ok larger →
          ∀ item ∈ smaller.left, item ∈ larger.left := by
  constructor
  · intro days keep
    exact clean_outsideCalendar_iff hnow days keep path folder
  · intro days longer keep more smaller larger hdays hkeep hsmaller hlarger item hitem
    rcases (clean_eq_ok_iff hnow ..).mp hsmaller with ⟨-, rfl⟩ | ⟨items, rfl, -, rfl⟩
    · exact absurd hitem List.not_mem_nil
    · rcases (clean_eq_ok_iff hnow ..).mp hlarger with ⟨hmissing, -⟩ | ⟨same, heq, -, rfl⟩
      · cases hmissing
      · obtain rfl := LogFolder.readable.inj heq
        obtain ⟨hmem, hstays⟩ := mem_remove_left.mp hitem
        apply mem_remove_left.mpr
        refine ⟨hmem, ?_⟩
        rintro ⟨hexpired, hremovable⟩
        refine hstays ⟨mem_expired_of_earlier ?_ hkeep hexpired, hremovable⟩
        rw [Timestamp.atLeast_iff]
        simp only
        omega

/-- A run that began five days before the time of the cleanups below. -/
def freshRun : LogItem := { name := "run_20250610_120000", isFolder := true }

/-- A month instead of three days keeps a run of five days ago. -/
theorem month_keeps_fresh_run :
    InCalendar 1750000000 ∧ ∃ smaller larger,
      clean ⟨1750000000, 0⟩ 3 10 "logs" (.readable [freshRun]) = .ok smaller ∧
      clean ⟨1750000000, 0⟩ 30 10 "logs" (.readable [freshRun]) = .ok larger ∧
      (∀ item ∈ smaller.left, item ∈ larger.left) ∧
      freshRun ∉ smaller.left ∧ freshRun ∈ larger.left := by
  have hnow : InCalendar (Timestamp.mk 1750000000 0).second := by decide
  have hsmaller : clean ⟨1750000000, 0⟩ 3 10 "logs" (.readable [freshRun]) =
      .ok ⟨[], 1, []⟩ := by decide +kernel
  have hlarger : clean ⟨1750000000, 0⟩ 30 10 "logs" (.readable [freshRun]) =
      .ok ⟨[freshRun], 0, []⟩ := by decide +kernel
  refine ⟨hnow, _, _, hsmaller, hlarger, ?_, by decide, by decide⟩
  exact (longer_retention_keeps_more hnow "logs" _).2 3 30 10 10 _ _
    (by decide) (by decide) hsmaller hlarger

/-- No cleanup is made for as many days as reach out of the calendar, and one for as many days
as 64 bits can count removes a run that a month keeps. -/
theorem endless_retention_removes_fresh_run :
    clean ⟨1750000000, 0⟩ 1000000000 10 "logs" (.readable [freshRun]) =
        .error .outsideCalendar ∧
      clean ⟨1750000000, 0⟩ 30 10 "logs" (.readable [freshRun]) = .ok ⟨[freshRun], 0, []⟩ ∧
      clean ⟨1750000000, 0⟩ 18446744073709551615 10 "logs" (.readable [freshRun]) =
        .ok ⟨[], 1, []⟩ := by
  decide +kernel

theorem map_fst_runs_perm (items : List LogItem) :
    ((runs items).map Prod.fst).Perm (items.filter fun item => item.stamp?.isSome) := by
  refine ((runs_perm items).map Prod.fst).trans (List.Perm.of_eq ?_)
  induction items with
  | nil => rfl
  | cons item items ih =>
      cases hstamp : item.stamp? with
      | none => simp [run?, hstamp, ih]
      | some stamp => simp [run?, hstamp, ih]

theorem countP_runs (cutoff : Timestamp) (items : List LogItem) :
    (runs items).countP (isRecent cutoff) =
      items.countP fun item => item.stamp?.any fun stamp => stamp.atLeast cutoff := by
  rw [(runs_perm items).countP_eq, List.countP_filterMap]
  apply List.countP_congr
  intro item _
  cases hstamp : item.stamp? with
  | none => simp [run?, hstamp]
  | some stamp => simp [run?, hstamp, isRecent]

/-- What a cleanup owes the items of a folder, when as many runs are to be kept and none that
is before the cutoff. -/
structure KeepsNewest (cutoff : Timestamp) (keep : Nat) (items : List LogItem)
    (cleanup : LogCleanup) : Prop where
  /-- Nothing is added. -/
  fromItems : cleanup.left.Sublist items
  /-- Files stay, and folders of other names. -/
  others : ∀ item ∈ items, item.stamp? = none → item ∈ cleanup.left
  count : (cleanup.left.countP fun item => item.stamp?.isSome) =
    min keep (items.countP fun item => item.stamp?.any fun stamp => stamp.atLeast cutoff)
  /-- No run that is left is older than one that is gone. -/
  newest : ∀ kept ∈ cleanup.left, ∀ gone ∈ items, gone ∉ cleanup.left →
    ∀ first second, kept.stamp? = some first → gone.stamp? = some second →
      first.atLeast second = true
  removed : cleanup.removed + cleanup.left.length = items.length
  quiet : cleanup.log = []

section Expired

variable {cutoff : Timestamp} {keep : Nat} {items : List LogItem}

theorem expired_spec (cutoff : Timestamp) (keep : Nat) (items : List LogItem) :
    ∃ kept gone : List (LogItem × Timestamp),
      runs items = kept ++ gone ∧ expired cutoff keep (runs items) = gone.map Prod.fst ∧
        kept.length = min keep (items.countP fun item =>
          item.stamp?.any fun stamp => stamp.atLeast cutoff) := by
  let size := min keep ((runs items).countP (isRecent cutoff))
  refine ⟨(runs items).take size, (runs items).drop size,
    (List.take_append_drop size (runs items)).symm,
    expired_eq_drop cutoff keep (runs_newestFirst items), ?_⟩
  have hcount := List.countP_le_length (p := isRecent cutoff) (l := runs items)
  rw [List.length_take, ← countP_runs]
  omega

theorem remove_eq {path : String} {gone : List LogItem}
    (hremovable : ∀ item ∈ gone, item.refusal = none) (items : List LogItem) :
    remove path gone items =
      { left := items.filter fun item => !gone.contains item
        removed := gone.length
        log := [] } := by
  rw [remove, LogCleanup.mk.injEq]
  refine ⟨?_, ?_, ?_⟩
  · apply List.filter_congr
    intro item _
    by_cases hitem : item ∈ gone
    · simp [hitem, hremovable item hitem]
    · simp [hitem]
  · rw [List.countP_eq_length]
    intro item hitem
    rw [hremovable item hitem]
    rfl
  · rw [List.filterMap_eq_nil_iff]
    intro item hitem
    rw [hremovable item hitem]
    rfl

/-- Some different items and all others make up the whole. -/
theorem length_filter_not_contains {gone : List LogItem} (hgone : gone.Nodup)
    (hitems : items.Nodup) (hsub : ∀ item ∈ gone, item ∈ items) :
    gone.length + (items.filter fun item => !gone.contains item).length = items.length := by
  have hperm : (items.filter fun item => gone.contains item).Perm gone := by
    apply (List.perm_ext_iff_of_nodup (hitems.filter _) hgone).mpr
    intro item
    simp only [List.mem_filter, List.contains_iff_mem, and_iff_right_iff_imp]
    exact hsub item
  rw [← hperm.length_eq, ← List.length_eq_length_filter_add]

/-- Of the items that have a property, those that do not go are left. -/
theorem countP_filter_not_contains {p : LogItem → Bool} {kept gone : List LogItem}
    (hsplit : (kept ++ gone).Perm (items.filter p)) (hapart : ∀ item ∈ kept, item ∉ gone) :
    (items.filter fun item => !gone.contains item).countP p = kept.length := by
  have hkept : kept.filter (fun item => !gone.contains item) = kept := by
    apply List.filter_eq_self.mpr
    intro item hitem
    simpa using hapart item hitem
  have hgone : gone.filter (fun item => !gone.contains item) = [] := by
    apply List.filter_eq_nil_iff.mpr
    intro item hitem
    simpa using hitem
  calc (items.filter fun item => !gone.contains item).countP p
      = ((items.filter p).filter fun item => !gone.contains item).length := by
        rw [List.countP_eq_length_filter, List.filter_comm]
    _ = ((kept ++ gone).filter fun item => !gone.contains item).length :=
        (hsplit.filter _).length_eq.symm
    _ = kept.length := by rw [List.filter_append, hkept, hgone, List.append_nil]

/-- Of items that are all different, and of which the system removes every run that is to
go, the newest runs stay. -/
theorem remove_expired_keepsNewest (path : String) (hdistinct : items.Nodup)
    (hremovable : ∀ item ∈ expired cutoff keep (runs items), item.refusal = none) :
    KeepsNewest cutoff keep items (remove path (expired cutoff keep (runs items)) items) := by
  obtain ⟨kept, gone, hruns, hexpired, hlength⟩ := expired_spec cutoff keep items
  have hsplit : (kept.map Prod.fst ++ gone.map Prod.fst).Perm
      (items.filter fun item => item.stamp?.isSome) := by
    rw [← List.map_append, ← hruns]
    exact map_fst_runs_perm items
  obtain ⟨-, hdifferent, hapart⟩ :=
    List.nodup_append.mp (hsplit.nodup_iff.mpr (hdistinct.filter _))
  have hgone : ∀ item ∈ gone.map Prod.fst, item ∈ items ∧ item.stamp?.isSome = true :=
    fun item hitem => List.mem_filter.mp (hsplit.mem_iff.mp (List.mem_append_right _ hitem))
  have hside : ∀ item ∈ items, ∀ stamp, item.stamp? = some stamp →
      (item, stamp) ∈ kept ∨ (item, stamp) ∈ gone := by
    intro item hitem stamp hstamp
    rw [← List.mem_append, ← hruns]
    exact mem_runs_iff.mpr ⟨hitem, hstamp⟩
  have hleft : ∀ item, item ∈ items.filter (fun item => !(gone.map Prod.fst).contains item) ↔
      item ∈ items ∧ item ∉ gone.map Prod.fst := by
    intro item
    rw [List.mem_filter, Bool.not_eq_true', ← Bool.not_eq_true, List.contains_iff_mem]
  rw [hexpired] at hremovable ⊢
  rw [remove_eq hremovable]
  constructor
  case fromItems => exact List.filter_sublist
  case others =>
    intro item hitem hnone
    apply (hleft item).mpr
    refine ⟨hitem, fun hgoes => ?_⟩
    have hstamp := (hgone item hgoes).2
    rw [hnone] at hstamp
    cases hstamp
  case count =>
    have hcount := countP_filter_not_contains hsplit fun item hkept hgoes =>
      hapart item hkept item hgoes rfl
    rw [hcount, List.length_map, hlength]
  case newest =>
    intro stays hstays goes hgoes hmissing first second hfirst hsecond
    have hordered := runs_newestFirst items
    rw [NewestFirst, hruns, List.pairwise_append] at hordered
    obtain ⟨hitem, hstaying⟩ := (hleft stays).mp hstays
    have hkept : (stays, first) ∈ kept :=
      (hside stays hitem first hfirst).resolve_right fun hgoing =>
        hstaying (List.mem_map_of_mem hgoing)
    have hgoing : (goes, second) ∈ gone := by
      apply (hside goes hgoes second hsecond).resolve_left
      intro hkept
      refine hmissing ((hleft goes).mpr ⟨hgoes, fun hboth => ?_⟩)
      exact hapart goes (List.mem_map_of_mem hkept) goes hboth rfl
    exact hordered.2.2 _ hkept _ hgoing
  case removed =>
    exact length_filter_not_contains hdifferent hdistinct fun item hitem => (hgone item hitem).1
  case quiet => rfl

end Expired

/-- A folder whose items have different names, and of which the system removes all that is to
go, is cleaned whenever the calendar reaches back as far as the days say: files and folders of
other names stay, and of the runs as many of the newest recent ones as are to be kept. -/
theorem cleanup_keeps_newest {now : Timestamp} (hnow : InCalendar now.second) {days : Nat}
    (hcutoff : InCalendar (now.second - days * 86400)) (keep : Nat) (path : String)
    {items : List LogItem} (hnames : (items.map LogItem.name).Nodup)
    (hremovable : ∀ item ∈ expired ⟨now.second - days * 86400, now.nano⟩ keep (runs items),
      item.refusal = none) :
    ∃ cleanup, clean now days keep path (.readable items) = .ok cleanup ∧
      KeepsNewest ⟨now.second - days * 86400, now.nano⟩ keep items cleanup := by
  have hback : daysBack days = days := by
    rw [Timestamp.inCalendar_iff] at hnow hcutoff
    rw [daysBack, if_pos (by omega)]
  refine ⟨_, (clean_eq_ok_iff hnow ..).mpr (Or.inr ⟨items, rfl, ?_, rfl⟩), ?_⟩
  · rw [hback]
    exact hcutoff
  · rw [hback]
    exact remove_expired_keepsNewest path hnames.of_map hremovable

/-- A folder of logs with two runs of one second, of which the system keeps one for itself, an
older run, a file that is named like a run, and a folder with a name of its own. -/
def crowdedFolder : List LogItem :=
  [{ name := "archive", isFolder := true },
    { name := "run_20250610_120000", isFolder := true, refusal := some "busy" },
    { name := "run_20250612_000000", isFolder := false },
    { name := "run_20240610_120000", isFolder := true },
    { name := "run_ 20250610_120000", isFolder := true }]

/-- Of two runs of one second one is kept, where one is to be kept. -/
theorem crowded_folder_cleaned :
    InCalendar 1750000000 ∧ InCalendar (1750000000 - 30 * 86400) ∧
      (crowdedFolder.map LogItem.name).Nodup ∧
      (∀ item ∈ expired ⟨1750000000 - 30 * 86400, 0⟩ 1 (runs crowdedFolder),
        item.refusal = none) ∧
      ∃ cleanup, clean ⟨1750000000, 0⟩ 30 1 "logs" (.readable crowdedFolder) = .ok cleanup ∧
        KeepsNewest ⟨1750000000 - 30 * 86400, 0⟩ 1 crowdedFolder cleanup := by
  have hnow : InCalendar (Timestamp.mk 1750000000 0).second := by decide
  have hcutoff : InCalendar (1750000000 - 30 * 86400) := by decide
  have hnames : (crowdedFolder.map LogItem.name).Nodup := by decide
  have hremovable : ∀ item ∈ expired ⟨1750000000 - 30 * 86400, 0⟩ 1 (runs crowdedFolder),
      item.refusal = none := by decide +kernel
  exact ⟨hnow, hcutoff, hnames, hremovable,
    cleanup_keeps_newest hnow hcutoff 1 "logs" hnames hremovable⟩

example : clean ⟨1750000000, 0⟩ 30 1 "logs" (.readable crowdedFolder) =
    .ok ⟨crowdedFolder.take 3, 2, []⟩ := by
  decide +kernel

end LogRetention

end CapabilityMesh
