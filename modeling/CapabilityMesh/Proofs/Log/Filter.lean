/-
When debug flags keep logging from starting.  What arguments and the environment name becomes
a directive for each name, which stands as it was given; so a filter comes about exactly if
every name is one that directives may have in front of a level.
-/
import CapabilityMesh.Log.Filter
import CapabilityMesh.Proofs.Log.Directive
import CapabilityMesh.Proofs.Tool.Building

namespace CapabilityMesh

namespace DebugFlags

theorem mem_enable (flags : DebugFlags) (name component : String) :
    name ∈ (flags.enable component).enabled ↔ name ∈ flags.enabled ∨ component = name := by
  rw [enable, Tags.mem_insert, or_comm, eq_comm]

/-- What many readings ask for, if one adds what it asks for itself. -/
theorem mem_foldl {α : Type} {read : DebugFlags → α → DebugFlags} {asks : α → Prop}
    {name : String}
    (hread : ∀ flags a, name ∈ (read flags a).enabled ↔ name ∈ flags.enabled ∨ asks a)
    (texts : List α) (flags : DebugFlags) :
    name ∈ (texts.foldl read flags).enabled ↔
      name ∈ flags.enabled ∨ ∃ a ∈ texts, asks a := by
  induction texts generalizing flags with
  | nil => simp
  | cons a texts ih =>
      rw [List.foldl_cons, ih, hread]
      simp [or_assoc]

theorem mem_enableAll (flags : DebugFlags) (name : String) :
    name ∈ flags.enableAll.enabled ↔ name ∈ flags.enabled ∨ name ∈ known := by
  rw [enableAll, mem_foldl (fun flags component => mem_enable flags name component)]
  simp

/-- Whether an argument asks for the detail of a component. -/
def Asks (name argument : String) : Prop :=
  if argument = "--debug-all" then name ∈ known else argument = "--debug-" ++ name

theorem mem_readArgument (flags : DebugFlags) (name argument : String) :
    name ∈ (flags.readArgument argument).enabled ↔
      name ∈ flags.enabled ∨ Asks name argument := by
  rw [readArgument, Asks]
  by_cases hall : argument = "--debug-all"
  · rw [if_pos hall, if_pos hall]
    exact mem_enableAll flags name
  · rw [if_neg hall, if_neg hall]
    have hname : argument = "--debug-" ++ name ↔
        Text.behind? "--debug-".toList argument.toList = some name.toList := by
      rw [Text.behind?_eq_some, ← String.toList_append, String.toList_inj]
    rw [hname]
    cases hbehind : Text.behind? "--debug-".toList argument.toList with
    | none => simp
    | some component =>
        rw [mem_enable, Option.some.injEq, ← String.toList_inj, String.toList_ofList]

theorem mem_ofArguments (arguments : List String) (name : String) :
    name ∈ (ofArguments arguments).enabled ↔ ∃ argument ∈ arguments, Asks name argument := by
  rw [ofArguments, mem_foldl (fun flags argument => mem_readArgument flags name argument)]
  simp

/-- Whether a piece of the environment variable asks for the detail of a component. -/
def Lists (name : String) (piece : List Char) : Prop :=
  name ≠ "" ∧ String.ofList (Text.strip Text.isBlank piece) = name

theorem mem_merge (flags : DebugFlags) (name value : String) :
    name ∈ (flags.merge value).enabled ↔ name ∈ flags.enabled ∨
      if Text.trim value = "all" then name ∈ known
      else ∃ piece ∈ Text.splitOn ',' value.toList, Lists name piece := by
  rw [merge]
  by_cases hall : Text.trim value = "all"
  · rw [if_pos hall, if_pos hall]
    exact mem_enableAll flags name
  · rw [if_neg hall, if_neg hall]
    refine mem_foldl ?_ _ flags
    intro flags piece
    simp only [Lists]
    by_cases hempty : Text.strip Text.isBlank piece = []
    · simp [hempty, eq_comm]
    · simp only [List.isEmpty_iff, if_neg hempty, mem_enable]
      refine or_congr_right (iff_and_self.mpr ?_)
      rintro rfl
      simpa using hempty

end DebugFlags

namespace LogFilter

variable (isValue : List Char → Bool)

/-- Whether the directive of a component can be read, with the commas that its name may have. -/
def IsComponent (name : String) : Prop :=
  ∃ before last,
    Text.splitOn ',' (DebugFlags.target name).toList = before ++ [last] ∧
      (∀ piece ∈ before, piece = [] ∨ LogDirective.read isValue piece = .ok ()) ∧
      LogDirective.IsTarget (LogDirective.isField isValue) last

theorem readAll_eq_ok (pieces : List (List Char)) :
    readAll isValue pieces = .ok () ↔
      ∀ piece ∈ pieces, piece = [] ∨ LogDirective.read isValue piece = .ok () := by
  induction pieces with
  | nil => simp [readAll]
  | cons piece pieces ih =>
      rw [readAll, List.forall_mem_cons, ← ih]
      by_cases hempty : piece = []
      · rw [if_pos (by simpa using hempty), ok_bind]
        exact (and_iff_right (Or.inl hempty)).symm
      · rw [if_neg (by simpa using hempty), bind_eq_ok, or_iff_right hempty]
        exact Unique.exists_iff

/-- Texts of which all pieces between commas are empty or directives. -/
def Readable (cs : List Char) : Prop :=
  ∀ piece ∈ Text.splitOn ',' cs, piece = [] ∨ LogDirective.read isValue piece = .ok ()

theorem readable_debug_iff (name : String) :
    Readable isValue (DebugFlags.target name ++ "=debug").toList ↔ IsComponent isValue name := by
  obtain ⟨before, last, hsplit, happend⟩ :=
    Text.exists_splitOn_append ',' (DebugFlags.target name).toList
  have hlevel : LogDirective.isLevel "debug".toList = true := by decide
  have hlast := LogDirective.read_level_iff isValue last hlevel (by decide)
  have hdebug : last ++ "=debug".toList = last ++ '=' :: "debug".toList := rfl
  rw [Readable, String.toList_append, happend _ (by decide), List.forall_mem_append,
    List.forall_mem_singleton, hdebug, hlast, or_iff_right (by simp)]
  constructor
  · rintro ⟨hbefore, htarget⟩
    exact ⟨before, last, hsplit, hbefore, htarget⟩
  · rintro ⟨before', last', hsplit', hbefore, htarget⟩
    obtain ⟨rfl, hends⟩ := List.append_inj' (hsplit.symm.trans hsplit') rfl
    obtain rfl := List.head_eq_of_cons_eq hends
    exact ⟨hbefore, htarget⟩

theorem readable_level (level : LogLevel) : Readable isValue level.name.toList := by
  cases level with
  | trace | debug | info | warn | error =>
      exact List.forall_mem_singleton.mpr (Or.inr rfl)

theorem readable_intercalate_iff (parts : List (List Char)) (last : List Char) :
    Readable isValue ([','].intercalate (parts ++ [last])) ↔
      (∀ part ∈ parts, Readable isValue part) ∧ Readable isValue last := by
  rw [Readable, Text.splitOn_intercalate, List.forall_mem_append, List.forall_mem_flatMap]
  rfl

theorem readable_filterText_iff (flags : DebugFlags) (level : LogLevel) :
    Readable isValue (flags.filterText level.name).toList ↔
      ∀ name ∈ flags.enabled, IsComponent isValue name := by
  rw [DebugFlags.filterText, String.toList_intercalate, List.map_append, List.map_map]
  refine (readable_intercalate_iff isValue _ level.name.toList).trans ?_
  rw [and_iff_left (readable_level isValue level), List.forall_mem_map]
  exact forall₂_congr fun name _ => readable_debug_iff isValue name

theorem opensTarget_target {name : String}
    (hopens : name.toList.all LogDirective.opensTarget = true) :
    ∀ c ∈ (DebugFlags.target name).toList, LogDirective.opensTarget c = true := by
  rw [DebugFlags.target, String.toList_ofList, List.forall_mem_map]
  intro c hc
  by_cases hdash : c = '-'
  · rw [if_pos hdash]
    rfl
  · rw [if_neg hdash]
    exact List.all_eq_true.mp hopens c hc

theorem isComponent_of_opensTarget {name : String} (hne : name ≠ "")
    (hopens : name.toList.all LogDirective.opensTarget = true) :
    IsComponent isValue name := by
  have htarget := opensTarget_target hopens
  have hnot : ∀ {c : Char}, LogDirective.opensTarget c = false →
      c ∉ (DebugFlags.target name).toList := by
    intro c hc hmem
    rw [htarget c hmem] at hc
    cases hc
  refine ⟨[], _, Text.splitOn_eq_self ',' (hnot rfl), List.forall_mem_nil _, ?_⟩
  apply LogDirective.IsTarget.named
  have hlength : (DebugFlags.target name).toList ≠ [] := by
    simpa [DebugFlags.target] using hne
  obtain ⟨c, rest, hcs⟩ := List.exists_cons_of_ne_nil hlength
  rw [hcs] at htarget hnot
  refine ⟨c, rest, hcs, htarget c List.mem_cons_self, fun d hd => ⟨?_, ?_⟩⟩
  · rintro rfl
    exact hnot rfl (List.mem_cons_of_mem c hd)
  · rintro rfl
    exact hnot rfl (List.mem_cons_of_mem c hd)

theorem isComponent_of_mem_known {name : String} (hname : name ∈ DebugFlags.known) :
    IsComponent isValue name := by
  have hplain : ∀ known ∈ DebugFlags.known, known ≠ "" ∧
      known.toList.all LogDirective.opensTarget = true := by decide
  obtain ⟨hne, hopens⟩ := hplain name hname
  exact isComponent_of_opensTarget isValue hne hopens

theorem isComponent_all : IsComponent isValue "all" :=
  isComponent_of_opensTarget isValue (by decide) (by decide)

theorem forall_asked_iff (arguments : List String) :
    (∀ name ∈ (DebugFlags.ofArguments arguments).enabled, IsComponent isValue name) ↔
      ∀ name, "--debug-" ++ name ∈ arguments → IsComponent isValue name := by
  simp only [DebugFlags.mem_ofArguments, DebugFlags.Asks]
  constructor
  · intro h name hmem
    by_cases hall : "--debug-" ++ name = "--debug-all"
    · have hsame : "--debug-" ++ name = "--debug-" ++ "all" := hall
      obtain rfl := (String.append_right_inj "--debug-").mp hsame
      exact isComponent_all isValue
    · exact h name ⟨_, hmem, by rw [if_neg hall]⟩
  · rintro h name ⟨argument, hmem, hasks⟩
    split at hasks
    · exact isComponent_of_mem_known isValue hasks
    · exact h name (hasks ▸ hmem)

theorem forall_listed_iff (flags : DebugFlags) (value : String) :
    (∀ name ∈ (flags.merge value).enabled, IsComponent isValue name) ↔
      (∀ name ∈ flags.enabled, IsComponent isValue name) ∧
        ∀ piece ∈ Text.splitOn ',' value.toList, ∀ name, DebugFlags.Lists name piece →
          IsComponent isValue name := by
  simp only [DebugFlags.mem_merge, or_imp, forall_and]
  refine and_congr_right fun _ => ?_
  by_cases hall : Text.trim value = "all"
  · simp only [if_pos hall]
    refine iff_of_true (fun name hname => isComponent_of_mem_known isValue hname) ?_
    have hone : ',' ∉ value.toList := by
      intro hcomma
      have hstrip : Text.strip Text.isBlank value.toList = "all".toList := by
        rw [← hall, Text.trim, String.toList_ofList]
      have hmem := Text.mem_strip (p := Text.isBlank) rfl hcomma
      rw [hstrip] at hmem
      exact absurd hmem (by decide)
    rw [Text.splitOn_eq_self ',' hone, List.forall_mem_singleton]
    rintro name ⟨-, rfl⟩
    change IsComponent isValue (Text.trim value)
    rw [hall]
    exact isComponent_all isValue
  · simp only [if_neg hall]
    constructor
    · intro h piece hpiece name hname
      exact h name ⟨piece, hpiece, hname⟩
    · rintro h name ⟨piece, hpiece, hname⟩
      exact h piece hpiece name hname

theorem build_eq_ok {policy : LogPolicy} {flags : DebugFlags} :
    build isValue policy flags = .ok (flags.filterText policy.level) ↔
      Readable isValue (flags.filterText policy.level).toList := by
  rw [Readable, ← readAll_eq_ok, build]
  cases readAll isValue (Text.splitOn ',' (flags.filterText policy.level).toList) with
  | ok read => simp
  | error fault => cases fault <;> simp

theorem start_eq_ok {policy : LogPolicy} {flags : DebugFlags} {started : Bool} :
    start isValue policy flags started = .ok (!started) ↔
      build isValue policy flags = .ok (flags.filterText policy.level) := by
  rw [start, build]
  cases readAll isValue (Text.splitOn ',' (flags.filterText policy.level).toList) with
  | ok read => simp [Except.map]
  | error fault => cases fault <;> simp [Except.map]

/-- Logging starts exactly if every name that arguments and the environment ask for may stand
in front of a level.  Neither the level nor whether logging was started before counts. -/
theorem logging_starts_iff (policy : LogPolicy) (level : LogLevel) (arguments : List String)
    (value : Option String) (started : Bool) :
    build isValue { policy with level := level.name } (.ofProcess arguments value) =
          .ok ((DebugFlags.ofProcess arguments value).filterText level.name) ∧
        start isValue { policy with level := level.name } (.ofProcess arguments value) started =
          .ok (!started) ↔
      (∀ name, "--debug-" ++ name ∈ arguments → IsComponent isValue name) ∧
        ∀ text ∈ value, ∀ piece ∈ Text.splitOn ',' text.toList, ∀ name,
          DebugFlags.Lists name piece → IsComponent isValue name := by
  rw [start_eq_ok, and_self, build_eq_ok, readable_filterText_iff]
  cases value with
  | none =>
      rw [DebugFlags.ofProcess, forall_asked_iff]
      simp
  | some text =>
      rw [DebugFlags.ofProcess, forall_listed_iff, forall_asked_iff]
      simp

/-- An argument that names no component at all, where an empty piece of the environment
variable is passed over. -/
theorem empty_name_stops_logging :
    start (fun _ => true) (.console "info" false) (.ofProcess ["--debug-"] none) false =
        .error (.invalid "=debug,info") ∧
      start (fun _ => true) (.console "info" false) (.ofProcess [] (some ",")) false =
        .ok true := by
  constructor
  · rfl
  · rfl

end LogFilter

end CapabilityMesh
