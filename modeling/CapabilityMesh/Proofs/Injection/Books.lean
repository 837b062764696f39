/-
The books of an injector.  The lists of the functions that need a capability are kept
beside the list of the wrapped functions, and say the same: a function is listed for a
capability exactly if it is wrapped and declares it.  The generation counts every
function twice, when it is wrapped and when it is released.
-/
import Mathlib.Data.List.Nodup
import CapabilityMesh.Proofs.Injection.Use

namespace CapabilityMesh

namespace Tool

/-- Whether a function declares that it needs a capability. -/
def Declares (t : Tool) (capability : String) : Prop :=
  ∃ d ∈ t.dependencies, d.capability = capability

end Tool

namespace Injector

/-- Lists of the functions that need a capability. -/
abbrev Listing := List (String × List FunctionKey)

/-- Whether a function is listed for a capability. -/
def Lists (listing : Listing) (capability : String) (key : FunctionKey) : Prop :=
  ∃ entry ∈ listing, entry.1 = capability ∧ key ∈ entry.2

/-- Lists that are kept as they should be: one for a capability, none without a
function, and no function twice in one of them. -/
structure Orderly (listing : Listing) : Prop where
  names : (listing.map Prod.fst).Nodup
  filled : ∀ entry ∈ listing, entry.2 ≠ []
  distinct : ∀ entry ∈ listing, entry.2.Nodup

theorem orderly_nil : Orderly [] := ⟨List.nodup_nil, by simp, by simp⟩

theorem lists_cons (first : String × List FunctionKey) (rest : Listing)
    (capability : String) (key : FunctionKey) :
    Lists (first :: rest) capability key ↔
      (first.1 = capability ∧ key ∈ first.2) ∨ Lists rest capability key := by
  rw [Lists, List.exists_mem_cons_iff, Lists]

theorem not_lists_of_not_mem {listing : Listing} {capability : String}
    (hname : capability ∉ listing.map Prod.fst) (key : FunctionKey) :
    ¬ Lists listing capability key := by
  rintro ⟨entry, hentry, rfl, -⟩
  exact hname (List.mem_map_of_mem hentry)

theorem mem_dependentsOf {i : Injector} (hnames : (i.dependents.map Prod.fst).Nodup)
    (capability : String) (key : FunctionKey) :
    key ∈ i.dependentsOf capability ↔ Lists i.dependents capability key := by
  rw [dependentsOf]
  generalize i.dependents = listing at hnames
  induction listing with
  | nil => simp [Lists]
  | cons first rest ih =>
      obtain ⟨name, keys⟩ := first
      have hparts := List.nodup_cons.mp hnames
      rw [lists_cons, List.lookup_cons]
      by_cases hname : capability = name
      · subst hname
        have hrest := not_lists_of_not_mem hparts.1 key
        simp [hrest]
      · have hbeq : (capability == name) = false := beq_eq_false_iff_ne.mpr hname
        rw [hbeq]
        refine (ih hparts.2).trans (or_iff_right ?_).symm
        exact fun hfirst => hname hfirst.1.symm

section Adding

variable (key : FunctionKey) (capability : String)

theorem lists_addDependent (listing : Listing) (wanted : String) (other : FunctionKey) :
    Lists (addDependent listing key capability) wanted other ↔
      Lists listing wanted other ∨ (other = key ∧ capability = wanted) := by
  induction listing with
  | nil =>
      simp only [addDependent, Lists, List.mem_singleton, exists_eq_left, List.not_mem_nil,
        false_and, exists_false, false_or]
      exact and_comm
  | cons first rest ih =>
      obtain ⟨name, keys⟩ := first
      rw [addDependent]
      split
      · rename_i hname
        subst hname
        have hmem : other ∈ (if keys.contains key then keys else keys ++ [key]) ↔
            other ∈ keys ∨ other = key := by
          split
          · rename_i hkey
            refine (or_iff_left_of_imp ?_).symm
            rintro rfl
            exact List.contains_iff_mem.mp hkey
          · simp
        rw [lists_cons, lists_cons, hmem]
        constructor
        · rintro (⟨rfl, hold | rfl⟩ | hrest)
          · exact Or.inl (Or.inl ⟨rfl, hold⟩)
          · exact Or.inr ⟨rfl, rfl⟩
          · exact Or.inl (Or.inr hrest)
        · rintro ((⟨rfl, hold⟩ | hrest) | ⟨rfl, rfl⟩)
          · exact Or.inl ⟨rfl, Or.inl hold⟩
          · exact Or.inr hrest
          · exact Or.inl ⟨rfl, Or.inr rfl⟩
      · rw [lists_cons, lists_cons, ih, or_assoc]

theorem addDependent_names (listing : Listing) (name : String) :
    name ∈ (addDependent listing key capability).map Prod.fst ↔
      name = capability ∨ name ∈ listing.map Prod.fst := by
  induction listing with
  | nil => simp [addDependent]
  | cons first rest ih =>
      obtain ⟨other, keys⟩ := first
      rw [addDependent]
      split
      · rename_i hname
        subst hname
        simp
      · rw [List.map_cons, List.map_cons, List.mem_cons, List.mem_cons, ih, or_left_comm]

theorem addDependent_orderly {listing : Listing} (h : Orderly listing) :
    Orderly (addDependent listing key capability) := by
  induction listing with
  | nil => exact ⟨by simp [addDependent], by simp [addDependent], by simp [addDependent]⟩
  | cons first rest ih =>
      obtain ⟨name, keys⟩ := first
      have hparts := List.nodup_cons.mp h.names
      have hrest : Orderly rest :=
        ⟨hparts.2, fun entry hentry => h.filled entry (List.mem_cons_of_mem _ hentry),
          fun entry hentry => h.distinct entry (List.mem_cons_of_mem _ hentry)⟩
      have hfilled : keys ≠ [] := h.filled _ List.mem_cons_self
      have hdistinct : keys.Nodup := h.distinct _ List.mem_cons_self
      rw [addDependent]
      split
      · refine ⟨h.names, ?_, ?_⟩
        · intro entry hentry
          rcases List.mem_cons.mp hentry with rfl | hentry
          · simp only
            split
            · exact hfilled
            · simp
          · exact hrest.filled entry hentry
        · intro entry hentry
          rcases List.mem_cons.mp hentry with rfl | hentry
          · simp only
            split
            · exact hdistinct
            · rename_i hkey
              rw [List.contains_iff_mem] at hkey
              simpa using hdistinct.concat hkey
          · exact hrest.distinct entry hentry
      · rename_i hname
        have hmore := ih hrest
        refine ⟨?_, ?_, ?_⟩
        · rw [List.map_cons, List.nodup_cons]
          refine ⟨?_, hmore.names⟩
          rw [addDependent_names, not_or]
          exact ⟨hname, hparts.1⟩
        · intro entry hentry
          rcases List.mem_cons.mp hentry with rfl | hentry
          · exact hfilled
          · exact hmore.filled entry hentry
        · intro entry hentry
          rcases List.mem_cons.mp hentry with rfl | hentry
          · exact hdistinct
          · exact hmore.distinct entry hentry

end Adding

section Removing

variable (key : FunctionKey) (capability : String)

/-- What is left of an entry when a function is struck from a capability's list. -/
theorem mem_removeDependent (listing : Listing) (entry : String × List FunctionKey) :
    entry ∈ removeDependent listing key capability ↔
      ∃ old ∈ listing, old.1 = entry.1 ∧
        if old.1 = capability then entry.2 = old.2.filter (· ≠ key) ∧ entry.2 ≠ []
        else entry.2 = old.2 := by
  rw [removeDependent, List.mem_filterMap]
  refine exists_congr fun old => and_congr_right fun _ => ?_
  obtain ⟨name, keys⟩ := old
  obtain ⟨name', keys'⟩ := entry
  by_cases hname : name = capability
  · simp only [if_pos hname]
    cases hleft : keys.filter (· ≠ key) with
    | nil =>
        simp only [reduceCtorEq, false_iff, not_and, not_not]
        exact fun _ hempty => hempty
    | cons first rest =>
        simp only [Option.some.injEq, Prod.mk.injEq]
        constructor
        · rintro ⟨rfl, rfl⟩
          exact ⟨rfl, rfl, by simp⟩
        · rintro ⟨rfl, rfl, -⟩
          exact ⟨rfl, rfl⟩
  · simp only [if_neg hname, Option.some.injEq, Prod.mk.injEq]
    exact and_congr_right fun _ => eq_comm

/-- To strike a function from a capability's list strikes nothing else. -/
theorem lists_removeDependent (listing : Listing) (wanted : String)
    (other : FunctionKey) :
    Lists (removeDependent listing key capability) wanted other ↔
      Lists listing wanted other ∧ ¬ (other = key ∧ capability = wanted) := by
  constructor
  · rintro ⟨entry, hentry, rfl, hother⟩
    obtain ⟨old, hold, hname, hleft⟩ := (mem_removeDependent key capability _ _).mp hentry
    split at hleft
    · rw [hleft.1, List.mem_filter, decide_eq_true_eq] at hother
      exact ⟨⟨old, hold, hname, hother.1⟩, fun hgone => hother.2 hgone.1⟩
    · rename_i hne
      rw [hleft] at hother
      exact ⟨⟨old, hold, hname, hother⟩, fun hgone => hne (hname.trans hgone.2.symm)⟩
  · rintro ⟨⟨old, hold, rfl, hother⟩, hkept⟩
    by_cases hname : old.1 = capability
    · have hleft : other ∈ old.2.filter (· ≠ key) := by
        rw [List.mem_filter, decide_eq_true_eq]
        exact ⟨hother, fun hkey => hkept ⟨hkey, hname.symm⟩⟩
      refine ⟨(old.1, old.2.filter (· ≠ key)), ?_, rfl, hleft⟩
      rw [mem_removeDependent]
      refine ⟨old, hold, rfl, ?_⟩
      rw [if_pos hname]
      exact ⟨rfl, List.ne_nil_of_mem hleft⟩
    · refine ⟨old, (mem_removeDependent key capability _ _).mpr ⟨old, hold, rfl, ?_⟩, rfl,
        hother⟩
      rw [if_neg hname]

theorem removeDependent_names (listing : Listing) :
    ((removeDependent listing key capability).map Prod.fst).Sublist
      (listing.map Prod.fst) := by
  induction listing with
  | nil => exact List.Sublist.refl _
  | cons first rest ih =>
      obtain ⟨name, keys⟩ := first
      rw [removeDependent, List.filterMap_cons]
      by_cases hname : name = capability
      · simp only [if_pos hname]
        cases keys.filter (· ≠ key) with
        | nil => exact ih.trans (List.sublist_cons_self _ _)
        | cons _ _ => exact ih.cons_cons _
      · simp only [if_neg hname]
        exact ih.cons_cons _

theorem removeDependent_orderly {listing : Listing} (h : Orderly listing) :
    Orderly (removeDependent listing key capability) := by
  refine ⟨h.names.sublist (removeDependent_names key capability listing), ?_, ?_⟩
  · intro entry hentry
    obtain ⟨old, hold, -, hleft⟩ := (mem_removeDependent key capability _ _).mp hentry
    split at hleft
    · exact hleft.2
    · rw [hleft]
      exact h.filled old hold
  · intro entry hentry
    obtain ⟨old, hold, -, hleft⟩ := (mem_removeDependent key capability _ _).mp hentry
    split at hleft
    · rw [hleft.1]
      exact (h.distinct old hold).filter _
    · rw [hleft]
      exact h.distinct old hold

end Removing

section Tools

variable (t : Tool) (key : FunctionKey)

/-- A function is listed for all that it declares, however often it declares it. -/
theorem lists_addAll (listing : Listing) (ds : List Dependency) (wanted : String)
    (other : FunctionKey) :
    Lists (ds.foldl (fun listing d => addDependent listing key d.capability) listing)
        wanted other ↔
      Lists listing wanted other ∨ (other = key ∧ ∃ d ∈ ds, d.capability = wanted) := by
  induction ds generalizing listing with
  | nil => simp
  | cons first rest ih =>
      rw [List.foldl_cons, ih, lists_addDependent, List.exists_mem_cons_iff, or_assoc,
        ← and_or_left]

theorem lists_removeAll (listing : Listing) (ds : List Dependency) (wanted : String)
    (other : FunctionKey) :
    Lists (ds.foldl (fun listing d => removeDependent listing key d.capability) listing)
        wanted other ↔
      Lists listing wanted other ∧ ¬ (other = key ∧ ∃ d ∈ ds, d.capability = wanted) := by
  induction ds generalizing listing with
  | nil => simp
  | cons first rest ih =>
      rw [List.foldl_cons, ih, lists_removeDependent, List.exists_mem_cons_iff, and_assoc,
        ← not_or, ← and_or_left]

theorem addAll_orderly {listing : Listing} (h : Orderly listing) (ds : List Dependency) :
    Orderly (ds.foldl (fun listing d => addDependent listing key d.capability) listing) := by
  induction ds generalizing listing with
  | nil => exact h
  | cons first rest ih => exact ih (addDependent_orderly key first.capability h)

theorem removeAll_orderly {listing : Listing} (h : Orderly listing)
    (ds : List Dependency) :
    Orderly
      (ds.foldl (fun listing d => removeDependent listing key d.capability) listing) := by
  induction ds generalizing listing with
  | nil => exact h
  | cons first rest ih => exact ih (removeDependent_orderly key first.capability h)

end Tools

/-- Books that are kept as they should be. -/
structure Books (i : Injector) : Prop where
  distinct : (i.functions.map TrackedFunction.key).Nodup
  below : ∀ f ∈ i.functions, f.key.id < i.nextId
  orderly : Orderly i.dependents
  inverse : ∀ capability key, Lists i.dependents capability key ↔
    ∃ f ∈ i.functions, f.key = key ∧ f.tool.Declares capability
  /-- Every number that was given counts once for a function that is still wrapped, and
  twice for one that was released. -/
  counted : i.generation + i.functions.length + 2 = 2 * i.nextId

theorem books_empty : Books {} where
  distinct := List.nodup_nil
  below _ hf := by cases hf
  orderly := orderly_nil
  inverse _ _ := by simp [Lists]
  counted := rfl

/-- Values come and go without a trace in the books. -/
theorem Books.of_table {i : Injector} (hi : i.Books) (table : DependencyTable) :
    Books { i with table := table } :=
  ⟨hi.distinct, hi.below, hi.orderly, hi.inverse, hi.counted⟩

theorem Books.track {i : Injector} (hi : i.Books) (tool : Tool) (mode : CallMode) :
    (i.track tool mode).Books := by
  have hfunctions : (i.track tool mode).functions =
      i.functions ++ [⟨i.nextKey tool.function, tool, mode⟩] := rfl
  refine ⟨?_, ?_, addAll_orderly _ hi.orderly _, ?_, ?_⟩
  · rw [hfunctions, List.map_append]
    refine nodup_append_greatest FunctionKey.id hi.distinct ?_
    intro key hkey
    obtain ⟨f, hf, rfl⟩ := List.mem_map.mp hkey
    exact hi.below f hf
  · intro f hf
    have hnext : (i.track tool mode).nextId = i.nextId + 1 := rfl
    rw [hnext]
    rcases List.mem_append.mp hf with hf | hf
    · exact Nat.lt_succ_of_lt (hi.below f hf)
    · rw [List.mem_singleton.mp hf]
      exact Nat.lt_succ_self _
  · intro capability key
    refine (lists_addAll _ _ _ _ _).trans ?_
    rw [hi.inverse, hfunctions]
    constructor
    · rintro (⟨f, hf, hkey, hdeclares⟩ | ⟨rfl, hdeclares⟩)
      · exact ⟨f, List.mem_append_left _ hf, hkey, hdeclares⟩
      · exact ⟨_, List.mem_append_right _ List.mem_cons_self, rfl, hdeclares⟩
    · rintro ⟨f, hf, rfl, hdeclares⟩
      rcases List.mem_append.mp hf with hf | hf
      · exact Or.inl ⟨f, hf, rfl, hdeclares⟩
      · rw [List.mem_singleton.mp hf] at hdeclares ⊢
        exact Or.inr ⟨rfl, hdeclares⟩
  · have hcounted := hi.counted
    have hgeneration : (i.track tool mode).generation = i.generation + 1 := rfl
    have hnext : (i.track tool mode).nextId = i.nextId + 1 := rfl
    rw [hfunctions, List.length_append, List.length_singleton, hgeneration, hnext]
    omega

theorem Books.function_unique {i : Injector} (hi : i.Books) {f g : TrackedFunction}
    (hf : f ∈ i.functions) (hg : g ∈ i.functions) (hkey : f.key = g.key) : f = g :=
  List.inj_on_of_nodup_map hi.distinct hf hg hkey

theorem Books.mem_newest_iff {i : Injector} (hi : i.Books) {f : TrackedFunction} :
    f ∈ i.newest ↔ i.IsNewest f.key.name f := by
  rw [(newest_represents i).mem_iff hi.distinct]
  exact ⟨fun ⟨hwrapped, hgreatest⟩ => ⟨hwrapped, rfl, hgreatest⟩,
    fun hf => ⟨hf.wrapped, hf.newest⟩⟩

theorem Books.mem_declaredTools_iff {i : Injector} (hi : i.Books) {t : Tool} :
    t ∈ i.declaredTools ↔ ∃ name f, i.IsNewest name f ∧ f.tool = t := by
  rw [declaredTools, List.mem_map]
  constructor
  · rintro ⟨f, hf, htool⟩
    exact ⟨f.key.name, f, hi.mem_newest_iff.mp hf, htool⟩
  · rintro ⟨name, f, hf, htool⟩
    rw [← hf.named] at hf
    exact ⟨f, hi.mem_newest_iff.mpr hf, htool⟩

theorem Books.length_without {i : Injector} (hi : i.Books) {f : TrackedFunction}
    (hf : f ∈ i.functions) :
    (i.without f).functions.length + 1 = i.functions.length := by
  have hkey : f.key ∈ i.functions.map TrackedFunction.key := List.mem_map_of_mem hf
  have hkeys : (i.without f).functions.map TrackedFunction.key =
      (i.functions.map TrackedFunction.key).erase f.key := by
    rw [hi.distinct.erase_eq_filter, List.filter_map, without_functions]
    congr 1
    apply List.filter_congr
    intro g _
    rw [Bool.eq_iff_iff]
    simp
  have hlength := congrArg List.length hkeys
  have hpos := List.length_pos_of_mem hkey
  rw [List.length_erase_of_mem hkey, List.length_map, List.length_map] at hlength
  rw [List.length_map] at hpos
  omega

theorem Books.without {i : Injector} (hi : i.Books) {f : TrackedFunction}
    (hf : f ∈ i.functions) : (i.without f).Books := by
  have hnext : (i.without f).nextId = i.nextId := (without_shrinks hf).nextId
  have hmem : ∀ g, g ∈ (i.without f).functions ↔ g ∈ i.functions ∧ g.key ≠ f.key := by
    intro g
    rw [without_functions, List.mem_filter, decide_eq_true_eq]
  refine ⟨?_, ?_, ?_, ?_, ?_⟩
  · exact hi.distinct.sublist ((without_shrinks hf).functions.map _)
  · intro g hg
    rw [hnext]
    exact hi.below g ((hmem g).mp hg).1
  · rw [without_dependents]
    exact removeAll_orderly _ hi.orderly _
  · intro capability key
    rw [without_dependents]
    refine (lists_removeAll _ _ _ _ _).trans ?_
    rw [hi.inverse]
    constructor
    · rintro ⟨⟨g, hg, rfl, hdeclares⟩, hkept⟩
      refine ⟨g, (hmem g).mpr ⟨hg, fun hkey => hkept ⟨hkey, ?_⟩⟩, rfl, hdeclares⟩
      rw [hi.function_unique hg hf hkey] at hdeclares
      exact hdeclares
    · rintro ⟨g, hg, rfl, hdeclares⟩
      obtain ⟨hold, hne⟩ := (hmem g).mp hg
      exact ⟨⟨g, hold, rfl, hdeclares⟩, fun hgone => hne hgone.1⟩
  · have hcounted := hi.counted
    have hlength := hi.length_without hf
    rw [without_generation, hnext]
    omega

theorem Releases.books {i j : Injector} (h : Releases i j) (hi : i.Books) : j.Books := by
  induction h with
  | refl => exact hi
  | next _ hf ih => exact ih.without hf

end Injector

namespace Heap

open Injector

variable {u : Usage} {h later : Heap}

/-- What a use does to the books: it wraps a function, or it changes values, and then
functions may be released. -/
theorem Use.entries (huse : Use u h later) (hrest : h.AtRest) :
    (∃ tool mode owned, u.wraps tool owned ∧
        later.injector = h.injector.track tool mode) ∨
      ∃ table : DependencyTable, Releases { h.injector with table := table } later.injector := by
  cases huse with
  | logged lines => exact Or.inr ⟨h.injector.table, .refl⟩
  | @wrap tool mode takes owned hallowed howned =>
      exact Or.inl ⟨tool, mode, owned, hallowed, rfl⟩
  | holdHandle hkey => exact Or.inr ⟨h.injector.table, .refl⟩
  | holdValue hvalue => exact Or.inr ⟨h.injector.table, .refl⟩
  | store hallowed hvalue => exact Or.inr ⟨_, .refl⟩
  | take key =>
      rw [take_injector]
      exact Or.inr ⟨_, .refl⟩
  | dropHandle key => exact Or.inr ⟨h.injector.table, (dropHandle_spec hrest key).2⟩
  | dropValue value => exact Or.inr ⟨h.injector.table, (dropValue_spec hrest value).2⟩
  | clearOwn function => exact Or.inr ⟨_, (clearOwn_spec hrest function).2⟩

theorem Use.books (huse : Use u h later) (hrest : h.AtRest) (hbooks : h.injector.Books) :
    later.injector.Books := by
  rcases huse.entries hrest with ⟨tool, mode, -, -, heq⟩ | ⟨table, hreleases⟩
  · rw [heq]
    exact hbooks.track tool mode
  · exact hreleases.books (hbooks.of_table table)

/-- Whatever is done with a new heap, its books are kept. -/
theorem Uses.books (huses : Uses u {} later) : later.injector.Books :=
  (huses.keeps (P := fun h => h.AtRest ∧ h.injector.Books)
    (fun huse hP => ⟨huse.atRest hP.1, huse.books hP.1 hP.2⟩) ⟨atRest_empty, books_empty⟩).2

/-- Without wrapping no number is given, and no function comes into the books. -/
theorem Uses.wrapless (huses : Uses .wrapless h later) (hrest : h.AtRest) :
    later.injector.nextId = h.injector.nextId ∧
      later.injector.functions.Sublist h.injector.functions := by
  refine (huses.keeps
    (P := fun k => k.AtRest ∧ k.injector.nextId = h.injector.nextId ∧
      k.injector.functions.Sublist h.injector.functions)
    ?_ ⟨hrest, rfl, List.Sublist.refl _⟩).2
  rintro k next huse ⟨hkrest, hnext, hfunctions⟩
  refine ⟨huse.atRest hkrest, ?_⟩
  rcases huse.entries hkrest with ⟨_, _, _, hwraps, _⟩ | ⟨table, hreleases⟩
  · exact absurd hwraps id
  · have hshrinks := hreleases.shrinks
    exact ⟨hshrinks.nextId.trans hnext, hshrinks.functions.trans hfunctions⟩

end Heap

end CapabilityMesh
