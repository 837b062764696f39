/-
Tools as they are built, step by step.  Labels are sets: neither the order in which they
were given can be seen nor how often.  So the same is told of tools that differ in that
alone.
-/
import Mathlib.Data.List.Sort
import CapabilityMesh.Wire.Declaration
import CapabilityMesh.Proofs.Sorted

namespace CapabilityMesh

namespace Tags

variable {tags others : Tags}

/-- Labels in ascending order, each once. -/
def Ordered (tags : Tags) : Prop :=
  tags.Pairwise fun tag other => tag < other

/-- A label that is added joins those that are there. -/
theorem mem_insert (tags : Tags) (tag other : String) :
    other ∈ tags.insert tag ↔ other = tag ∨ other ∈ tags := by
  induction tags with
  | nil => simp [insert]
  | cons first rest ih =>
      rw [insert]
      split
      · exact List.mem_cons
      · split
        · rename_i hsame
          rw [hsame, List.mem_cons, or_self_left]
        · rw [List.mem_cons, ih, List.mem_cons, or_left_comm]

theorem Ordered.sorted (h : tags.Ordered) : Sorted.Ordered id (fun a b => a < b) tags := h

theorem insert_eq_put (tags : Tags) (tag : String) :
    tags.insert tag = Sorted.put id (fun a b => a < b) (fun _ _ => true) tags tag := by
  induction tags with
  | nil => rfl
  | cons first rest ih =>
      rw [insert, ih]
      rfl

theorem Ordered.insert (h : tags.Ordered) (tag : String) : (tags.insert tag).Ordered := by
  rw [insert_eq_put]
  exact h.sorted.put tag

theorem Ordered.insertAll (h : tags.Ordered) (more : List String) :
    (tags.insertAll more).Ordered := by
  induction more generalizing tags with
  | nil => exact h
  | cons tag more ih => exact ih (h.insert tag)

theorem mem_insertAll (tags : Tags) (more : List String) (other : String) :
    other ∈ tags.insertAll more ↔ other ∈ tags ∨ other ∈ more := by
  induction more generalizing tags with
  | nil => simp [insertAll]
  | cons tag more ih =>
      refine (ih (tags.insert tag)).trans ?_
      rw [mem_insert, List.mem_cons, or_comm (a := other = tag), or_assoc]

/-- Labels in order are determined by which they are. -/
theorem Ordered.ext (h : tags.Ordered) (hothers : others.Ordered)
    (hsame : ∀ tag, tag ∈ tags ↔ tag ∈ others) : tags = others :=
  h.eq_of_mem_iff hothers hsame

/-- It does not matter in which order labels are added, or how often. -/
theorem Ordered.insertAll_congr (h : tags.Ordered) {first second : List String}
    (hsame : ∀ tag, tag ∈ first ↔ tag ∈ second) :
    tags.insertAll first = tags.insertAll second := by
  refine (h.insertAll first).ext (h.insertAll second) ?_
  intro tag
  rw [mem_insertAll, mem_insertAll, hsame]

end Tags

namespace Dependency

/-- A dependency that was built step by step. -/
inductive Built : Dependency → Prop where
  | on (capability : String) : Built (.on capability)
  | withVersion {d : Dependency} (h : Built d) (version : String) :
      Built (d.withVersion version)
  | withTag {d : Dependency} (h : Built d) (tag : String) : Built (d.withTag tag)
  | withTags {d : Dependency} (h : Built d) (tags : List String) : Built (d.withTags tags)
  | forParameter {d : Dependency} (h : Built d) (parameter : String) :
      Built (d.forParameter parameter)
  | optional {d : Dependency} (h : Built d) : Built d.optional

theorem Built.tags_ordered {d : Dependency} (h : d.Built) : d.tags.Ordered := by
  induction h with
  | on capability => exact List.Pairwise.nil
  | withVersion _ version ih => exact ih
  | withTag _ tag ih => exact ih.insert tag
  | withTags _ tags ih => exact ih.insertAll tags
  | forParameter _ parameter ih => exact ih
  | optional _ ih => exact ih

/-- Whether the same is to be told of two dependencies, whose labels count as sets. -/
structure TellsSame (d other : Dependency) : Prop where
  capability : d.capability = other.capability
  version : d.version = other.version
  tags : ∀ tag, tag ∈ d.tags ↔ tag ∈ other.tags

theorem TellsSame.refl (d : Dependency) : d.TellsSame d :=
  ⟨rfl, rfl, fun _ => Iff.rfl⟩

theorem TellsSame.declare_eq {d other : Dependency} (h : d.TellsSame other) (hd : d.Built)
    (hother : other.Built) : d.declare = other.declare := by
  rw [declare, declare, h.capability, h.version,
    hd.tags_ordered.ext hother.tags_ordered h.tags]

/-- What is told of dependencies keeps their order. -/
theorem map_declare_eq {ds others : List Dependency}
    (h : List.Forall₂ TellsSame ds others) (hds : ∀ d ∈ ds, d.Built)
    (hothers : ∀ d ∈ others, d.Built) : ds.map declare = others.map declare := by
  induction h with
  | nil => rfl
  | cons hfirst _ ih =>
      rw [List.forall_mem_cons] at hds hothers
      rw [List.map_cons, List.map_cons, hfirst.declare_eq hds.1 hothers.1,
        ih hds.2 hothers.2]

end Dependency

namespace Tool

/-- A tool that was built step by step. -/
inductive Built : Tool → Prop where
  | named (function : String) : Built (.named function)
  | provides {t : Tool} (h : Built t) (capability : String) : Built (t.provides capability)
  | withVersion {t : Tool} (h : Built t) (version : String) : Built (t.withVersion version)
  | withTag {t : Tool} (h : Built t) (tag : String) : Built (t.withTag tag)
  | dependsOn {t : Tool} (h : Built t) {d : Dependency} (hd : d.Built) :
      Built (t.dependsOn d)

theorem Built.tags_ordered {t : Tool} (h : t.Built) : t.tags.Ordered := by
  induction h with
  | named function => exact List.Pairwise.nil
  | provides _ capability ih => exact ih
  | withVersion _ version ih => exact ih
  | withTag _ tag ih => exact ih.insert tag
  | dependsOn _ _ ih => exact ih

theorem Built.dependencies_built {t : Tool} (h : t.Built) : ∀ d ∈ t.dependencies, d.Built := by
  induction h with
  | named function => intro d hd; cases hd
  | provides _ capability ih => exact ih
  | withVersion _ version ih => exact ih
  | withTag _ tag ih => exact ih
  | dependsOn _ hlast ih =>
      intro d hd
      rcases List.mem_append.mp hd with hd | hd
      · exact ih d hd
      · rw [List.mem_singleton.mp hd]
        exact hlast

/-- Whether two tools that were built count as equal: the same is to be told of them, where
labels count as sets. -/
structure CountsAs (t other : Tool) : Prop where
  built : t.Built
  otherBuilt : other.Built
  function : t.function = other.function
  capability : t.capability = other.capability
  version : t.version = other.version
  tags : ∀ tag, tag ∈ t.tags ↔ tag ∈ other.tags
  dependencies : List.Forall₂ Dependency.TellsSame t.dependencies other.dependencies

theorem Built.countsAs {t : Tool} (h : t.Built) : t.CountsAs t where
  built := h
  otherBuilt := h
  function := rfl
  capability := rfl
  version := rfl
  tags _ := Iff.rfl
  dependencies := List.forall₂_same.mpr fun d _ => Dependency.TellsSame.refl d

theorem CountsAs.declare_eq {t other : Tool} (h : t.CountsAs other) :
    t.declare = other.declare := by
  rw [declare, declare, h.function, h.capability, h.version,
    h.built.tags_ordered.ext h.otherBuilt.tags_ordered h.tags,
    Dependency.map_declare_eq h.dependencies h.built.dependencies_built
      h.otherBuilt.dependencies_built]

end Tool

end CapabilityMesh
