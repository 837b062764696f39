/-
Declarations can be told by their JSON texts: what an agent tells of itself and of its
tools is never written like anything else.
-/
import CapabilityMesh.Proofs.Json.Delimited
import CapabilityMesh.Wire.Declaration

namespace CapabilityMesh

open Json

theorem DependencyDeclaration.delimited_write : Delimited DependencyDeclaration.write := by
  constructor
  · intro a b rest rest' heq
    rw [DependencyDeclaration.write, DependencyDeclaration.write] at heq
    obtain ⟨hcapability, heq⟩ := delimited_writeString.first heq
    obtain ⟨htags, heq⟩ := delimited_writeString.list.next heq
    obtain ⟨hversion, hrest⟩ := delimited_writeString.lastOptional heq
    refine ⟨?_, hrest⟩
    cases a
    cases b
    simp_all
  · intro a
    exact writeObject_opens _

theorem ToolDeclaration.delimited_write : Delimited ToolDeclaration.write := by
  constructor
  · intro a b rest rest' heq
    rw [ToolDeclaration.write, ToolDeclaration.write] at heq
    obtain ⟨hfunction, heq⟩ := delimited_writeString.first heq
    obtain ⟨hcapability, heq⟩ := delimited_writeString.next heq
    obtain ⟨hversion, heq⟩ := delimited_writeString.next heq
    obtain ⟨htags, heq⟩ := delimited_writeString.list.next heq
    obtain ⟨hdependencies, heq⟩ :=
      DependencyDeclaration.delimited_write.list.next heq
    refine ⟨?_, rest_of_noFields heq⟩
    cases a
    cases b
    simp_all
  · intro a
    exact writeObject_opens _

theorem AgentMetadata.delimited_write : Delimited AgentMetadata.write := by
  constructor
  · intro a b rest rest' heq
    rw [AgentMetadata.write, AgentMetadata.write] at heq
    obtain ⟨hname, heq⟩ := delimited_writeString.first heq
    obtain ⟨hversion, heq⟩ := delimited_writeString.next heq
    obtain ⟨hnamespace, heq⟩ := delimited_writeString.next heq
    obtain ⟨hendpoint, heq⟩ := delimited_writeString.next heq
    obtain ⟨htools, heq⟩ := ToolDeclaration.delimited_write.list.next heq
    refine ⟨?_, rest_of_noFields heq⟩
    cases a
    cases b
    simp_all
  · intro a
    exact writeObject_opens _

/-- What an agent tells of itself can be told by its text. -/
theorem AgentMetadata.toJson_inj {m other : AgentMetadata} :
    m.toJson = other.toJson ↔ m = other := by
  constructor
  · intro htext
    have hwrite : m.write = other.write := String.ofList_injective htext
    have happend : m.write ++ [] = other.write ++ [] := by rw [hwrite]
    exact (AgentMetadata.delimited_write.unique m other [] [] happend).1
  · intro heq
    rw [heq]

end CapabilityMesh
