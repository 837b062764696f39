/-
Properties that the reading of a URL keeps.  A URL is read part by part, and each part only
sets some of its fields.  So whatever each of these settings keeps holds of every URL that is
read, if it holds of the bare scheme that reading begins with.
-/
import CapabilityMesh.Proofs.Step
import CapabilityMesh.Url.Reader

namespace CapabilityMesh

namespace Url

/-- Query and fragment are read without a look at the path. -/
theorem path_readTail (u : Url) (cs : List Char) : (readTail u cs).path = u.path := by
  unfold readTail
  split
  · simp only
    split <;> rfl
  · rfl
  · rfl

theorem readHost_sets {u site : Url} {cs more : List Char}
    (hread : readHost u cs = .ok (site, more)) :
    ∃ host port, site = { u with host := some host, port := port } := by
  rw [readHost] at hread
  generalize splitHost false cs = parts at hread
  obtain ⟨name, rest⟩ := parts
  simp only at hread
  split at hread
  · cases hread
  · split at hread
    all_goals
      obtain ⟨host, -, hread⟩ := bind_eq_ok.mp hread
      split at hread
      · split at hread
        · cases hread
        · obtain ⟨⟨port, behind⟩, -, hread⟩ := bind_eq_ok.mp hread
          exact ⟨host, _, (Prod.mk.inj (Except.ok.inj hread)).1.symm⟩
      · exact ⟨host, u.port, (Prod.mk.inj (Except.ok.inj hread)).1.symm⟩

/-- A property that every setting of a part keeps. -/
structure Kept (P : Url → Prop) : Prop where
  segments : ∀ {u : Url} (names : List String), P u → P { u with path := .segments names }
  site : ∀ {u : Url} (host : Host) (port : Option Nat), P u →
    P { u with host := some host, port := port }
  credentials : ∀ {u : Url} (cs : List Char), P u → P (readCredentials u cs)
  query : ∀ {u : Url} (cs : List Char), P u → P (u.withQuery cs)
  fragment : ∀ {u : Url} (cs : List Char), P u → P (u.withFragment cs)

/-- A file URL before anything is read of it. -/
def bareFile : Url :=
  { scheme := "file", host := some (.opaqueName ""), path := .segments [] }

section

variable {P : Url → Prop} (hP : Kept P) {u : Url}

include hP

namespace Kept

theorem readTail (cs : List Char) (hu : P u) : P (Url.readTail u cs) := by
  unfold Url.readTail
  split
  · rename_i rest
    have hquery := hP.query (rest.takeWhile (· != '#')) hu
    simp only
    split
    · exact hP.fragment _ hquery
    · exact hquery
  · exact hP.fragment _ hu
  · exact hu

theorem readPath (names : List String) (cs : List Char) (hu : P u) :
    P (Url.readPath u names cs) :=
  hP.readTail _ (hP.segments _ hu)

theorem readRootedPath (cs : List Char) (hu : P u) : P (Url.readRootedPath u cs) := by
  unfold Url.readRootedPath
  simp only
  split
  · split
    · exact hP.readPath _ _ hu
    · exact hu
  · split
    · exact hP.readPath _ _ hu
    · split
      · exact hP.readTail _ hu
      · exact hP.readPath _ _ hu

theorem trimFilePath (hu : P u) : P (Url.trimFilePath u) := by
  unfold Url.trimFilePath
  split
  · split <;> exact hP.segments _ hu
  · exact hu

theorem readHost {cs more : List Char} {site : Url}
    (hread : Url.readHost u cs = .ok (site, more)) (hu : P u) : P site := by
  obtain ⟨host, port, rfl⟩ := readHost_sets hread
  exact hP.site host port hu

theorem readAuthority {scheme : String} {cs : List Char}
    (hread : Url.readAuthority scheme cs = .ok u)
    (hbare : P { scheme, path := .segments [] }) : P u := by
  have hthen : ∀ {start : Url} {host rest : List Char}, P start →
      (do
        let found ← Url.readHost start host
        if !found.1.credentials.isEmpty && (found.1.host.all Host.isEmpty) then
          .error .emptyHost
        .ok (Url.readRootedPath found.1 (found.2 ++ rest))) = Except.ok u → P u := by
    intro start host rest hstart hread
    obtain ⟨found, hsite, hread⟩ := bind_eq_ok.mp hread
    split at hread
    · cases hread
    · rw [← Except.ok.inj hread]
      exact hP.readRootedPath _ (hP.readHost hsite hstart)
  rw [Url.readAuthority] at hread
  simp only at hread
  split at hread
  · exact hthen hbare hread
  · split at hread
    · cases hread
    · exact hthen hbare hread
  · exact hthen (hP.credentials _ hbare) hread

theorem readFileHost {cs : List Char} (hread : Url.readFileHost cs = .ok u)
    (hbare : P bareFile) : P u := by
  rw [Url.readFileHost] at hread
  simp only at hread
  split at hread
  · rw [← Except.ok.inj hread]
    exact hP.readPath _ _ hbare
  · obtain ⟨host, -, hread⟩ := bind_eq_ok.mp hread
    have hrooted : ∀ cs, P (Url.readRootedPath { bareFile with host := some host } cs) :=
      fun cs => hP.readRootedPath cs (hP.site host none hbare)
    split at hread
    · rw [← Except.ok.inj hread]
      exact hP.readPath _ _ hbare
    · split at hread
      · split at hread
        · rw [← Except.ok.inj hread]
          exact hP.site _ _ (hrooted _)
        · rw [← Except.ok.inj hread]
          exact hrooted _
      · rw [← Except.ok.inj hread]
        exact hrooted _

theorem readFile {cs : List Char} (hread : Url.readFile cs = .ok u) (hbare : P bareFile) :
    ∃ v, P v ∧ u = Url.trimFilePath v := by
  have hpath : ∀ cs, P (Url.readPath bareFile [] cs) := fun cs => hP.readPath _ cs hbare
  rw [Url.readFile.eq_def] at hread
  simp only at hread
  split at hread
  · split at hread
    · obtain ⟨v, hhost, hread⟩ := bind_eq_ok.mp hread
      exact ⟨v, hP.readFileHost hhost hbare, (Except.ok.inj hread).symm⟩
    · split at hread
      · exact ⟨_, hpath _, (Except.ok.inj hread).symm⟩
      · exact ⟨_, hpath _, (Except.ok.inj hread).symm⟩
  · split at hread
    · exact ⟨_, hpath _, (Except.ok.inj hread).symm⟩
    · exact ⟨_, hpath _, (Except.ok.inj hread).symm⟩
  · exact ⟨_, hpath _, (Except.ok.inj hread).symm⟩

theorem readBehindScheme {scheme : String} {cs : List Char}
    (hread : Url.readBehindScheme scheme cs = .ok u)
    (hbare : ∀ host path, P { scheme, host, path }) : P u := by
  rw [Url.readBehindScheme] at hread
  split at hread
  · rename_i hfile
    subst hfile
    obtain ⟨v, hv, rfl⟩ := hP.readFile hread (hbare _ _)
    exact hP.trimFilePath hv
  · split at hread
    · exact hP.readAuthority hread (hbare _ _)
    · simp only at hread
      split at hread
      · exact hP.readAuthority hread (hbare _ _)
      · rw [← Except.ok.inj hread]
        exact hP.readPath _ _ (hbare _ _)
      · rw [← Except.ok.inj hread]
        exact hP.readTail _ (hbare _ _)

/-- What is kept, and holds of every bare scheme, holds of every URL that is read. -/
theorem parse {s : String} (hread : Url.parse s = .ok u)
    (hbare : ∀ scheme host path, P { scheme, host, path }) : P u := by
  rw [Url.parse] at hread
  split at hread
  · exact hP.readBehindScheme hread (hbare _)
  · cases hread

end Kept

end

/-- The scheme is set once. -/
theorem kept_scheme (scheme : String) : Kept fun u => u.scheme = scheme where
  segments _ hu := hu
  site _ _ hu := hu
  credentials _ hu := hu
  query _ hu := hu
  fragment _ hu := hu

theorem scheme_readRootedPath (u : Url) (cs : List Char) :
    (readRootedPath u cs).scheme = u.scheme :=
  (kept_scheme u.scheme).readRootedPath cs rfl

theorem scheme_readAuthority {scheme : String} {cs : List Char} {u : Url}
    (hread : readAuthority scheme cs = .ok u) : u.scheme = scheme :=
  (kept_scheme scheme).readAuthority hread rfl

theorem scheme_readBehindScheme {scheme : String} {cs : List Char} {u : Url}
    (hread : readBehindScheme scheme cs = .ok u) : u.scheme = scheme :=
  (kept_scheme scheme).readBehindScheme hread fun _ _ => rfl

end Url

end CapabilityMesh
