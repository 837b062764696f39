/-
All that settings are loaded from, and the settings that are below the upper layers: those
of a file, or the built-in ones.  A report of faulty settings comes from what the layers make
of them.  A file is read line by line, here one that gives an endpoint.
-/
import CapabilityMesh.Config.Source
import CapabilityMesh.Proofs.Step
import CapabilityMesh.Proofs.Text.Utf8

namespace CapabilityMesh

namespace Toml

variable {path path' key : List String} {root root' : Entries}
variable {cs behind rest after : List Char} {last value : String}

theorem readValue_text {depth : Nat} (hvalue : readString ('"' :: rest) = some (value, after)) :
    readValue (depth + 1) ('"' :: rest) = some (.text value, after) := by
  rw [readValue, hvalue]
  rfl

/-- A line that gives text adds an entry to the table above it. -/
theorem readLine_text (hstart : (skipWs cs).head?.any isBareKeyChar = true)
    (hkey : readKey (skipWs cs) = some (key, '=' :: behind))
    (hquote : skipWs behind = '"' :: rest)
    (hvalue : readString ('"' :: rest) = some (value, after)) (hend : endLine after = some [])
    (hlast : key.getLast? = some last)
    (hroot : root.modify? (Entries.add? last (.text value) key.dropLast true) path =
      some root') :
    readLine path root cs = some (path, root', []) := by
  have hread : readValue depthLimit (skipWs behind) = some (.text value, after) := by
    rw [hquote]
    exact readValue_text hvalue
  have hother {c : Char} (hc : isBareKeyChar c = false) (rest : List Char) :
      skipWs cs ≠ c :: rest := by
    intro h
    rw [h] at hstart
    exact Bool.false_ne_true (hc.symm.trans hstart)
  have hnewline : behindNewline? (skipWs cs) = none := by
    rw [behindNewline?.eq_def]
    split
    · rename_i h
      exact absurd h (hother (by decide) _)
    · rename_i h
      exact absurd h (hother (by decide) _)
    · rfl
  rw [readLine.eq_def]
  split
  · rename_i h
    exact absurd h (hother (by decide) _)
  · rename_i h
    exact absurd h (hother (by decide) _)
  · rename_i h
    rw [h] at hstart
    cases hstart
  · rename_i h
    exact absurd h (hother (by decide) _)
  · simp only [hnewline, hkey, Option.bind_eq_bind, Option.bind_some, hread, hend, hlast, hroot]

theorem readDocument_cons {fuel : Nat} (hcs : cs.isEmpty = false)
    (hline : readLine path root cs = some (path', root', rest)) :
    readDocument (fuel + 1) path root cs = readDocument fuel path' root' rest := by
  rw [readDocument, hcs, hline]
  rfl

end Toml

/-- All that settings are loaded from. -/
structure SettingsOrigin where
  tree : FileTree := {}
  folder : FilePath := []
  given : Option String := none
  env : Environment := fun _ => none
  overrides : Overrides := []

namespace SettingsOrigin

def load (o : SettingsOrigin) : Except ConfigError Settings :=
  (Settings.load o.tree o.folder o.given o.env o.overrides).1

/-- The settings below the upper layers: those of the file that is given or found, or the
built-in ones. -/
def base (o : SettingsOrigin) : Except ConfigError Settings := do
  let file ← match o.given with
    | some path => .ok (some (.named path))
    | none => ConfigFile.find o.tree o.folder o.env
  match file with
  | some file => file.settings o.tree o.folder
  | none => .ok {}

theorem load_eq (o : SettingsOrigin) :
    o.load = o.base.bind fun s => (s.finish o.env o.overrides).1 := by
  have hok (s : Settings) : ((.ok s : Except ConfigError Settings).bind fun s =>
      (s.finish o.env o.overrides).1) = (s.finish o.env o.overrides).1 := rfl
  rw [load, Settings.load.eq_def, base]
  cases o.given with
  | some path =>
      simp only [ok_bind]
      cases ConfigFile.settings o.tree o.folder (.named path) with
      | error e => rfl
      | ok s =>
          rw [hok]
  | none =>
      simp only
      cases ConfigFile.find o.tree o.folder o.env with
      | error e => rfl
      | ok found =>
          simp only [ok_bind]
          cases found with
          | none =>
              rw [hok]
          | some file =>
              simp only
              cases file.settings o.tree o.folder with
              | error e => rfl
              | ok s =>
                  rw [hok]

theorem base_ne_invalid (o : SettingsOrigin) (report : String) :
    o.base ≠ .error (.invalidSettings report) := by
  have hsettings (file : ConfigFile) :
      file.settings o.tree o.folder ≠ .error (.invalidSettings report) := by
    rw [ConfigFile.settings]
    split
    · simp
    · split <;> simp
  have hfind : ConfigFile.find o.tree o.folder o.env ≠ .error (.invalidSettings report) := by
    rw [ConfigFile.find]
    split
    · split <;> simp
    · simp
  rw [base]
  cases o.given with
  | some path => exact hsettings _
  | none =>
      simp only
      cases hfound : ConfigFile.find o.tree o.folder o.env with
      | error e =>
          intro h
          exact hfind (hfound.trans (congrArg Except.error (Except.error.inj h)))
      | ok found =>
          cases found with
          | none => nofun
          | some file => exact hsettings file

/-- A report comes from the settings that the layers made of those below them. -/
theorem load_eq_invalid {o : SettingsOrigin} {report : String}
    (h : o.load = .error (.invalidSettings report)) :
    ∃ s, o.base = .ok s ∧
      (s.applyOverrides o.env o.overrides).1.check = .error (.invalidSettings report) := by
  rw [load_eq] at h
  cases hbase : o.base with
  | error e =>
      rw [hbase] at h
      exact absurd (hbase.trans h) (o.base_ne_invalid report)
  | ok s =>
      refine ⟨s, rfl, ?_⟩
      rw [hbase] at h
      have hfinish : (s.finish o.env o.overrides).1 = .error (.invalidSettings report) := h
      rw [Settings.finish] at hfinish
      generalize s.applyOverrides o.env o.overrides = applied at hfinish ⊢
      obtain ⟨t, log⟩ := applied
      simp only at hfinish ⊢
      cases hcheck : t.check with
      | ok _ =>
          rw [hcheck] at hfinish
          cases hfinish
      | error e =>
          rw [hcheck] at hfinish
          exact congrArg Except.error (Except.error.inj hfinish)

/-- What follows the quote before an endpoint in the file that gives it. -/
def behindQuote (endpoint : String) : List Char :=
  endpoint.toList ++ ['"', '\n']

def endpointFile (endpoint : String) : FileTree where
  files := [([ConfigFile.usualName],
    Text.utf8 ("[agent]\n".toList ++ ("endpoint = \"".toList ++ behindQuote endpoint)))]

def givesAddresses (registry : String) (endpoint : Option String) : Environment := fun name =>
  if name = "MESH_REGISTRY_URL" then some registry
  else if name = "MESH_ENDPOINT" then endpoint
  else none

section Endpoint

variable {endpoint : String}
variable (hvalue : Toml.readString ('"' :: behindQuote endpoint) = some (endpoint, ['\n']))

include hvalue

theorem ofToml?_endpoint :
    Settings.ofToml? (String.ofList
      ("[agent]\n".toList ++ ("endpoint = \"".toList ++ behindQuote endpoint))) =
        some { agent := { endpoint := some endpoint } } := by
  have hhead : Toml.readLine [] []
      ("[agent]\n".toList ++ ("endpoint = \"".toList ++ behindQuote endpoint)) =
        some (["agent"], [("agent", .table .headed [])],
          "endpoint = \"".toList ++ behindQuote endpoint) := rfl
  have hline : Toml.readLine ["agent"] [("agent", .table .headed [])]
      ("endpoint = \"".toList ++ behindQuote endpoint) =
        some (["agent"], [("agent", .table .headed [("endpoint", .text endpoint)])], []) := by
    have hkey : Toml.readKey ("endpoint = \"".toList ++ behindQuote endpoint) =
        some (["endpoint"], '=' :: ' ' :: '"' :: behindQuote endpoint) := rfl
    exact Toml.readLine_text rfl hkey rfl hvalue rfl rfl rfl
  have hparse : Toml.parse (String.ofList
      ("[agent]\n".toList ++ ("endpoint = \"".toList ++ behindQuote endpoint))) =
        some [("agent", .table .headed [("endpoint", .text endpoint)])] := by
    rw [Toml.parse, String.toList_ofList]
    exact (Toml.readDocument_cons rfl hhead).trans (Toml.readDocument_cons rfl hline)
  rw [Settings.ofToml?, hparse]
  rfl

theorem base_endpointFile (registry : String) (replacement : Option String)
    (overrides : Overrides) :
    base { tree := endpointFile endpoint, env := givesAddresses registry replacement,
           overrides } = .ok { agent := { endpoint := some endpoint } } := by
  have htext : (ConfigFile.inFolder []).read (endpointFile endpoint) [] = .ok (String.ofList
      ("[agent]\n".toList ++ ("endpoint = \"".toList ++ behindQuote endpoint))) := by
    rw [ConfigFile.read]
    show (FileNode.file (Text.utf8 _)).text = _
    rw [FileNode.text, Text.ofUtf8?_utf8]
  show (ConfigFile.inFolder []).settings (endpointFile endpoint) [] = _
  rw [ConfigFile.settings, htext]
  simp only
  rw [ofToml?_endpoint hvalue]

end Endpoint

end SettingsOrigin

end CapabilityMesh
