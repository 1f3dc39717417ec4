import BuildWorker.Config.Settings
import BuildWorker.Yaml.Decode
import BuildWorker.Error
/-!
# Reading settings

A settings file is YAML: a mapping with the groups `api`, `worker`, `docker` and `su`,
each a mapping of its settings.  Keys the worker does not know are ignored, and what
the file leaves out keeps its default.  After reading, the directory settings have a
leading `~` expanded.

Loading settings finds the file through `BUILDQ_CONFIG`, or at the default place under
the home directory; a file that does not exist gives the defaults.  Three variables then
override the file: `BUILDQ_API_URL`, `BUILDQ_TOKEN` and `BUILDQ_STATE_DIR`.  A variable
that is set counts even when empty.
-/

set_option autoImplicit false

namespace BuildWorker

open Yaml

/-- Reads a string setting. -/
def textSetting {δ : Type} (name : String) (store : δ → String → δ) : FieldRule δ :=
  ⟨name, fun fuel path d => store d <$> readText "a string" fuel path⟩

/-- Reads a path setting. -/
def pathSetting {δ : Type} (name : String) (store : δ → String → δ) : FieldRule δ :=
  ⟨name, fun fuel path d => store d <$> readText "path string" fuel path⟩

/-- Reads an optional string setting. -/
def optionalTextSetting {δ : Type} (name : String) (store : δ → Option String → δ) : FieldRule δ :=
  ⟨name, fun fuel path d => store d <$> readOptional (readText "a string") fuel path⟩

/-- Reads a count setting (64 bits). -/
def countSetting {δ : Type} (name : String) (store : δ → Nat → δ) : FieldRule δ :=
  ⟨name, fun fuel path d => store d <$> readNat "u64" u64Max fuel path⟩

/-- Reads a yes-or-no setting. -/
def flagSetting {δ : Type} (name : String) (store : δ → Bool → δ) : FieldRule δ :=
  ⟨name, fun fuel path d => store d <$> readBool fuel path⟩

/-- The server settings' fields. -/
def serverFields : List (FieldRule ServerSettings) :=
  [textSetting "url" fun s v => { s with url := v },
   optionalTextSetting "token" fun s v => { s with token := v },
   countSetting "timeout" fun s v => { s with timeout := v }]

/-- The job-loop settings' fields. -/
def loopFields : List (FieldRule LoopSettings) :=
  [pathSetting "state_dir" fun s v => { s with stateDir := v },
   pathSetting "build_dir" fun s v => { s with buildDir := v },
   countSetting "poll_interval" fun s v => { s with pollInterval := v },
   countSetting "timeout" fun s v => { s with timeout := v },
   countSetting "iotimeout" fun s v => { s with iotimeout := v },
   countSetting "log_flush_interval" fun s v => { s with logFlushInterval := v },
   optionalTextSetting "upload_command" fun s v => { s with uploadCommand := v }]

/-- The container settings' fields. -/
def containerFields : List (FieldRule ContainerSettings) :=
  [textSetting "image" fun s v => { s with image := v },
   flagSetting "allow_user_images" fun s v => { s with allowUserImages := v }]

/-- The dropped-privilege settings' fields. -/
def userFields : List (FieldRule UserSettings) :=
  [textSetting "build_user" fun s v => { s with buildUser := v },
   pathSetting "skeleton_dir" fun s v => { s with skeletonDir := v },
   pathSetting "install_prefix" fun s v => { s with installPrefix := v }]

/-- The groups of a settings file. -/
def settingsFields (home : String) : List (FieldRule Settings) :=
  [⟨"api", fun fuel path s =>
      (fun v => { s with server := v }) <$> readRecord "ApiConfig" serverFields {} fuel path⟩,
   ⟨"worker", fun fuel path s =>
      (fun v => { s with loop := v }) <$>
        readRecord "WorkerConfig" loopFields (LoopSettings.defaults home) fuel path⟩,
   ⟨"docker", fun fuel path s =>
      (fun v => { s with container := v }) <$>
        readRecord "DockerConfig" containerFields {} fuel path⟩,
   ⟨"su", fun fuel path s =>
      (fun v => { s with user := v }) <$> readRecord "SuConfig" userFields {} fuel path⟩]

/-- Reads settings from the text of a file at `path`, expanding `~` in directories. -/
def Settings.readText (home path text : String) : Except ConfigError Settings :=
  match readDocumentText text (readRecord "Config" (settingsFields home) (Settings.defaults home)) with
  | .ok s => .ok (s.expandPaths home)
  | .error e => .error (.parse path e.render)

/-- Reads settings from the file at `path`. -/
def Settings.ofFound (home path : String) (found : Found) : Except ConfigError Settings :=
  match found with
  | .directory => .error (.read path .isDirectory)
  | .absent => .error (.read path .notFound)
  | .file bytes =>
      match textOfBytes? bytes with
      | some text => Settings.readText home path text
      | none => .error (.read path .invalidUtf8)

/-- What loading settings sees: the home directory, the environment, and the files. -/
structure LoadContext where
  home : String
  env : List (String × String)
  find : String → Found

/-- A variable of the environment. -/
def LoadContext.var? (c : LoadContext) (name : String) : Option String :=
  (c.env.find? (·.1 == name)).map (·.2)

/-- The default settings file. -/
def defaultSettingsPath (home : String) : String :=
  joinPath (joinPath (joinPath home ".config") "buildq") "config.yaml"

/-- Applies the environment's overrides. -/
def Settings.applyEnv (c : LoadContext) (s : Settings) : Settings :=
  let s := match c.var? "BUILDQ_API_URL" with
    | some url => { s with server := { s.server with url := url } }
    | none => s
  let s := match c.var? "BUILDQ_TOKEN" with
    | some token => { s with server := { s.server with token := some token } }
    | none => s
  match c.var? "BUILDQ_STATE_DIR" with
  | some dir => { s with loop := { s.loop with stateDir := expandHome c.home dir } }
  | none => s

/-- Loads settings: the file named by `BUILDQ_CONFIG` or the default one if it exists,
else the defaults; then the environment's overrides. -/
def Settings.load (c : LoadContext) : Except ConfigError Settings := do
  let path := match c.var? "BUILDQ_CONFIG" with
    | some p => expandHome c.home p
    | none => defaultSettingsPath c.home
  let found := c.find path
  let s ← if found == .absent then pure (Settings.defaults c.home)
    else Settings.ofFound c.home path found
  pure (s.applyEnv c)

end BuildWorker
