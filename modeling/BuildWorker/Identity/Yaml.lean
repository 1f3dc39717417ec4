import BuildWorker.Identity.Basic
import BuildWorker.Yaml.Decode
import BuildWorker.Yaml.Emit
/-!
# Identities as YAML

An identity file is a YAML mapping of the identity's fields in declaration order.  The
process id is left out when there is none; the worker's own process id is written
`self`, the way this library writes it everywhere.

Reading asks for all six text fields; the process id and the running flag may be left
out.  Unknown keys are ignored.  Any problem makes the file unreadable as an identity,
and the caller decides what that means.
-/

set_option autoImplicit false

namespace BuildWorker

open Yaml

/-- An identity as YAML text. -/
def Identity.toYamlText (i : Identity) : String :=
  mappingText <|
    [stringEntry "worker_id" i.workerId, stringEntry "username" i.username,
     stringEntry "queue" i.queue, stringEntry "platform" i.platform,
     stringEntry "hostname" i.hostname, stringEntry "dist" i.dist] ++
    (match i.pid with
     | some pid => [plainEntry "pid" pid.render]
     | none => []) ++
    [plainEntry "running" (if i.running then "true" else "false")]

/-- An identity being read: the text fields seen so far. -/
structure IdentityDraft where
  workerId : Option String := none
  username : Option String := none
  queue : Option String := none
  platform : Option String := none
  hostname : Option String := none
  dist : Option String := none
  pid : Option ProcessId := none
  running : Bool := false

/-- Reads a process id: `self` for the worker's own, or a 32-bit number. -/
def readProcessId : Nat → Path → DecodeM ProcessId
  | 0, _ => throw .repetitionLimit
  | fuel + 1, path => do
      let (e, mark) ← takeEvent
      placing mark path do
        match e with
        | .scalar text .plain tag =>
            if text == ProcessId.current.render then pure .current
            else match readUnsigned text (Nat.pow 2 32 - 1) with
              | some n => pure (.other n)
              | none => throw (mismatch (.scalar text .plain tag) "u32")
        | .alias anchor => throughAlias anchor (readProcessId fuel (.alias path))
        | other => throw (mismatch other "u32")

/-- A required text field of an identity. -/
def identityText (name : String) (store : IdentityDraft → String → IdentityDraft) :
    FieldRule IdentityDraft :=
  ⟨name, fun fuel path d => store d <$> readText "a string" fuel path⟩

/-- The fields of an identity file. -/
def identityFields : List (FieldRule IdentityDraft) :=
  [identityText "worker_id" fun d v => { d with workerId := some v },
   identityText "username" fun d v => { d with username := some v },
   identityText "queue" fun d v => { d with queue := some v },
   identityText "platform" fun d v => { d with platform := some v },
   identityText "hostname" fun d v => { d with hostname := some v },
   identityText "dist" fun d v => { d with dist := some v },
   ⟨"pid", fun fuel path d => (fun v => { d with pid := v }) <$>
      readOptional readProcessId fuel path⟩,
   ⟨"running", fun fuel path d => (fun v => { d with running := v }) <$> readBool fuel path⟩]

/-- The identity a complete draft describes. -/
def IdentityDraft.finish (d : IdentityDraft) : Option Identity := do
  pure { workerId := ← d.workerId, username := ← d.username, queue := ← d.queue,
         platform := ← d.platform, hostname := ← d.hostname, dist := ← d.dist,
         pid := d.pid, running := d.running }

/-- Reads an identity from YAML text. -/
def Identity.ofYamlText (text : String) : Option Identity :=
  match readDocumentText text (readRecord "WorkerIdentity" identityFields {}) with
  | .ok d => d.finish
  | .error _ => none

end BuildWorker
