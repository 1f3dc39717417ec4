import BuildWorker.Job.Basic
import BuildWorker.Json.Reader

/-!
# Jobs as JSON

A job travels as a JSON object whose keys are the field names.  Writing one puts the
fields in declaration order and leaves out absent options and empty upload lists, so
that what is written reads back as the same job.

Reading accepts a job in two forms: an object, whose unknown keys are ignored and whose
missing fields take their defaults (all but `job_id` and `job_name`); or a list of the
fields' values in declaration order, whose missing tail takes defaults.  A phase's
commands are a string or a list of strings and nothing else.

Reading comes in two kinds.  From text, every error has a line and column
(`Job.readText`).  From a value already parsed, errors have none, and an object's keys
are met in sorted order (`Job.ofValue`), which decides which error comes first.
-/

set_option autoImplicit false

namespace BuildWorker

open Json

/-! ## Writing -/

/-- A phase's commands as a value. -/
def PhaseCommands.toValue : PhaseCommands → Value
  | .single c => .string c
  | .many cs => .array (cs.map Value.string)

/-- The field names of instructions, in declaration order. -/
def instructionFieldNames : List String :=
  Phase.all.map Phase.name ++ ["upload_labels", "build_targets"]

/-- Instructions as a value: absent phases and empty lists left out. -/
def Instructions.toValue (i : Instructions) : Value :=
  let phases := Phase.all.filterMap fun p => (i.get p).map fun c => (p.name, c.toValue)
  let labels := if i.uploadLabels.isEmpty then [] else
    [("upload_labels", Value.array (i.uploadLabels.map Value.string))]
  let targets := if i.buildTargets.isEmpty then [] else
    [("build_targets", Value.array (i.buildTargets.map Value.string))]
  .object (phases ++ labels ++ targets)

/-- An optional string field, left out when absent. -/
def optionalString (key : String) : Option String → List (String × Value)
  | some s => [(key, .string s)]
  | none => []

/-- A job as a value, fields in declaration order. -/
def Job.toValue (j : Job) : Value :=
  .object <|
    [("job_id", .string j.id), ("job_name", .string j.name),
     ("build_no", .number (.unsigned j.buildNo.toNat)),
     ("sub_build_no", .number (.unsigned j.subBuildNo.toNat)),
     ("platform", .string j.platform), ("engine", .string j.engine),
     ("owner", .string j.owner), ("package", .string j.package), ("env", .string j.env),
     ("instructions", j.instructions.toValue)] ++
    (match j.ioTimeout with
     | some t => [("iotimeout", .number (.unsigned t.toNat))]
     | none => []) ++
    [("upload_token", .string j.uploadToken)] ++
    optionalString "git_oauth_token" j.gitToken ++
    optionalString "git_url" j.gitUrl ++
    optionalString "git_branch" j.gitBranch ++
    optionalString "image" j.image

/-- A job as compact JSON text. -/
def Job.toText (j : Job) : String := j.toValue.render

/-! ## Reading text -/

/-- The message for phase commands of any other shape. -/
def phaseShapeMessage : String :=
  "data did not match any variant of untagged enum PhaseCommand"

/-- Phase commands from a value of any shape. -/
def PhaseCommands.ofAny : Value → Option PhaseCommands
  | .string s => some (.single s)
  | .array items =>
      (items.mapM fun (v : Value) => match v with
        | .string s => some s
        | _ => none).map PhaseCommands.many
  | _ => none

/-- Reads phase commands: any value is read, then its shape is checked. -/
def readPhaseCommands : Reader PhaseCommands := do
  match PhaseCommands.ofAny (← readAny) with
  | some c => pure c
  | none => throw (.unplaced phaseShapeMessage)

/-- Sets the commands of a phase. -/
def Instructions.set (i : Instructions) (p : Phase) (c : Option PhaseCommands) : Instructions :=
  match p with
  | .install => { i with install := c }
  | .test => { i with test := c }
  | .beforeScript => { i with beforeScript := c }
  | .script => { i with script := c }
  | .afterSuccess => { i with afterSuccess := c }
  | .afterFailure => { i with afterFailure := c }
  | .afterError => { i with afterError := c }
  | .afterScript => { i with afterScript := c }

/-- The fields of instructions, for the text reader. -/
def instructionFields : List (FieldRule Instructions) :=
  Phase.all.map (fun p =>
    ⟨p.name, false, fun i => do pure (i.set p (← readOptional readPhaseCommands))⟩) ++
  [⟨"upload_labels", false, fun i => do pure { i with uploadLabels := ← readList readString }⟩,
   ⟨"build_targets", false, fun i => do pure { i with buildTargets := ← readList readString }⟩]

/-- Reads instructions. -/
def readInstructions : Reader Instructions :=
  readRecord "Instructions" instructionFields {}

/-- A job being read: the two fields without defaults may still be missing. -/
structure JobDraft where
  id : Option String := none
  name : Option String := none
  rest : Job := ⟨"", "", 0, 0, "", "", "", "", "", {}, none, "", none, none, none, none⟩

/-- The draft as a job, once both required fields are there. -/
def JobDraft.finish (d : JobDraft) : Job :=
  { d.rest with id := d.id.getD "", name := d.name.getD "" }

/-- Updates the job part of a draft. -/
def JobDraft.modify (d : JobDraft) (f : Job → Job) : JobDraft :=
  { d with rest := f d.rest }

/-- Reads a 32-bit unsigned number. -/
def readU32 : Reader UInt32 := do
  pure (← readUnsigned (Nat.pow 2 32 - 1) "u32").toUInt32

/-- Reads a 64-bit unsigned number. -/
def readU64 : Reader UInt64 := do
  pure (← readUnsigned (Nat.pow 2 64 - 1) "u64").toUInt64

/-- A job field holding a string with a default. -/
def stringField (key : String) (f : Job → String → Job) : FieldRule JobDraft :=
  ⟨key, false, fun d => do let s ← readString; pure (d.modify (f · s))⟩

/-- A job field holding an optional string. -/
def optionField (key : String) (f : Job → Option String → Job) : FieldRule JobDraft :=
  ⟨key, false, fun d => do let s ← readOptional readString; pure (d.modify (f · s))⟩

/-- The fields of a job, for the text reader, in declaration order. -/
def jobFields : List (FieldRule JobDraft) :=
  [⟨"job_id", true, fun d => do pure { d with id := some (← readString) }⟩,
   ⟨"job_name", true, fun d => do pure { d with name := some (← readString) }⟩,
   ⟨"build_no", false, fun d => do let n ← readU32; pure (d.modify ({ · with buildNo := n }))⟩,
   ⟨"sub_build_no", false, fun d => do
      let n ← readU32; pure (d.modify ({ · with subBuildNo := n }))⟩,
   stringField "platform" ({ · with platform := · }),
   stringField "engine" ({ · with engine := · }),
   stringField "owner" ({ · with owner := · }),
   stringField "package" ({ · with package := · }),
   stringField "env" ({ · with env := · }),
   ⟨"instructions", false, fun d => do
      let i ← readInstructions; pure (d.modify ({ · with instructions := i }))⟩,
   ⟨"iotimeout", false, fun d => do
      let t ← readOptional readU64; pure (d.modify ({ · with ioTimeout := t }))⟩,
   stringField "upload_token" ({ · with uploadToken := · }),
   optionField "git_oauth_token" ({ · with gitToken := · }),
   optionField "git_url" ({ · with gitUrl := · }),
   optionField "git_branch" ({ · with gitBranch := · }),
   optionField "image" ({ · with image := · })]

/-- Reads a job. -/
def readJob : Reader Job :=
  JobDraft.finish <$> readRecord "Job" jobFields {}

/-- A job from JSON text, or the first error with its place. -/
def Job.readText (text : String) : Except ReadError Job :=
  readJob.runText text

/-! ## Reading a parsed value -/

/-- A value as a string. -/
def Json.Value.asString (expected : String) : Value → Except String String
  | .string s => .ok s
  | v => .error (invalidType v.describe expected).message

/-- A value as an unsigned number at most `limit`. -/
def Json.Value.asUnsigned (limit : Nat) (name : String) : Value → Except String Nat
  | .number (.unsigned n) =>
      if n ≤ limit then .ok n else .error (invalidValue (Number.unsigned n).describe name).message
  | .number (.signed n) => .error (invalidValue (Number.signed n).describe name).message
  | v => .error (invalidType v.describe name).message

/-- A value as an option: `null` is nothing. -/
def Json.Value.asOptional {α : Type} (inner : Value → Except String α) : Value → Except String (Option α)
  | .null => .ok none
  | v => some <$> inner v

/-- A value as a list of strings. -/
def Json.Value.asStringList : Value → Except String (List String)
  | .array items => items.mapM (Value.asString "a string")
  | v => .error (invalidType v.describe "a sequence").message

/-- A value as phase commands. -/
def Json.Value.asPhaseCommands (v : Value) : Except String PhaseCommands :=
  match PhaseCommands.ofAny v with
  | some c => .ok c
  | none => .error phaseShapeMessage

/-- A field of a record read from a value: name, whether required, and how the value
updates the draft. -/
structure ValueField (δ : Type) where
  name : String
  required : Bool
  read : δ → Value → Except String δ

/-- Keys in the order a parsed object presents them: sorted, the last entry kept for a
repeated key. -/
def sortedEntries (entries : List (String × Value)) : List (String × Value) :=
  let keys := (entries.map (·.1)).eraseDups
  let sorted := keys.mergeSort (fun a b => decide (a ≤ b))
  sorted.filterMap fun k => (lookup entries k).map (k, ·)

/-- Reads a record from a parsed value: an object (sorted keys, unknown ones ignored)
or a list of the fields in order (no more values than fields). -/
def Json.Value.asRecord {δ : Type} (name : String) (fields : List (ValueField δ)) (empty : δ) :
    Value → Except String δ
  | .object entries => do
      let step := fun (acc : δ × List String) (entry : String × Value) => do
        match fields.find? (·.name == entry.1) with
        | some f => pure (← f.read acc.1 entry.2, entry.1 :: acc.2)
        | none => pure acc
      let (draft, seen) ← (sortedEntries entries).foldlM step (empty, [])
      match fields.find? (fun f => f.required && !seen.contains f.name) with
      | some f => .error ("missing field `" ++ f.name ++ "`")
      | none => pure draft
  | .array items => do
      let expecting := "struct " ++ name ++ " with " ++ toString fields.length ++ " elements"
      let rec go : List (ValueField δ) → List Value → Nat → δ → Except String δ
        | [], [], _, d => .ok d
        | [], _ :: _, _, _ => .error ("invalid length " ++ toString items.length ++
            ", expected fewer elements in array")
        | f :: rest, v :: vs, i, d => do go rest vs (i + 1) (← f.read d v)
        | f :: rest, [], i, d =>
            if f.required then .error (invalidLength i expecting).message
            else go rest [] (i + 1) d
      go fields items 0 empty
  | v => .error (invalidType v.describe ("struct " ++ name)).message

/-- The fields of instructions, for parsed values. -/
def instructionValueFields : List (ValueField Instructions) :=
  Phase.all.map (fun p =>
    ⟨p.name, false, fun i v => do pure (i.set p (← v.asOptional Value.asPhaseCommands))⟩) ++
  [⟨"upload_labels", false, fun i v => do pure { i with uploadLabels := ← v.asStringList }⟩,
   ⟨"build_targets", false, fun i v => do pure { i with buildTargets := ← v.asStringList }⟩]

/-- A job field from a parsed value. -/
def jobValueField (key : String) (f : JobDraft → Value → Except String JobDraft) :
    ValueField JobDraft :=
  ⟨key, key == "job_id" || key == "job_name", f⟩

/-- The fields of a job, for parsed values, in declaration order. -/
def jobValueFields : List (ValueField JobDraft) :=
  let str := fun (key : String) (f : Job → String → Job) =>
    jobValueField key fun d v => do let s ← v.asString "a string"; pure (d.modify (f · s))
  let opt := fun (key : String) (f : Job → Option String → Job) =>
    jobValueField key fun d v => do
      let s ← v.asOptional (Value.asString "a string"); pure (d.modify (f · s))
  [jobValueField "job_id" fun d v => do pure { d with id := some (← v.asString "a string") },
   jobValueField "job_name" fun d v => do pure { d with name := some (← v.asString "a string") },
   jobValueField "build_no" fun d v => do
      let n ← v.asUnsigned (Nat.pow 2 32 - 1) "u32"; pure (d.modify ({ · with buildNo := n.toUInt32 })),
   jobValueField "sub_build_no" fun d v => do
      let n ← v.asUnsigned (Nat.pow 2 32 - 1) "u32"
      pure (d.modify ({ · with subBuildNo := n.toUInt32 })),
   str "platform" ({ · with platform := · }),
   str "engine" ({ · with engine := · }),
   str "owner" ({ · with owner := · }),
   str "package" ({ · with package := · }),
   str "env" ({ · with env := · }),
   jobValueField "instructions" fun d v => do
      let i ← v.asRecord "Instructions" instructionValueFields {}
      pure (d.modify ({ · with instructions := i })),
   jobValueField "iotimeout" fun d v => do
      let t ← v.asOptional (Value.asUnsigned (Nat.pow 2 64 - 1) "u64")
      pure (d.modify ({ · with ioTimeout := t.map Nat.toUInt64 })),
   str "upload_token" ({ · with uploadToken := · }),
   opt "git_oauth_token" ({ · with gitToken := · }),
   opt "git_url" ({ · with gitUrl := · }),
   opt "git_branch" ({ · with gitBranch := · }),
   opt "image" ({ · with image := · })]

/-- A job from a parsed value, or the first error (without a place). -/
def Job.ofValue (v : Value) : Except String Job :=
  JobDraft.finish <$> v.asRecord "Job" jobValueFields {}

end BuildWorker
