import BuildWorker.Shell.Tool.Call
import BuildWorker.Files.Tar
import BuildWorker.Files.Inflate
/-!
# Archives

`tar` extracts (`x`) or lists (`t`) an archive file (`f`), into a directory (`-C`).  The
first word may carry the letters without a dash (`tar xzf a.tgz`).  An archive that
starts as gzip data is inflated first, whether `z` was given or not; with `z` an
archive that is not gzip data is an error, reported by the inflater and then by `tar`.

Every failure ends with status 2 and the line saying that `tar` cannot go on.
-/

namespace BuildWorker.Shell

open Text

/-- What `tar` was asked: its letters, the archive, the directory, and the operands. -/
structure TarRequest where
  letters : List Char := []
  archive : Option String := none
  directory : Option String := none
  operands : List String := []
  deriving Repr, Inhabited

/-- Reads the arguments of `tar`. -/
def readTarArgs : Nat → List String → Bool → TarRequest → TarRequest
  | 0, _, _, q => q
  | _ + 1, [], _, q => q
  | fuel + 1, a :: rest, first, q =>
      if a == "-C" || a == "--directory" then
        match rest with
        | d :: more => readTarArgs fuel more false { q with directory := some d }
        | [] => q
      else if a.startsWith "--directory=" then
        readTarArgs fuel rest false { q with directory := some (String.ofList (a.toList.drop 12)) }
      else if a.startsWith "--file=" then
        readTarArgs fuel rest false { q with letters := q.letters ++ ['f'], archive := some (String.ofList (a.toList.drop 7)) }
      else if a == "--extract" || a == "--get" then readTarArgs fuel rest false { q with letters := q.letters ++ ['x'] }
      else if a == "--list" then readTarArgs fuel rest false { q with letters := q.letters ++ ['t'] }
      else if a == "--gzip" || a == "--gunzip" then readTarArgs fuel rest false { q with letters := q.letters ++ ['z'] }
      else if a == "--verbose" then readTarArgs fuel rest false { q with letters := q.letters ++ ['v'] }
      else if a == "--file" then
        match rest with
        | f :: more => readTarArgs fuel more false { q with letters := q.letters ++ ['f'], archive := some f }
        | [] => q
      else if (a.startsWith "-" && !a.startsWith "--") || first then
        let letters := if a.startsWith "-" then a.toList.drop 1 else a.toList
        -- a letter that takes a value takes the next word
        if letters.contains 'f' || letters.contains 'C' then
          match rest with
          | v :: more =>
              let q := { q with letters := q.letters ++ letters }
              let q := if letters.contains 'f' then { q with archive := some v } else { q with directory := some v }
              readTarArgs fuel more false q
          | [] => { q with letters := q.letters ++ letters }
        else readTarArgs fuel rest false { q with letters := q.letters ++ letters }
      else readTarArgs fuel rest false { q with operands := q.operands ++ [a] }

/-- `tar`. -/
def tarTool (c : ToolCall) : ToolResult :=
  let q := readTarArgs (c.args.length + 1) c.args true {}
  let fail (lines : List String) : ToolResult :=
    c.failLines lines 2
  let fatal := "tar: Error is not recoverable: exiting now"
  match q.archive with
  | none => fail ["tar: Refusing to read archive contents from terminal (missing -f option?)", fatal]
  | some name =>
      match c.files.read (c.path name) 0 with
      | .error e => fail ["tar: " ++ name ++ ": Cannot open: " ++ e.plainMessage, fatal]
      | .ok raw =>
          let inflated : Except InflateError (List UInt8) :=
            if isGzip raw || q.letters.contains 'z' then gunzip raw else .ok raw
          match inflated with
          | .error e => fail ["gzip: stdin: " ++ e.message, "tar: Child returned status 1", fatal]
          | .ok bytes =>
              match readTar bytes with
              | .error .notAnArchive =>
                  fail ["tar: This does not look like a tar archive",
                    "tar: Exiting with failure status due to previous errors"]
              | .error _ => fail ["tar: Unexpected EOF in archive", fatal]
              | .ok entries =>
                  let base := match q.directory with
                    | some d => c.path d
                    | none => c.cwd
                  let names := String.join (entries.map (·.name ++ "\n"))
                  if q.letters.contains 't' then c.done (encode names)
                  else if !(c.files.isDir base) then
                    fail ["tar: " ++ q.directory.getD "." ++ ": Cannot open: No such file or directory", fatal]
                  else
                    let files := entries.foldl (fun t e =>
                      let p := resolvePath base e.name
                      match e.kind with
                      | .directory => (t.makeDir p true).toOption.getD t
                      | .file =>
                          let t := (t.makeDir p.dropLast true).toOption.getD t
                          (t.write p e.data false).toOption.getD t
                      | .other => t) c.files
                    { c.done (if q.letters.contains 'v' then encode names else []) with files }

end BuildWorker.Shell
