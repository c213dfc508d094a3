import CodexBridge.Js.Stringify
import CodexBridge.Js.Utf8

/-!
# The credential file: `readJsonFile` and `writeJsonFile`

The file system is the content of each path (`Fs`); directories are not modelled. Each
operation the writeback awaits is given its outcome by the environment (`StoreEnv`). So every
failure is possible at every step: `mkdir` failing, `writeFile` failing before it creates the
temporary file or after writing part of it, and `rename` failing. A `rename` that succeeds
replaces the target at once.

`writeJsonFile` writes `JSON.stringify(data, null, 2)` and a line feed, in UTF-8, to
`path.tmp-<pid>-<random>`, then renames that over `path`. `readJsonFile` decodes the bytes
as UTF-8 and parses them.

**Theorem (`writeJsonFile_target`).** Whatever the outcome, `path` holds either what it held
before or the new text; the second exactly when all three operations succeed.

**Theorem (`readJsonFile_jsonFileBytes`).** The text `writeJsonFile` writes reads back, through
`readJsonFile`, as every value `JSON.stringify` writes as it is.
-/

namespace CodexBridge

/-- The content of each path. -/
def Fs := String → Option Bytes

/-- Write `bytes` to `path`. -/
def Fs.put (fs : Fs) (path : String) (bytes : Bytes) : Fs :=
  fun p => if p = path then some bytes else fs p

/-- Remove `path`. -/
def Fs.remove (fs : Fs) (path : String) : Fs :=
  fun p => if p = path then none else fs p

@[simp] theorem Fs.put_self (fs : Fs) (path : String) (bytes : Bytes) :
    fs.put path bytes path = some bytes := if_pos rfl

@[simp] theorem Fs.put_other (fs : Fs) {path p : String} (h : p ≠ path) (bytes : Bytes) :
    fs.put path bytes p = fs p := if_neg h

@[simp] theorem Fs.remove_other (fs : Fs) {path p : String} (h : p ≠ path) :
    fs.remove path p = fs p := if_neg h

/-- How `writeFile` ends: done, or failed with the runtime's message, having created the file
with the first `kept` bytes or not created it (`none`). -/
inductive WriteResult
  | written
  | failed (kept : Option Nat) (message : String)
  deriving DecidableEq

/-- What the environment decides for the writeback: the process id and random suffix of the
temporary name, and the outcome of each operation (`some message` for a failure). -/
structure StoreEnv where
  pid : Nat
  random : String
  mkdir : Option String := none
  writeFile : WriteResult := .written
  rename : Option String := none

/-- The message the writeback rejects with: that of the first operation that fails. -/
def StoreEnv.failure (env : StoreEnv) : Option String :=
  match env.mkdir, env.writeFile with
  | some message, _ => some message
  | none, .failed _ message => some message
  | none, .written => env.rename

/-- `readJsonFile`: `none` when the file is missing or `JSON.parse` throws. -/
def readJsonFile (fs : Fs) (path : String) : Option JsValue :=
  (fs path).bind fun bytes => jsonParse (String.mk (utf8Decode bytes))

/-- What `readJsonFile` reads is what `JSON.parse` builds. -/
theorem readJsonFile_wf {fs : Fs} {path : String} {v : JsValue} (h : readJsonFile fs path = some v) :
    v.wf JsNumber.parsed := by
  obtain ⟨bytes, -, hv⟩ := Option.bind_eq_some.1 h
  exact jsonParse_wf hv

/-- The temporary file of `writeJsonFile`. -/
def tmpPath (env : StoreEnv) (path : String) : String :=
  path ++ ".tmp-" ++ toString env.pid ++ "-" ++ env.random

/-- The bytes `writeJsonFile` writes: `JSON.stringify(data, null, 2)` and a line feed. -/
def jsonFileBytes (data : JsValue) : Bytes := utf8Encode (stringify data ++ ['\n'])

/-- `writeJsonFile`: the error it rejects with, or nothing, and the file system after it. -/
def writeJsonFile (env : StoreEnv) (path : String) (data : JsValue) (fs : Fs) :
    Except String Unit × Fs :=
  match env.mkdir with
  | some err => (.error err, fs)
  | none =>
    let json := jsonFileBytes data
    match env.writeFile with
    | .failed none err => (.error err, fs)
    | .failed (some n) err => (.error err, fs.put (tmpPath env path) (json.take n))
    | .written =>
      match env.rename with
      | some err => (.error err, fs.put (tmpPath env path) json)
      | none => (.ok (), (fs.put path json).remove (tmpPath env path))

theorem tmpPath_ne (env : StoreEnv) (path : String) : path ≠ tmpPath env path := by
  intro h
  have hlen := congrArg String.length h
  have : ".tmp-".length = 5 := rfl
  simp only [tmpPath, String.length_append] at hlen
  omega

theorem writeJsonFile_fst (env : StoreEnv) (path : String) (data : JsValue) (fs : Fs) :
    (writeJsonFile env path data fs).1 =
      match env.failure with
      | some message => .error message
      | none => .ok () := by
  rcases env with ⟨pid, random, _ | m, _ | ⟨_ | n, m⟩, _ | r⟩ <;> rfl

/-- **Only the rename touches the target.** After `writeJsonFile`, `path` holds the new bytes if
every operation succeeded, and what it held before otherwise. -/
theorem writeJsonFile_target (env : StoreEnv) (path : String) (data : JsValue) (fs : Fs) :
    (writeJsonFile env path data fs).2 path =
      if env.failure = none then some (jsonFileBytes data) else fs path := by
  have hne := tmpPath_ne env path
  rcases env with ⟨pid, random, _ | m, _ | ⟨_ | n, m⟩, _ | r⟩ <;>
    simp_all [writeJsonFile, StoreEnv.failure]

/-- **What else `writeJsonFile` touches.** Only the target and the temporary file change, and a
write that succeeds leaves no temporary file behind. -/
theorem writeJsonFile_frame (env : StoreEnv) (path : String) (data : JsValue) (fs : Fs) :
    (∀ q, q ≠ path → q ≠ tmpPath env path → (writeJsonFile env path data fs).2 q = fs q) ∧
      ((writeJsonFile env path data fs).1 = .ok () →
        (writeJsonFile env path data fs).2 (tmpPath env path) = none) := by
  rcases env with ⟨pid, random, _ | m, _ | ⟨_ | n, m⟩, _ | r⟩ <;>
    simp_all [writeJsonFile, Fs.remove]

/-- **Round trip through the file.** The bytes `writeJsonFile` writes read back as the value, when
`JSON.stringify` writes it as it is. -/
theorem readJsonFile_jsonFileBytes {fs : Fs} {path : String} {data : JsValue}
    (h : fs path = some (jsonFileBytes data)) (hd : data.serializable) :
    readJsonFile fs path = some data := by
  simp [readJsonFile, h, jsonFileBytes, utf8Decode_utf8Encode, jsonParse_stringify hd]

end CodexBridge
