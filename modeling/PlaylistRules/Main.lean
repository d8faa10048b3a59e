/-
This file carries the program out: it looks up the environment, the time and some
random bytes, does the steps of the task on real files, and writes both outputs.
-/

import PlaylistRules.Account
import PlaylistRules.Chance
import PlaylistRules.Program
import Std.Time.DateTime.Timestamp

namespace PlaylistRules

open Storage Calendar

/-! ### Files -/

/-- The fault with the number and the words that the system gives for it. -/
def faultOfCode (code : UInt32) (details : String) : FileFault :=
  match code.toNat with
  | 2 => .notFound
  | 16 => .busy
  | 17 => .alreadyExists
  | 20 => .notADirectory
  | 21 => .isADirectory
  | 36 => .nameTooLong
  | number => .other (details ++ " (os error " ++ number.repr ++ ")")

/-- The fault that an error stands for. -/
def faultOfError : IO.Error → FileFault
  | .noFileOrDirectory _ code details => faultOfCode code details
  | .inappropriateType _ code details => faultOfCode code details
  | .alreadyExists _ code details => faultOfCode code details
  | .permissionDenied _ code details => faultOfCode code details
  | .resourceBusy code details => faultOfCode code details
  | .invalidArgument _ code details => faultOfCode code details
  | .resourceExhausted _ code details => faultOfCode code details
  | .otherError code details => faultOfCode code details
  | error => .other (toString error)

/-- The result of an action, or the fault it ends in. -/
def guarded (action : IO α) : IO (Except FileFault α) :=
  try return .ok (← action) catch error => return .error (faultOfError error)

/-- The result of an action on a path, or the fault it ends in. -/
def guardedAt (path : Path) (action : IO α) : IO (Except FileFault α) :=
  if path.hasZero then return .error .zeroInPath else guarded action

/-- The text of a file. -/
def readText (path : Path) : IO (Except FileFault String) := do
  let content ← guardedAt path do
    let handle ← IO.FS.Handle.mk path.text .read
    handle.readBinToEnd
  return content.bind fun bytes =>
    match String.fromUTF8? bytes with
    | some text => .ok text
    | none => .error .invalidText

/-- Whether what stands at a path can be opened. -/
def canOpen (path : String) : IO Bool := do
  return (← guarded (IO.FS.Handle.mk path .read)).toOption.isSome

/-- Does the steps of a task; `opened` are the files that it opened for writing. -/
def perform (opened : Array IO.FS.Handle) : FileTask α → IO α
  | .done result => return result
  | .read path next => do perform opened (next (← readText path))
  | .isPresent path next => do perform opened (next (← canOpen path.text))
  | .isDirectory path next => do perform opened (next (← canOpen (path.text ++ "/.")))
  | .makeDirectory path next => do
    perform opened (next (← guardedAt path (IO.FS.createDir path.text)))
  | .create path next => do
    match ← guardedAt path (IO.FS.Handle.mk path.text .write) with
    | .ok handle => perform (opened.push handle) (next (.ok opened.size))
    | .error fault => perform opened (next (.error fault))
  | .fill handle text next => do
    match opened[handle]? with
    | some file => do
      perform opened (next (← guarded do
        file.putStr text
        file.flush))
    | none => perform opened (next (.error .notFound))
  | .move source target next => do
    perform opened (next (← guardedAt target (IO.FS.rename source.text target.text)))

/-! ### Circumstances -/

/-- The home directory of the account that runs the program. -/
def readAccountHome : IO (Option String) := do
  match ← readText (Path.ofText "/proc/self/status"), ← readText (Path.ofText "/etc/passwd") with
  | .ok status, .ok accounts =>
    return (Account.numberInStatus? status).bind (Account.home? accounts)
  | _, _ => return none

/-- The variables of the environment that the program looks at, and the home
directory of its account. -/
def readEnvironment : IO Environment := do
  let found ← Environment.names.mapM fun name => do
    return (← IO.getEnv name).map (name, ·)
  return ⟨found.filterMap id, ← readAccountHome⟩

/-- The time as it is now. -/
def readTime : IO Instant := do
  let nanoseconds := (← Std.Time.Timestamp.now).toNanosecondsSinceUnixEpoch.val
  return ⟨nanoseconds / 10 ^ 9, (nanoseconds % 10 ^ 9).toNat⟩

/-- A random number of 560 bytes. -/
def readSeed : IO Nat := do
  return (← IO.getRandomBytes 560).toList.foldl (fun number byte => number * 256 + byte.toNat) 0

end PlaylistRules

open PlaylistRules

/-- Runs the program on the arguments. -/
def main (arguments : List String) : IO UInt32 := do
  let time ← readTime
  let seed ← readSeed
  let circumstances : Circumstances := {
    environment := ← readEnvironment
    time
    stamps := Chance.stamps seed time
    draws := Chance.draws seed }
  let ending ← perform #[] (Program.run circumstances arguments)
  (← IO.getStdout).putStr ending.output
  (← IO.getStderr).putStr ending.errors
  return UInt32.ofNat ending.exitCode
