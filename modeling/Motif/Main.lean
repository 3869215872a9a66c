import Motif.Program.Run
import Std.Time.DateTime.Timestamp

/-!
The program on a machine: files, variables and output are those of the process.
-/

namespace Motif
namespace Machine

/-- Codes of errors come with either sign. -/
def isCode (code : UInt32) (n : UInt32) : Bool := code == n || code == 0 - n

def fault : IO.Error → FileFault
  | .noFileOrDirectory .. => .notFound
  | .inappropriateType _ code details =>
    if isCode code 20 then .notDirectory
    else if isCode code 21 then .isDirectory
    else .other details
  | .invalidArgument _ code details => if isCode code 36 then .tooLong else .other details
  | .permissionDenied .. => .other "Permission denied (os error 13)"
  | e => .other (toString e)

def read (path : String) : IO (Except FileFault String) := do
  if path.toList.contains '\x00' then return .error .notPath
  try
    let bytes ← IO.FS.readBinFile path
    match String.fromUTF8? bytes with
    | some text => return .ok text
    | none => return .error .notText
  catch e => return .error (fault e)

def write (path text : String) : IO (Except FileFault Unit) := do
  if path.toList.contains '\x00' then return .error .notPath
  try
    IO.FS.writeFile path text
    return .ok ()
  catch e => return .error (fault e)

def isThere (path : String) : IO Bool := do
  if path.toList.contains '\x00' then return false
  try
    discard (IO.FS.realPath path)
    return true
  catch _ => return false

def stamp : IO Stamp := do
  let bits ← IO.getRandomBytes 16
  let now ← Std.Time.Timestamp.now
  let n := bits.foldl (fun n b => n * 256 + b.toNat) 0
  return ⟨.random n, .ofNanos now.toNanosecondsSinceUnixEpoch.val.toNat⟩

def host : Host IO :=
  { lookup := fun name => IO.getEnv name
    home? := IO.getEnv "HOME"
    isThere, read, write, stamp
    print := fun text => IO.print text
    warn := fun text => IO.eprint text }

end Machine
end Motif

def main (args : List String) : IO UInt32 := do
  return (← Motif.Program.run Motif.Machine.host args).toUInt32
