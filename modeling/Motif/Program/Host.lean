import Motif.Fragment

/-!
What a program run can ask of its surroundings: variables, files, output, and fresh stamps.  The
program is written for any such host, so that it can be run on a machine as well as reasoned about
on a file tree that is a plain value.
-/

namespace Motif

/-- Why a file cannot be read or written. -/
inductive FileFault where
  | notFound
  | notDirectory
  | isDirectory
  | tooLong
  /-- No path has a NUL in it. -/
  | notPath
  | notText
  | other (message : String)
deriving DecidableEq, Inhabited

def FileFault.message : FileFault → String
  | notFound => "No such file or directory (os error 2)"
  | notDirectory => "Not a directory (os error 20)"
  | isDirectory => "Is a directory (os error 21)"
  | tooLong => "File name too long (os error 36)"
  | notPath => "file name contained an unexpected NUL byte"
  | notText => "stream did not contain valid UTF-8"
  | other message => message

structure Host (m : Type → Type) where
  lookup : String → m (Option String)
  home? : m (Option String)
  isThere : String → m Bool
  read : String → m (Except FileFault String)
  write : String → String → m (Except FileFault Unit)
  /-- Writes to the output, or to the channel for errors. -/
  print : String → m Unit
  warn : String → m Unit
  stamp : m Stamp

end Motif
