import Motif.Program.Host
import Motif.Ordered.Dictionary

/-!
A host that is a plain value: a tree of files, variables, and what was written so far.  Running the
program in such a world is a function, so that it can be evaluated and reasoned about.
-/

namespace Motif

/-- Where a file or directory is, as the names on the way there. -/
abbrev Place := List String

structure FileTree where
  /-- Directories that exist beside those of the files. -/
  directories : List Place
  files : List (Place × ByteArray)
  /-- Files that stay empty, whatever is written to them. -/
  sinks : List Place

namespace FileTree

/-- A tree with what every machine has. -/
def onMachine (directories : List Place) (files : List (Place × ByteArray)) : FileTree :=
  let own : List Place :=
    [["bin"], ["home"], ["opt"], ["root"], ["tmp"], ["usr", "bin"], ["usr", "lib"], ["var", "tmp"]]
  { directories := directories ++ own
    files := files ++ [(["etc", "passwd"], "root:x:0:0:root:/root:/bin/sh\n".toUTF8)]
    sinks := [["dev", "null"]] }

def isSink (t : FileTree) (place : Place) : Bool := t.sinks.contains place

def isFile (t : FileTree) (place : Place) : Bool :=
  t.isSink place || t.files.any (·.1 == place)

/-- What lies on the way to a directory or a file is a directory too. -/
def isDirectory (t : FileTree) (place : Place) : Bool :=
  place.isEmpty || t.directories.any (place.isPrefixOf ·) ||
    (t.sinks ++ t.files.map (·.1)).any fun f => place.length < f.length && place.isPrefixOf f

def isThere (t : FileTree) (place : Place) : Bool := t.isFile place || t.isDirectory place

/-- The bytes that a name can have. -/
def nameSize : Nat := 255

/-- Follows the parts of a path.  Every part has to be taken in a directory. -/
def walk (t : FileTree) : Place → List String → Except FileFault Place
  | place, [] => .ok place
  | place, part :: rest =>
    if !t.isDirectory place then .error (if t.isFile place then .notDirectory else .notFound)
    else if part == "" || part == "." then t.walk place rest
    else if part == ".." then t.walk place.dropLast rest
    else if nameSize < part.utf8ByteSize then .error .tooLong
    else t.walk (place ++ [part]) rest

def read (t : FileTree) (place : Place) : Except FileFault String :=
  if t.isDirectory place then .error .isDirectory
  else if t.isSink place then .ok ""
  else match t.files.lookup place with
    | some bytes => ((String.fromUTF8? bytes).map .ok).getD (.error .notText)
    | none => .error .notFound

def write (t : FileTree) (place : Place) (text : String) : Except FileFault FileTree :=
  if t.isDirectory place then .error .isDirectory
  else if t.isSink place then .ok t
  else .ok { t with files := (place, text.toUTF8) :: t.files.filter (·.1 != place) }

end FileTree

structure World where
  tree : FileTree
  /-- The directory where relative paths start. -/
  directory : Place
  home : Option String
  environment : Dictionary
  output : String
  warnings : String
  /-- The number of the next stamp. -/
  stamps : Nat

namespace World

/-- The bytes that a path can have. -/
def pathSize : Nat := 4095

/-- Follows the parts of a path that are left when `cut` has taken some away. -/
def follow (w : World) (path : String) (cut : List String → List String) :
    Except FileFault Place :=
  let start := if path.toList.head? == some '/' then [] else w.directory
  if path.toList.contains '\x00' then .error .notPath
  else if path.isEmpty then .error .notFound
  else if pathSize < path.utf8ByteSize then .error .tooLong
  else w.tree.walk start (cut (path.splitOn "/"))

/-- The place that a path leads to.  There may be nothing, but in a directory. -/
def find (w : World) (path : String) : Except FileFault Place := w.follow path id

def isThere (w : World) (path : String) : Bool :=
  match w.find path with
  | .ok place => w.tree.isThere place
  | .error _ => false

def read (w : World) (path : String) : Except FileFault String :=
  (w.find path).bind w.tree.read

/-- The parts before the last name, and an empty one behind them: a file of any name could be where
these lead to. -/
def parent (parts : List String) : List String :=
  ((parts.reverse.dropWhile (·.isEmpty)).drop 1).reverse ++ [""]

/-- Where a file can be written, which is nowhere if the path ends with a slash. -/
def target (w : World) (path : String) : Except FileFault Place :=
  if path.toList.getLast? == some '/' then
    (w.follow path parent).bind fun _ => .error .isDirectory
  else w.find path

def write (w : World) (path text : String) : Except FileFault World :=
  ((w.target path).bind (w.tree.write · text)).map fun tree => { w with tree }

def print (w : World) (text : String) : World := { w with output := w.output ++ text }

def warn (w : World) (text : String) : World := { w with warnings := w.warnings ++ text }

/-- The stamps of a world differ by their number and bear the same time. -/
def nextStamp (w : World) : Stamp × World :=
  (⟨Uuid.ofNat w.stamps, Timestamp.epoch⟩, { w with stamps := w.stamps + 1 })

def host : Host (StateM World) :=
  { lookup := fun name w => (w.environment.get? name, w)
    home? := fun w => (w.home, w)
    isThere := fun path w => (w.isThere path, w)
    read := fun path w => (w.read path, w)
    write := fun path text w =>
      match w.write path text with
      | .ok w => (.ok (), w)
      | .error why => (.error why, w)
    print := fun text w => ((), w.print text)
    warn := fun text w => ((), w.warn text)
    stamp := nextStamp }

end World
end Motif
