import SourceOutline.Path.Basic

/-!
Files and directories, and where a path leads among them. A path is followed segment by segment,
so that only a directory can be passed through. A directory exists if it holds a file, at whatever
depth, or the working directory. Without a disk no path leads anywhere.
-/

namespace SourceOutline

/-- The names that lead from the root to a file, and the bytes of the file. -/
structure DiskFile where
  names : List (List UInt8)
  bytes : ByteArray

/-- No disk, or one with a working directory and with files in the order in which they were
written, the last of one name counting. -/
inductive Disk where
  | absent
  | holding (workingDirectory : List (List UInt8)) (files : List DiskFile)

inductive ReadFault where
  | notFound
  | isDirectory
  | notDirectory
  | invalidText
  deriving DecidableEq, Repr

inductive Place where
  | directory (names : List (List UInt8))
  | file (found : DiskFile)

def Place.names : Place → List (List UInt8)
  | directory names => names
  | file found => found.names

namespace Disk

def files : Disk → List DiskFile
  | absent => []
  | holding _ files => files

def workingDirectory : Disk → List (List UInt8)
  | absent => []
  | holding here _ => here

def follow (names : List (List UInt8)) : Component → List (List UInt8)
  | .root => []
  | .here => names
  | .up => names.dropLast
  | .name s => names ++ [s]

def write (d : Disk) (p : Path) (bytes : ByteArray) : Disk :=
  holding d.workingDirectory
    (d.files ++ [⟨p.components.foldl follow d.workingDirectory, bytes⟩])

def child? (d : Disk) (names : List (List UInt8)) : Option Place :=
  match d.files.reverse.find? fun f => f.names == names with
  | some f => some (.file f)
  | none =>
    if (d.workingDirectory :: d.files.map DiskFile.names).any names.isPrefixOf then
      some (.directory names)
    else none

def step (d : Disk) : Place → List UInt8 → Except ReadFault Place
  | .file _, _ => .error .notDirectory
  | .directory names, s =>
    match Path.component? s with
    | none => .ok (.directory names)
    | some .up => .ok (.directory names.dropLast)
    | some _ =>
      match d.child? (names ++ [s]) with
      | some place => .ok place
      | none => .error .notFound

def locate (d : Disk) (p : Path) : Except ReadFault Place :=
  match d with
  | absent => .error .notFound
  | holding here _ =>
    if p.bytes.isEmpty then .error .notFound
    else (Path.segments p.bytes).foldlM d.step (.directory (if p.isAbsolute then [] else here))

def canonical? (d : Disk) (p : Path) : Option Path :=
  match d.locate p with
  | .ok place => some ⟨Path.slash :: Path.joined place.names⟩
  | .error _ => none

def read (d : Disk) (p : Path) : Except ReadFault String :=
  match d.locate p with
  | .error fault => .error fault
  | .ok (.file f) =>
    match String.fromUTF8? f.bytes with
    | some text => .ok text
    | none => .error .invalidText
  | .ok _ => .error .isDirectory

end Disk

end SourceOutline
