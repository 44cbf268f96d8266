import SourceOutline.Disk

/-!
Paths below a root, and the identifiers of modules. Paths that both exist are compared by where
they lead, all others by their components.
-/

namespace SourceOutline

inductive PathError where
  | outside (path root : Path)
  | invalidText
  deriving DecidableEq, Repr

def PathError.message : PathError → String
  | outside path root =>
    "File path '" ++ (path.display ++ ("' is not within workspace root '" ++ (root.display ++ "'")))
  | invalidText => "Path contains invalid UTF-8"

namespace Path

def compared (d : Disk) (p root : Path) : Path × Path :=
  match d.canonical? p, d.canonical? root with
  | some p', some root' => (p', root')
  | _, _ => (p, root)

def relativeTo (d : Disk) (p root : Path) : Except PathError String :=
  let (p, root) := compared d p root
  match p.below? root with
  | none => .error (.outside p root)
  | some rest =>
    match Utf8.text? rest with
    | none => .error .invalidText
    | some text => .ok text

def moduleEndings : List (List Char) :=
  [".d.ts".toList, ".tsx".toList, ".ts".toList, ".js".toList]

def cutEnding (text : List Char) : List Char :=
  match moduleEndings.find? fun e => e.isSuffixOf text with
  | some e => text.take (text.length - e.length)
  | none => text

/-- The text by which a module is known: the path below the root where there is one, and
otherwise the path as it is shown with `/` for `\`. -/
def moduleText (d : Disk) (p root : Path) : List Char :=
  match p.relativeTo d root with
  | .ok relative => relative.toList
  | .error _ => p.display.toList.map fun c => if c = '\\' then '/' else c

def moduleIdentifier (d : Disk) (p root : Path) : String :=
  String.ofList ('/' :: cutEnding ((moduleText d p root).dropWhile (· == '/')))

def inRoot (p root : Path) : Path :=
  if p.isAbsolute then p else root.join p

end Path

end SourceOutline
