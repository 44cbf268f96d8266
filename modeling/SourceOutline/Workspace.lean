import SourceOutline.Extraction.Walk

/-! Outlines of the files of a workspace. -/

namespace SourceOutline

inductive Language where
  | typescript
  | tsx
  deriving DecidableEq, Repr

namespace Language

def label : Language → String
  | typescript => "typescript"
  | tsx => "tsx"

def ofName? : String → Option Language
  | "typescript" => some typescript
  | "ts" => some typescript
  | "tsx" => some tsx
  | _ => none

def ofPath? (p : Path) : Option Language :=
  match p.extension?.bind Utf8.text? with
  | some "ts" => some typescript
  | some "mts" => some typescript
  | some "cts" => some typescript
  | some "tsx" => some tsx
  | _ => none

end Language

def ReadFault.message : ReadFault → String
  | notFound => "No such file or directory (os error 2)"
  | isDirectory => "Is a directory (os error 21)"
  | notDirectory => "Not a directory (os error 20)"
  | invalidText => "stream did not contain valid UTF-8"

inductive ExtractionError where
  | unsupportedLanguage (name : String)
  | unreadable (path : Path) (fault : ReadFault)
  | inFile (path : Path) (cause : ExtractionError)
  deriving DecidableEq, Repr

def ExtractionError.chain : ExtractionError → List String
  | unsupportedLanguage name => ["No extractor available for language '" ++ name ++ "'"]
  | unreadable path fault =>
    ["Failed to read " ++ path.display ++ ": " ++ fault.message, fault.message]
  | inFile path cause => ("Failed to extract declarations from " ++ path.display) :: cause.chain

def Language.named (name : String) : Except ExtractionError Language :=
  match ofName? name with
  | some language => .ok language
  | none => .error (.unsupportedLanguage name)

structure ParsedText where
  text : String
  tree : Language → Node

namespace Workspace

def extractFile (d : Disk) (root path : Path) (content : ParsedText) :
    Except ExtractionError Resource :=
  match Language.ofPath? path with
  | none => .error (.unsupportedLanguage path.display)
  | some language =>
    .ok ((Resource.ofKind (.file path root)).extract d (.ofString content.text)
      (content.tree language))

def extractAll (d : Disk) (root : Path) (files : List (Path × ParsedText)) :
    List (Except ExtractionError Resource) :=
  files.map fun file => extractFile d root file.1 file.2

/-- The outline of a file on the disk. It is made of the path as shown, not of the path that was
read. -/
def extractPath (d : Disk) (parse : String → Language → Node) (root path : Path) :
    Except ExtractionError Resource :=
  match d.read path with
  | .error fault => .error (.unreadable path fault)
  | .ok text =>
    match extractFile d root (.ofText path.display) ⟨text, parse text⟩ with
    | .ok resource => .ok resource
    | .error cause => .error (.inFile path cause)

end Workspace

end SourceOutline
