import SourceOutline.Import.Basic
import SourceOutline.Import.Layout
import SourceOutline.Text.Lowercase

/-!
The text of an import statement, on one line if that is short enough and otherwise with one name
a line.
-/

namespace SourceOutline

namespace Specifier

def render (s : Specifier) : String :=
  match s.localName with
  | none => s.name
  | some other => s.name ++ " as " ++ other

def compareBy (fold : String → String) (a b : Specifier) : Ordering :=
  compare (fold a.name) (fold b.name)

/-- The names in order; those that `fold` makes equal keep their order. -/
def sortBy (fold : String → String) (specifiers : List Specifier) : List Specifier :=
  specifiers.mergeSort fun a b => (compareBy fold a b).isLE

end Specifier

namespace NamedImport

def opening (i : NamedImport) : String :=
  match i.defaultName with
  | none => "import \x7b"
  | some name => "import " ++ name ++ ", \x7b"

def closing (i : NamedImport) (l : Layout) : String :=
  "\x7d from " ++ l.quote.mark ++ i.library ++ l.quote.mark ++ l.eol

def oneLine (i : NamedImport) (l : Layout) (names : List String) : String :=
  let space := if l.spaceBraces then " " else ""
  i.opening ++ space ++ ", ".intercalate names ++ space ++ i.closing l

def indent (l : Layout) : String :=
  String.ofList (List.replicate l.tabSize.toNat ' ')

def wrapped (i : NamedImport) (l : Layout) (names : List String) : String :=
  let comma := if l.trailingComma then "," else ""
  let lines := ",\n".intercalate (names.map fun name => indent l ++ name)
  i.opening ++ "\n" ++ lines ++ comma ++ "\n" ++ i.closing l

def renderBy (fold : String → String) (i : NamedImport) (l : Layout) : String :=
  let names := (Specifier.sortBy fold i.specifiers).map Specifier.render
  let line := i.oneLine l names
  if line.length ≤ l.wrapThreshold.toNat then line else i.wrapped l names

/-- The statement, its names in alphabetical order whatever their case. -/
def render (i : NamedImport) (l : Layout) : String :=
  i.renderBy lowercase l

end NamedImport

end SourceOutline
