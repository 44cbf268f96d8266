import SourceOutline.Import.Basic
import SourceOutline.Text.Trim
import SourceOutline.Tree.Node

/-! Import statements. -/

namespace SourceOutline.Node

def specifier? (src : Source) (n : Node) : Option Specifier :=
  if n.kind = "import_specifier" then
    (n.field? .name).map fun name =>
      ⟨name.text src, (n.field? .localName).map fun other => other.text src⟩
  else none

def namedImport? (src : Source) (n : Node) : Option NamedImport := do
  let source ← n.field? .source
  let clause ← n.childOfKind? "import_clause"
  let names ← clause.childOfKind? "named_imports"
  return {
    library := trimBoth ['"', '\'', '\x60'] (source.text src)
    defaultName := (clause.childOfKind? "identifier").map fun name => name.text src
    specifiers := names.content.filterMap (specifier? src)
    start := some n.span.start
    stop := some n.span.stop }

end SourceOutline.Node
