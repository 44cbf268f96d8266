/-! Named imports: which names of a library a source imports, and under which local names. -/

namespace SourceOutline

structure Specifier where
  name : String
  localName : Option String
  deriving DecidableEq, Repr

/-- The import of named things from a library, perhaps beside its default. The offsets say where
the import was read. -/
structure NamedImport where
  library : String
  defaultName : Option String
  specifiers : List Specifier
  start : Option UInt32
  stop : Option UInt32
  deriving DecidableEq, Repr

end SourceOutline
