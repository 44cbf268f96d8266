/-! Cutting characters off both ends of a text. -/

namespace SourceOutline

def trimChars (cut : List Char) (s : List Char) : List Char :=
  ((s.dropWhile cut.contains).reverse.dropWhile cut.contains).reverse

def trimBoth (cut : List Char) (s : String) : String :=
  String.ofList (trimChars cut s.toList)

end SourceOutline
