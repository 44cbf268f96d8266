import SourceOutline.Json.Record

/-! How import statements are laid out. -/

namespace SourceOutline

inductive QuoteStyle where
  | single
  | double
  deriving DecidableEq, Repr

namespace QuoteStyle

def mark : QuoteStyle → String
  | single => "'"
  | double => "\""

def ofMark? : String → Option QuoteStyle
  | "'" => some single
  | "\"" => some double
  | _ => none

def ofJson? (j : Json) : Option QuoteStyle :=
  (j.toName? .direct).bind ofMark?

end QuoteStyle

/-- A statement longer than the threshold is wrapped, one name a line. -/
structure Layout where
  eol : String
  quote : QuoteStyle
  spaceBraces : Bool
  tabSize : UInt64
  wrapThreshold : UInt64
  trailingComma : Bool
  deriving DecidableEq, Repr

namespace Layout

def standard : Layout :=
  ⟨";", .double, true, 4, 125, true⟩

def keys : List String :=
  ["eol", "stringQuoteStyle", "spaceBraces", "tabSize", "multiLineWrapThreshold",
    "multiLineTrailingComma"]

def toJson (l : Layout) : Json :=
  .obj [("eol", .str l.eol), ("stringQuoteStyle", .str l.quote.mark),
    ("spaceBraces", .bool l.spaceBraces), ("tabSize", .nat l.tabSize.toNat),
    ("multiLineWrapThreshold", .nat l.wrapThreshold.toNat),
    ("multiLineTrailingComma", .bool l.trailingComma)]

/-- A layout says only where it departs from the standard one. -/
def ofJson? (j : Json) : Option Layout :=
  match j.partialRow? keys with
  | some [eol, quote, spaceBraces, tabSize, wrapThreshold, trailingComma] => do
    return ⟨← Json.defaulted standard.eol Json.toText? eol,
      ← Json.defaulted standard.quote QuoteStyle.ofJson? quote,
      ← Json.defaulted standard.spaceBraces Json.toBool? spaceBraces,
      ← Json.defaulted standard.tabSize Json.toUInt64? tabSize,
      ← Json.defaulted standard.wrapThreshold Json.toUInt64? wrapThreshold,
      ← Json.defaulted standard.trailingComma Json.toBool? trailingComma⟩
  | _ => none

end Layout

end SourceOutline
