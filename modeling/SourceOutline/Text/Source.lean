import SourceOutline.Text.Utf8

/-! A source is its bytes; places in it are byte offsets. -/

namespace SourceOutline

structure Span where
  start : UInt32
  stop : UInt32
  deriving DecidableEq, Repr, Inhabited

/-- The range between two offsets; an offset of more than 32 bits loses the bits above them. -/
def Span.ofOffsets (start stop : Nat) : Span :=
  ⟨start.toUInt32, stop.toUInt32⟩

structure Source where
  bytes : ByteArray

namespace Source

def ofString (text : String) : Source :=
  ⟨text.toUTF8⟩

/-- The text of the bytes from `start` up to `stop`. It is empty unless the offsets are in order
and within the source; where they cut a character, what is left of it is replaced. -/
def slice (src : Source) (start stop : Nat) : String :=
  if start ≤ stop ∧ stop ≤ src.bytes.size then
    Utf8.lossyText (src.bytes.extract start stop).data.toList
  else
    ""

end Source

end SourceOutline
