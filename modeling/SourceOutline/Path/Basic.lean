import SourceOutline.Text.Utf8

/-!
Paths are bytes with `/` between segments, and need not be the bytes of a text. What a path names
is its list of components: a segment that is empty or `.` is silent, except that a `.` in front of
everything counts.
-/

namespace SourceOutline

structure Path where
  bytes : List UInt8
  deriving DecidableEq, Repr

inductive Component where
  | root
  | here
  | up
  | name (segment : List UInt8)
  deriving DecidableEq, Repr

namespace Path

def slash : UInt8 := 0x2F

def dot : UInt8 := 0x2E

def ofText (text : String) : Path :=
  ⟨Utf8.encode text⟩

def text? (p : Path) : Option String :=
  Utf8.text? p.bytes

def display (p : Path) : String :=
  Utf8.lossyText p.bytes

def segments : List UInt8 → List (List UInt8)
  | [] => [[]]
  | b :: bs =>
    if b = slash then [] :: segments bs
    else
      match segments bs with
      | [] => [[b]]
      | s :: ss => (b :: s) :: ss

def joined : List (List UInt8) → List UInt8
  | [] => []
  | [s] => s
  | s :: ss => s ++ slash :: joined ss

def silent (segment : List UInt8) : Bool :=
  segment == [] || segment == [dot]

def component? (segment : List UInt8) : Option Component :=
  if silent segment then none
  else if segment = [dot, dot] then some .up
  else some (.name segment)

def isAbsolute (p : Path) : Bool :=
  p.bytes.head? == some slash

def split (p : Path) : Option Component × List (List UInt8) :=
  let all := segments p.bytes
  if p.isAbsolute then (some .root, all.tail)
  else if all.head? = some [dot] then (some .here, all.tail)
  else (none, all)

def components (p : Path) : List Component :=
  p.split.1.toList ++ p.split.2.filterMap component?

def fileName? (p : Path) : Option (List UInt8) :=
  match p.components.getLast? with
  | some (.name s) => some s
  | _ => none

/-- A file name cut at its last dot. A name without a dot, or whose only dot stands in front,
has no extension. -/
def cutAtDot (name : List UInt8) : List UInt8 × Option (List UInt8) :=
  let after := (name.reverse.takeWhile (· != dot)).reverse
  let before := (name.reverse.dropWhile (· != dot)).drop 1 |>.reverse
  if after.length = name.length ∨ before = [] then (name, none) else (before, some after)

def stem? (p : Path) : Option (List UInt8) :=
  p.fileName?.map fun name => (cutAtDot name).1

def extension? (p : Path) : Option (List UInt8) :=
  p.fileName?.bind fun name => (cutAtDot name).2

def join (base p : Path) : Path :=
  if p.isAbsolute || base.bytes.isEmpty then p
  else if base.bytes.getLast? == some slash then ⟨base.bytes ++ p.bytes⟩
  else ⟨base.bytes ++ slash :: p.bytes⟩

def after : Nat → List (List UInt8) → List (List UInt8)
  | 0, ss => ss
  | _ + 1, [] => []
  | n + 1, s :: ss => if silent s then after (n + 1) ss else after n ss

def trimFront (ss : List (List UInt8)) : List (List UInt8) :=
  ss.dropWhile silent

def trimBack (ss : List (List UInt8)) : List (List UInt8) :=
  (ss.reverse.dropWhile silent).reverse

def trimmed (p : Path) : List UInt8 :=
  match p.split with
  | (some .root, rest) => slash :: joined (trimBack rest)
  | (some .here, rest) => joined ([dot] :: trimBack rest)
  | (_, rest) => joined (trimBack rest)

/-- What is left of `p` below `base`, if the components of `base` begin those of `p`. Segments
between two components are kept as they are. -/
def below? (p base : Path) : Option (List UInt8) :=
  let skip := base.components.length
  if base.components.isPrefixOf p.components then
    if skip = 0 then some p.trimmed
    else some (joined (trimBack (trimFront (after (skip - p.split.1.toList.length) p.split.2))))
  else none

end Path

end SourceOutline
