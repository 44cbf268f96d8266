/-!
JSON values. An object keeps its fields in the order in which they were written, repeated keys
included, and a number keeps how it was written, since what reads a value may tell those apart.
-/

namespace SourceOutline

/-- A number as written: sign, digits read as one natural number, and, if it was written with a
fraction or an exponent, the power of ten by which the digits are scaled. -/
structure Numeral where
  negative : Bool
  digits : Nat
  scale : Option Int
  deriving DecidableEq, Repr

namespace Numeral

def ofNat (n : Nat) : Numeral :=
  ⟨false, n, none⟩

def toNat? : Numeral → Option Nat
  | ⟨false, n, none⟩ => some n
  | _ => none

/-- The least magnitude that a 64-bit floating-point number no longer holds. -/
def overflow : Nat :=
  Nat.pow 2 1024 - Nat.pow 2 970

/-- Whether the number rounds to a finite 64-bit floating-point number. A scale that alone
settles the matter is not multiplied out. -/
def isFinite (x : Numeral) : Bool :=
  match x.scale.getD 0 with
  | .ofNat e => x.digits == 0 || (e ≤ 309 && x.digits * Nat.pow 10 e < overflow)
  | .negSucc e =>
    let width := (Nat.toDigits 10 x.digits).length
    width ≤ e + 1 || x.digits < overflow * Nat.pow 10 (e + 1)

end Numeral

/-- A JSON value. An `unreadable` part of a text is well formed but has no value: it may be
passed over, and everything that reads it fails. -/
inductive Json where
  | null
  | bool (value : Bool)
  | num (value : Numeral)
  | str (value : String)
  | arr (items : List Json)
  | obj (fields : List (String × Json))
  | unreadable

instance : Inhabited Json := ⟨.null⟩

/-- When a value is read: as soon as it is met, or only once a tag that may stand after it says
what it is. -/
inductive Reading where
  | direct
  | deferred
  deriving DecidableEq, Repr

namespace Json

def nat (n : Nat) : Json :=
  .num (.ofNat n)

def ofOption {α : Type} (f : α → Json) : Option α → Json
  | none => .null
  | some a => f a

mutual
def isReadable : Json → Bool
  | .null => true
  | .bool _ => true
  | .num _ => true
  | .str _ => true
  | .arr items => areReadable items
  | .obj fields => haveReadable fields
  | .unreadable => false

def areReadable : List Json → Bool
  | [] => true
  | v :: vs => v.isReadable && areReadable vs

def haveReadable : List (String × Json) → Bool
  | [] => true
  | (_, v) :: fs => v.isReadable && haveReadable fs
end

def toBool? : Json → Option Bool
  | .bool b => some b
  | _ => none

def toText? : Json → Option String
  | .str s => some s
  | _ => none

def toNat? : Json → Option Nat
  | .num x => x.toNat?
  | _ => none

def toUInt32? (j : Json) : Option UInt32 :=
  j.toNat?.bind fun n => if n < UInt32.size then some n.toUInt32 else none

def toUInt64? (j : Json) : Option UInt64 :=
  j.toNat?.bind fun n => if n < UInt64.size then some n.toUInt64 else none

def toList? {α : Type} (f : Json → Option α) : Json → Option (List α)
  | .arr items => items.mapM f
  | _ => none

/-- A bare name is written as a text, or as an object whose one key is the name and holds
nothing. Where reading was put off, an empty object counts as nothing too. -/
def toName? (reading : Reading) : Json → Option String
  | .str s => some s
  | .obj [(s, .null)] => some s
  | .obj [(s, .obj [])] => if reading = .deferred then some s else none
  | _ => none

end Json

end SourceOutline
