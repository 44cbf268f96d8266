import SourceOutline.Json.Basic

/-! The compact text of a JSON value. -/

namespace SourceOutline

def Numeral.write (x : Numeral) : String :=
  let sign := if x.negative then "-" else ""
  let digits := String.ofList (Nat.toDigits 10 x.digits)
  match x.scale with
  | none => sign ++ digits
  | some (.ofNat e) => sign ++ digits ++ "e" ++ String.ofList (Nat.toDigits 10 e)
  | some (.negSucc e) => sign ++ digits ++ "e-" ++ String.ofList (Nat.toDigits 10 (e + 1))

namespace Json

/-- A quote, a backslash and the characters below the blank are escaped. -/
def escape (c : Char) : List Char :=
  if c = '"' then ['\\', '"']
  else if c = '\\' then ['\\', '\\']
  else if c.toNat < 0x20 then
    ['\\', 'u', '0', '0', Nat.digitChar (c.toNat / 16), Nat.digitChar (c.toNat % 16)]
  else [c]

def quote (s : String) : String :=
  String.ofList ('"' :: s.toList.flatMap escape ++ ['"'])

mutual
def writeTo (out : String) : Json → String
  | .null => out ++ "null"
  | .bool true => out ++ "true"
  | .bool false => out ++ "false"
  | .num x => out ++ x.write
  | .str s => out ++ quote s
  | .arr items => writeItems (out ++ "[") items ++ "]"
  | .obj fields => writeFields (out ++ "\x7b") fields ++ "\x7d"
  | .unreadable => out ++ "null"

def writeItems (out : String) : List Json → String
  | [] => out
  | [v] => writeTo out v
  | v :: vs => writeItems (writeTo out v ++ ",") vs

def writeFields (out : String) : List (String × Json) → String
  | [] => out
  | [(k, v)] => writeTo (out ++ quote k ++ ":") v
  | (k, v) :: fs => writeFields (writeTo (out ++ quote k ++ ":") v ++ ",") fs
end

def write (j : Json) : String :=
  writeTo "" j

end Json

end SourceOutline
