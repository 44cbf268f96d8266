import SourceOutline.Text.Lowercase.Ranges
import SourceOutline.Text.Lowercase.Runs

/-!
Lowercase texts. A character goes to its lowercase form on its own, except that a capital sigma
at the end of a word takes the form that stands there.
-/

namespace SourceOutline

namespace Lowercase

def Run.contains (r : Run) (c : Nat) : Bool :=
  r.first ≤ c && c ≤ r.last && (c - r.first) % r.step == 0

def ofChar (c : Char) : List Char :=
  if c = 'İ' then ['i', '\u0307']
  else
    match runs.find? fun r => r.contains c.toNat with
    | some r => [Char.ofNat (r.target + (c.toNat - r.first))]
    | none => [c]

def meetsCase (cs : List Char) : Bool :=
  match cs.find? fun c => !isIgnorable c with
  | some c => isCased c
  | none => false

/-- The lowercase form of a text after the characters of `before`, the nearest first. -/
def after (before : List Char) : List Char → List Char
  | [] => []
  | c :: cs =>
    if c = 'Σ' then
      (if meetsCase before && !meetsCase cs then 'ς' else 'σ') :: after (c :: before) cs
    else ofChar c ++ after (c :: before) cs

end Lowercase

def lowercase (s : String) : String :=
  String.ofList (Lowercase.after [] s.toList)

end SourceOutline
