import SourceOutline.Json.Basic

/-!
The tokens of a JSON text. A string is first cut into pieces, characters and escaped code units,
and the pieces are then joined, which fails at a surrogate without its partner.
-/

namespace SourceOutline.Json

inductive Piece where
  | char (c : Char)
  | unit (n : Nat)
  deriving DecidableEq, Repr

namespace Piece

def isHigh (n : Nat) : Bool :=
  0xD800 ≤ n && n < 0xDC00

def isLow (n : Nat) : Bool :=
  0xDC00 ≤ n && n < 0xE000

/-- The characters of the pieces. A high surrogate takes the low one after it. -/
def join : List Piece → Option (List Char)
  | [] => some []
  | .char c :: ps => (join ps).map (c :: ·)
  | .unit n :: .unit m :: ps =>
    if isHigh n then
      if isLow m then
        (join ps).map (Char.ofNat (0x10000 + (n - 0xD800) * 0x400 + (m - 0xDC00)) :: ·)
      else none
    else if isLow n then none
    else (join (.unit m :: ps)).map (Char.ofNat n :: ·)
  | .unit n :: ps =>
    if isHigh n || isLow n then none else (join ps).map (Char.ofNat n :: ·)

def hexDigit? (c : Char) : Option Nat :=
  if '0' ≤ c ∧ c ≤ '9' then some (c.toNat - '0'.toNat)
  else if 'a' ≤ c ∧ c ≤ 'f' then some (c.toNat - 'a'.toNat + 10)
  else if 'A' ≤ c ∧ c ≤ 'F' then some (c.toNat - 'A'.toNat + 10)
  else none

def unit? (a b c d : Char) : Option Piece := do
  let a ← hexDigit? a
  let b ← hexDigit? b
  let c ← hexDigit? c
  let d ← hexDigit? d
  return .unit (((a * 16 + b) * 16 + c) * 16 + d)

def escaped? : Char → Option Char
  | '"' => some '"'
  | '\\' => some '\\'
  | '/' => some '/'
  | 'b' => some '\x08'
  | 'f' => some '\x0c'
  | 'n' => some '\n'
  | 'r' => some '\r'
  | 't' => some '\t'
  | _ => none

def scan : List Char → Option (List Piece × List Char)
  | [] => none
  | '"' :: rest => some ([], rest)
  | '\\' :: 'u' :: a :: b :: c :: d :: rest => do
    let piece ← unit? a b c d
    let (pieces, rest) ← scan rest
    return (piece :: pieces, rest)
  | '\\' :: e :: rest => do
    let c ← escaped? e
    let (pieces, rest) ← scan rest
    return (.char c :: pieces, rest)
  | c :: rest =>
    if c.toNat < 0x20 then none
    else do
      let (pieces, rest) ← scan rest
      return (.char c :: pieces, rest)

theorem length_le_of_scan {s rest : List Char} {pieces : List Piece}
    (h : scan s = some (pieces, rest)) : rest.length ≤ s.length := by
  fun_induction scan s generalizing pieces rest with
  | case1 => simp at h
  | case2 r => simp_all
  | case3 a b c d r ih =>
    simp only [Option.bind_eq_bind, Option.bind_eq_some_iff, Option.pure_def, Option.some.injEq,
      Prod.mk.injEq, Prod.exists] at h
    obtain ⟨_, _, ps, r', hs, _, rfl⟩ := h
    have := ih hs
    simp only [List.length_cons]
    omega
  | case4 e r _ ih =>
    simp only [Option.bind_eq_bind, Option.bind_eq_some_iff, Option.pure_def, Option.some.injEq,
      Prod.mk.injEq, Prod.exists] at h
    obtain ⟨_, _, ps, r', hs, _, rfl⟩ := h
    have := ih hs
    simp only [List.length_cons]
    omega
  | case5 c r => simp at h
  | case6 c r _ _ _ _ ih =>
    simp only [Option.bind_eq_bind, Option.bind_eq_some_iff, Option.pure_def, Option.some.injEq,
      Prod.mk.injEq, Prod.exists] at h
    obtain ⟨ps, r', hs, _, rfl⟩ := h
    have := ih hs
    simp only [List.length_cons]
    omega

end Piece

/-- A string that joins to no characters, and a number beyond the floating-point range, are
unreadable. -/
inductive Token where
  | openArr
  | closeArr
  | openObj
  | closeObj
  | comma
  | colon
  | text (value : Option String)
  | scalar (value : Json)

namespace Token

def digitsValue (ds : List Char) : Nat :=
  ds.foldl (fun n d => n * 10 + (d.toNat - '0'.toNat)) 0

def digits (s : List Char) : List Char × List Char :=
  (s.takeWhile Char.isDigit, s.dropWhile Char.isDigit)

def fraction? : List Char → Option (List Char × List Char)
  | '.' :: s =>
    match digits s with
    | ([], _) => none
    | found => some found
  | s => some ([], s)

def exponent? (s : List Char) : Option (Option Int × List Char) :=
  match s with
  | c :: s' =>
    if c = 'e' ∨ c = 'E' then
      let (sign, s'') : Int × List Char :=
        match s' with
        | '-' :: t => (-1, t)
        | '+' :: t => (1, t)
        | t => (1, t)
      match digits s'' with
      | ([], _) => none
      | (ds, rest) => some (some (sign * digitsValue ds), rest)
    else some (none, s)
  | [] => some (none, [])

/-- An unsigned number: no zero in front of other digits. -/
def magnitude? (negative : Bool) (s : List Char) : Option (Numeral × List Char) :=
  match digits s with
  | ([], _) => none
  | (whole, rest) =>
    if 1 < whole.length ∧ whole.head? = some '0' then none
    else do
      let (part, rest) ← fraction? rest
      let (power, rest) ← exponent? rest
      let value := digitsValue (whole ++ part)
      let scale : Option Int :=
        if part.isEmpty ∧ power.isNone then none else some (power.getD 0 - part.length)
      return (⟨negative, value, scale⟩, rest)

def number? : List Char → Option (Numeral × List Char)
  | '-' :: s => magnitude? true s
  | s => magnitude? false s

def ofNumeral (x : Numeral) : Token :=
  .scalar (if x.isFinite then .num x else .unreadable)

def ofPieces (ps : List Piece) : Token :=
  .text ((Piece.join ps).map String.ofList)

theorem length_dropWhile_le (p : Char → Bool) (s : List Char) :
    (s.dropWhile p).length ≤ s.length :=
  (List.dropWhile_sublist p).length_le

theorem length_le_of_fraction? {s part rest : List Char} (h : fraction? s = some (part, rest)) :
    rest.length ≤ s.length := by
  unfold fraction? at h
  split at h
  · rename_i t
    have := length_dropWhile_le Char.isDigit t
    split at h
    · simp at h
    · simp only [digits, Option.some.injEq, Prod.mk.injEq] at h
      obtain ⟨_, rfl⟩ := h
      simp only [List.length_cons]
      omega
  · simp only [Option.some.injEq, Prod.mk.injEq] at h
    obtain ⟨_, rfl⟩ := h
    exact Nat.le_refl _

theorem length_le_of_exponent? {s rest : List Char} {power : Option Int}
    (h : exponent? s = some (power, rest)) : rest.length ≤ s.length := by
  unfold exponent? at h
  split at h
  · rename_i c t
    split at h
    · split at h
      rename_i sign u hu
      split at h
      · simp at h
      · rename_i ds r _ hd
        simp only [Option.some.injEq, Prod.mk.injEq] at h
        obtain ⟨_, rfl⟩ := h
        simp only [digits, Prod.mk.injEq] at hd
        have hr : r.length ≤ u.length := by
          rw [← hd.2]
          exact length_dropWhile_le _ _
        have ht : u.length ≤ t.length := by
          split at hu <;> simp only [Prod.mk.injEq] at hu <;> obtain ⟨_, rfl⟩ := hu <;> simp
        simp only [List.length_cons]
        omega
    · simp only [Option.some.injEq, Prod.mk.injEq] at h
      obtain ⟨_, rfl⟩ := h
      exact Nat.le_refl _
  · simp only [Option.some.injEq, Prod.mk.injEq] at h
    obtain ⟨_, rfl⟩ := h
    exact Nat.le_refl _

theorem length_lt_of_magnitude? {negative : Bool} {s rest : List Char} {x : Numeral}
    (h : magnitude? negative s = some (x, rest)) : rest.length < s.length := by
  unfold magnitude? at h
  split at h
  · simp at h
  · rename_i whole r hne hd
    split at h
    · simp at h
    · simp only [Option.bind_eq_bind, Option.bind_eq_some_iff, Option.pure_def, Option.some.injEq,
        Prod.mk.injEq, Prod.exists] at h
      obtain ⟨part, r₁, hf, power, r₂, he, _, rfl⟩ := h
      have h₁ := length_le_of_fraction? hf
      have h₂ := length_le_of_exponent? he
      simp only [digits, Prod.mk.injEq] at hd
      have hsum :
          (s.takeWhile Char.isDigit).length + (s.dropWhile Char.isDigit).length = s.length := by
        rw [← List.length_append, List.takeWhile_append_dropWhile]
      have hpos : whole.length ≠ 0 := by
        intro hz
        exact hne (List.length_eq_zero_iff.mp hz)
      rw [hd.1, hd.2] at hsum
      omega

theorem length_lt_of_number? {s rest : List Char} {x : Numeral}
    (h : number? s = some (x, rest)) : rest.length < s.length := by
  unfold number? at h
  split at h
  · have := length_lt_of_magnitude? h
    simp only [List.length_cons]
    omega
  · exact length_lt_of_magnitude? h

def all? (s : List Char) : Option (List Token) :=
  match s with
  | [] => some []
  | ' ' :: rest => all? rest
  | '\t' :: rest => all? rest
  | '\n' :: rest => all? rest
  | '\r' :: rest => all? rest
  | '[' :: rest => (all? rest).map (.openArr :: ·)
  | ']' :: rest => (all? rest).map (.closeArr :: ·)
  | '{' :: rest => (all? rest).map (.openObj :: ·)
  | '}' :: rest => (all? rest).map (.closeObj :: ·)
  | ',' :: rest => (all? rest).map (.comma :: ·)
  | ':' :: rest => (all? rest).map (.colon :: ·)
  | 'n' :: 'u' :: 'l' :: 'l' :: rest => (all? rest).map (.scalar .null :: ·)
  | 't' :: 'r' :: 'u' :: 'e' :: rest => (all? rest).map (.scalar (.bool true) :: ·)
  | 'f' :: 'a' :: 'l' :: 's' :: 'e' :: rest => (all? rest).map (.scalar (.bool false) :: ·)
  | '"' :: body =>
    match _h : Piece.scan body with
    | none => none
    | some (pieces, rest) => (all? rest).map (ofPieces pieces :: ·)
  | c :: tail =>
    match _h : number? (c :: tail) with
    | none => none
    | some (x, rest) => (all? rest).map (ofNumeral x :: ·)
termination_by s.length
decreasing_by
  all_goals simp only [List.length_cons]
  all_goals first
    | omega
    | exact Nat.lt_succ_of_le (Piece.length_le_of_scan _h)
    | exact length_lt_of_number? _h

end Token

end SourceOutline.Json
