import Mathlib.Tactic.Lemma
import Mathlib.Tactic.SplitIfs
import SourceOutline.Text.Utf8

/-!
The bytes of texts. Decoding gives back every text that was encoded, and the bytes of one text stay
those of texts where they are cut at a byte that is a character by itself.
-/

namespace SourceOutline.Utf8

/-- The byte after the first of a character that holds the last six bits of `n`. -/
def tail (n : Nat) : UInt8 :=
  UInt8.ofNat (n % 64 + 0x80)

lemma toNat_tail (n : Nat) : (tail n).toNat = n % 64 + 0x80 := by
  apply UInt8.toNat_ofNat_of_lt'
  change n % 64 + 0x80 < 256
  omega

lemma le_tail {low : UInt8} {n : Nat} (h : low.toNat ≤ n % 64 + 0x80) : low ≤ tail n := by
  rw [UInt8.le_iff_toNat_le, toNat_tail]
  exact h

lemma tail_le {high : UInt8} {n : Nat} (h : n % 64 + 0x80 ≤ high.toNat) : tail n ≤ high := by
  rw [UInt8.le_iff_toNat_le, toNat_tail]
  exact h

lemma tail_range (n : Nat) : 0x80 ≤ tail n ∧ tail n ≤ 0xBF := by
  constructor
  · apply le_tail
    change 0x80 ≤ n % 64 + 0x80
    omega
  · apply tail_le
    change n % 64 + 0x80 ≤ 0xBF
    omega

/-- The byte `b` begins a character of which `need` more bytes come, the next of them `next`; its
own bits are `code`. -/
def Opens (b : UInt8) (need code : Nat) (next : UInt8) : Prop :=
  ∃ low high, start b = .lead ⟨need, low, high, code⟩ ∧ low ≤ next ∧ next ≤ high

lemma start_single {n : Nat} (h : n < 0x80) : start (UInt8.ofNat n) = .single (Char.ofNat n) := by
  have hb := UInt8.toNat_ofNat_of_lt' (show n < 256 by omega)
  simp only [start, hb, if_pos h]

lemma opens_two {k : Nat} (hlow : 2 ≤ k) (hhigh : k < 32) (m : Nat) :
    Opens (UInt8.ofNat (k + 0xC0)) 1 k (tail m) := by
  have hb := UInt8.toNat_ofNat_of_lt' (show k + 0xC0 < 256 by omega)
  refine ⟨0x80, 0xBF, ?_, tail_range m⟩
  simp only [start, hb]
  rw [if_neg (by omega), if_neg (by omega), if_pos (by omega), Nat.add_sub_cancel]

lemma opens_three {k m : Nat} (hk : k < 16) (hlow : k = 0 → 32 ≤ m % 64)
    (hhigh : k = 13 → m % 64 < 32) : Opens (UInt8.ofNat (k + 0xE0)) 2 k (tail m) := by
  have htail := tail_range m
  obtain rfl | rfl | hne : k = 0 ∨ k = 13 ∨ k ≠ 0 ∧ k ≠ 13 := by omega
  · refine ⟨0xA0, 0xBF, rfl, le_tail ?_, htail.2⟩
    change 0xA0 ≤ m % 64 + 0x80
    omega
  · refine ⟨0x80, 0x9F, rfl, htail.1, tail_le ?_⟩
    change m % 64 + 0x80 ≤ 0x9F
    omega
  · have hb := UInt8.toNat_ofNat_of_lt' (show k + 0xE0 < 256 by omega)
    refine ⟨0x80, 0xBF, ?_, htail⟩
    simp only [start, hb]
    rw [if_neg (by omega), if_neg (by omega), if_neg (by omega), if_neg (by omega),
      if_neg (by omega), if_pos (by omega), Nat.add_sub_cancel]

lemma opens_four {k m : Nat} (hk : k < 5) (hlow : k = 0 → 16 ≤ m % 64)
    (hhigh : k = 4 → m % 64 < 16) : Opens (UInt8.ofNat (k + 0xF0)) 3 k (tail m) := by
  have htail := tail_range m
  obtain rfl | rfl | hne : k = 0 ∨ k = 4 ∨ k ≠ 0 ∧ k ≠ 4 := by omega
  · refine ⟨0x90, 0xBF, rfl, le_tail ?_, htail.2⟩
    change 0x90 ≤ m % 64 + 0x80
    omega
  · refine ⟨0x80, 0x8F, rfl, htail.1, tail_le ?_⟩
    change m % 64 + 0x80 ≤ 0x8F
    omega
  · have hb := UInt8.toNat_ofNat_of_lt' (show k + 0xF0 < 256 by omega)
    refine ⟨0x80, 0xBF, ?_, htail⟩
    simp only [start, hb]
    rw [if_neg (by omega), if_neg (by omega), if_neg (by omega), if_neg (by omega),
      if_neg (by omega), if_neg (by omega), if_neg (by omega), if_pos (by omega),
      Nat.add_sub_cancel]

lemma decodeFrom_lead {b : UInt8} {p : Pending} (h : start b = .lead p) (rest : List UInt8) :
    decodeFrom none (b :: rest) = decodeFrom (some p) rest := by
  simp only [decodeFrom, h]

-- An open character with the bits of `n / 64` has those of `n` after one more byte.
lemma decodeFrom_tail {low high : UInt8} {need n : Nat} (hlow : low ≤ tail n)
    (hhigh : tail n ≤ high) (rest : List UInt8) :
    decodeFrom (some ⟨need + 2, low, high, n / 64⟩) (tail n :: rest) =
      decodeFrom (some ⟨need + 1, 0x80, 0xBF, n⟩) rest := by
  have hpush : Pending.push ⟨need + 2, low, high, n / 64⟩ (tail n) =
      ⟨need + 1, 0x80, 0xBF, n⟩ := by
    simp only [Pending.push, toNat_tail, Pending.mk.injEq, true_and]
    omega
  rw [decodeFrom, if_pos ⟨hlow, hhigh⟩, if_neg (by simp), hpush]

lemma decodeFrom_last {low high : UInt8} {n : Nat} (hlow : low ≤ tail n) (hhigh : tail n ≤ high)
    (rest : List UInt8) :
    decodeFrom (some ⟨1, low, high, n / 64⟩) (tail n :: rest) =
      Char.ofNat n :: decodeFrom none rest := by
  have hcode : n / 64 * 64 + (n % 64 + 0x80 - 0x80) = n := by omega
  rw [decodeFrom, if_pos ⟨hlow, hhigh⟩, if_pos (by simp)]
  simp only [Pending.push, toNat_tail, hcode]

lemma decodeFrom_two {b : UInt8} {n : Nat} (h : Opens b 1 (n / 64) (tail n))
    (rest : List UInt8) :
    decodeFrom none (b :: tail n :: rest) = Char.ofNat n :: decodeFrom none rest := by
  obtain ⟨low, high, hb, hlow, hhigh⟩ := h
  rw [decodeFrom_lead hb, decodeFrom_last hlow hhigh]

lemma decodeFrom_three {b : UInt8} {n : Nat} (h : Opens b 2 (n / 64 / 64) (tail (n / 64)))
    (rest : List UInt8) :
    decodeFrom none (b :: tail (n / 64) :: tail n :: rest) =
      Char.ofNat n :: decodeFrom none rest := by
  obtain ⟨low, high, hb, hlow, hhigh⟩ := h
  have hn := tail_range n
  rw [decodeFrom_lead hb, decodeFrom_tail hlow hhigh, decodeFrom_last hn.1 hn.2]

lemma decodeFrom_four {b : UInt8} {n : Nat}
    (h : Opens b 3 (n / 64 / 64 / 64) (tail (n / 64 / 64))) (rest : List UInt8) :
    decodeFrom none (b :: tail (n / 64 / 64) :: tail (n / 64) :: tail n :: rest) =
      Char.ofNat n :: decodeFrom none rest := by
  obtain ⟨low, high, hb, hlow, hhigh⟩ := h
  have hm := tail_range (n / 64)
  have hn := tail_range n
  rw [decodeFrom_lead hb, decodeFrom_tail hlow hhigh, decodeFrom_tail hm.1 hm.2,
    decodeFrom_last hn.1 hn.2]

lemma decodeFrom_encoded (c : Char) (rest : List UInt8) :
    decodeFrom none (String.utf8EncodeChar c ++ rest) = c :: decodeFrom none rest := by
  have hvalid : c.val.toNat < 0xD800 ∨ 0xDFFF < c.val.toNat ∧ c.val.toNat < 0x110000 := c.valid
  have hchar : Char.ofNat c.val.toNat = c := Char.ofNat_toNat c
  unfold String.utf8EncodeChar
  generalize c.val.toNat = n at hvalid hchar
  subst hchar
  dsimp only
  -- The bounds on the code point are those that the second byte of each length needs.
  split_ifs with hone htwo hthree
  · simp only [List.singleton_append, decodeFrom, start_single (show n < 0x80 by omega)]
  · have hlead : n / 64 % 32 = n / 64 := by omega
    rw [hlead]
    exact decodeFrom_two (opens_two (by omega) (by omega) n) rest
  · have hlead : n / 4096 % 16 = n / 64 / 64 := by omega
    rw [hlead]
    exact decodeFrom_three (opens_three (by omega) (by omega) (by omega)) rest
  · have hlead : n / 262144 % 8 = n / 64 / 64 / 64 := by omega
    have hnext : n / 4096 = n / 64 / 64 := by omega
    rw [hlead, hnext]
    exact decodeFrom_four (opens_four (by omega) (by omega) (by omega)) rest

lemma decode_encoded (cs : List Char) : decode (cs.flatMap String.utf8EncodeChar) = cs := by
  induction cs with
  | nil => rfl
  | cons c cs ih =>
    rw [List.flatMap_cons, decode, decodeFrom_encoded]
    exact congrArg (c :: ·) ih

lemma toUTF8_lossyText {bytes : ByteArray} (h : bytes.IsValidUTF8) :
    (lossyText bytes.data.toList).toUTF8 = bytes := by
  obtain ⟨cs, rfl⟩ := h
  rw [lossyText, List.utf8Encode, List.toList_data_toByteArray, decode_encoded]
  exact String.toByteArray_ofList

def IsText (bytes : List UInt8) : Prop :=
  ∃ text, bytes = encode text

lemma encode_ofList (cs : List Char) :
    encode (String.ofList cs) = cs.flatMap String.utf8EncodeChar := by
  rw [encode, String.toUTF8_eq_toByteArray, String.toByteArray_ofList, List.utf8Encode,
    List.toList_data_toByteArray]

lemma encode_char (c : Char) : String.utf8EncodeChar c = encode (String.ofList [c]) := by
  rw [encode_ofList, List.flatMap_singleton]

lemma encode_append (s t : String) : encode (s ++ t) = encode s ++ encode t := by
  simp only [encode, String.toUTF8_eq_toByteArray, String.toByteArray_append,
    ByteArray.toList_data_append]

lemma lossyText_encode (text : String) : lossyText (encode text) = text := by
  rw [lossyText, ← String.ofList_toList (s := text), encode_ofList, decode_encoded]

lemma encode_injective : Function.Injective encode :=
  Function.LeftInverse.injective lossyText_encode

lemma text?_encode (text : String) : text? (encode text) = some text := by
  have hvalid : text.toUTF8.IsValidUTF8 := text.isValidUTF8
  rw [text?, encode, Array.toArray_toList, String.fromUTF8?, dif_pos hvalid]
  rfl

lemma text?_eq_some {bytes : List UInt8} {text : String} :
    text? bytes = some text ↔ bytes = encode text := by
  constructor
  · intro h
    rw [text?, String.fromUTF8?] at h
    split at h
    · rw [← Option.some.inj h]
      rfl
    · cases h
  · rintro rfl
    exact text?_encode text

lemma isText_iff {bytes : List UInt8} : IsText bytes ↔ (text? bytes).isSome = true := by
  simp only [Option.isSome_iff_exists, text?_eq_some, IsText]

lemma high_or_alone {c : Char} {b : UInt8} (h : b ∈ String.utf8EncodeChar c) :
    0x80 ≤ b.toNat ∨ String.utf8EncodeChar c = [b] := by
  have hhigh {n : Nat} (hn : 0x80 ≤ n) (hlt : n < 256) : 0x80 ≤ (UInt8.ofNat n).toNat := by
    rwa [UInt8.toNat_ofNat_of_lt' hlt]
  unfold String.utf8EncodeChar at h ⊢
  generalize c.val.toNat = n at h ⊢
  dsimp only at h ⊢
  split_ifs at h ⊢
  · exact .inr (by rw [List.mem_singleton.mp h])
  all_goals
    simp only [List.mem_cons, List.not_mem_nil, or_false] at h
    rcases h with rfl | rfl | rfl | rfl <;> exact .inl (hhigh (by omega) (by omega))

section Alone

variable {c : Char} {b : UInt8} (hlow : b.toNat < 0x80) (hc : String.utf8EncodeChar c = [b])

include hlow

lemma isText_of_encoded {cs : List Char} {front back : List UInt8}
    (h : front ++ b :: back = cs.flatMap String.utf8EncodeChar) : IsText front ∧ IsText back := by
  induction cs generalizing front with
  | nil => simp at h
  | cons c cs ih =>
    rw [List.flatMap_cons, List.append_eq_append_iff] at h
    -- the byte is beyond the first character, or it is that character
    rcases h with ⟨rest, hchar, hback⟩ | ⟨rest, rfl, hrest⟩
    · cases rest with
      | nil =>
        rw [List.append_nil] at hchar
        have hempty : [] ++ b :: back = cs.flatMap String.utf8EncodeChar := hback
        exact ⟨⟨_, hchar ▸ encode_char c⟩, (ih hempty).2⟩
      | cons b' rest =>
        obtain ⟨rfl, rfl⟩ := List.cons.inj hback
        have hmem : b ∈ String.utf8EncodeChar c := by simp [hchar]
        have halone := (high_or_alone hmem).resolve_left (by omega)
        rw [hchar, List.append_eq_singleton_iff] at halone
        rcases halone with ⟨rfl, hrest⟩ | ⟨_, hrest⟩
        · rw [List.tail_eq_of_cons_eq hrest]
          exact ⟨⟨"", rfl⟩, ⟨_, (encode_ofList cs).symm⟩⟩
        · cases hrest
    · obtain ⟨⟨s, rfl⟩, hback⟩ := ih hrest.symm
      exact ⟨⟨String.ofList [c] ++ s, by rw [encode_append, ← encode_char]⟩, hback⟩

include hc

lemma isText_append_cons {front back : List UInt8} :
    IsText (front ++ b :: back) ↔ IsText front ∧ IsText back := by
  constructor
  · rintro ⟨text, h⟩
    rw [← String.ofList_toList (s := text), encode_ofList] at h
    exact isText_of_encoded hlow h
  · rintro ⟨⟨s, rfl⟩, ⟨t, rfl⟩⟩
    refine ⟨s ++ (String.ofList [c] ++ t), ?_⟩
    rw [encode_append, encode_append, ← encode_char, hc, List.singleton_append]

end Alone

lemma ofNat_eq_slash {n : Nat} (h : Char.ofNat n = '/') : n = 0x2F := by
  by_cases hn : n.isValidChar
  · rw [Char.ofNat, dif_pos hn] at h
    exact congrArg Char.toNat h
  · rw [Char.ofNat, dif_neg hn] at h
    cases h

/-- An open character is none of the first 128, whatever bytes complete it. -/
structure Pending.Wide (p : Pending) : Prop where
  low : 0x80 ≤ p.low.toNat
  code : 2 ≤ p.code ∨ 2 ≤ p.need ∧ (1 ≤ p.code ∨ 0x90 ≤ p.low.toNat)

/-- What a byte begins, and that a character it leaves open is wide. -/
inductive Begins (b : UInt8) : Start → Prop
  | single : Begins b (.single (Char.ofNat b.toNat))
  | lead (p : Pending) (hp : p.Wide) : Begins b (.lead p)
  | stray : Begins b .stray

lemma begins_start (b : UInt8) : Begins b (start b) := by
  have hlow := Nat.le_refl 0x80
  rw [start]
  by_cases h80 : b.toNat < 0x80
  · rw [if_pos h80]
    exact .single
  rw [if_neg h80]
  by_cases hC2 : b.toNat < 0xC2
  · rw [if_pos hC2]
    exact .stray
  rw [if_neg hC2]
  by_cases hE0 : b.toNat < 0xE0
  · rw [if_pos hE0]
    exact .lead _ ⟨hlow, .inl (by dsimp only; omega)⟩
  rw [if_neg hE0]
  by_cases hE : b.toNat = 0xE0
  · rw [if_pos hE]
    exact .lead _ ⟨by decide, .inr (by decide)⟩
  rw [if_neg hE]
  by_cases hED : b.toNat = 0xED
  · rw [if_pos hED]
    exact .lead _ ⟨hlow, .inl (by decide)⟩
  rw [if_neg hED]
  by_cases hF0 : b.toNat < 0xF0
  · rw [if_pos hF0]
    exact .lead _ ⟨hlow, .inr ⟨Nat.le_refl 2, .inl (by dsimp only; omega)⟩⟩
  rw [if_neg hF0]
  by_cases hF : b.toNat = 0xF0
  · rw [if_pos hF]
    exact .lead _ ⟨by decide, .inr (by decide)⟩
  rw [if_neg hF]
  by_cases hF4 : b.toNat < 0xF4
  · rw [if_pos hF4]
    exact .lead _ ⟨hlow, .inr ⟨Nat.le_succ 2, .inl (by dsimp only; omega)⟩⟩
  rw [if_neg hF4]
  by_cases hlast : b.toNat = 0xF4
  · rw [if_pos hlast]
    exact .lead _ ⟨hlow, .inl (by decide)⟩
  · rw [if_neg hlast]
    exact .stray

lemma wide_of_start {b : UInt8} {p : Pending} (h : start b = .lead p) : p.Wide := by
  have hb := begins_start b
  rw [h] at hb
  cases hb with
  | lead _ hp => exact hp

lemma slash_of_start {b : UInt8} (h : start b = .single '/') : b = 0x2F := by
  have hb := begins_start b
  rw [h] at hb
  generalize hc : '/' = c at hb
  cases hb with
  | single => exact UInt8.toNat_inj.mp (ofNat_eq_slash hc.symm)

lemma Pending.Wide.push {p : Pending} (hp : p.Wide) {b : UInt8} (hb : p.low ≤ b) :
    (p.push b).Wide := by
  have hlow := UInt8.le_iff_toNat_le.mp hb
  have hwide := hp.low
  have hcode := hp.code
  exact ⟨Nat.le_refl 0x80, .inl (by simp only [Pending.push]; omega)⟩

lemma Pending.Wide.completed {p : Pending} (hp : p.Wide) (b : UInt8) (hneed : p.need ≤ 1) :
    Char.ofNat (p.push b).code ≠ '/' := by
  intro h
  have hslash := ofNat_eq_slash h
  have hcode := hp.code
  simp only [Pending.push] at hslash
  omega

lemma slash_mem_of_decodeFrom {o : Option Pending} {bytes : List UInt8}
    (ho : ∀ p ∈ o, p.Wide) (h : '/' ∈ decodeFrom o bytes) : 0x2F ∈ bytes := by
  have hnone : ∀ p ∈ (none : Option Pending), p.Wide := by simp
  have hsome {q : Pending} (hq : q.Wide) : ∀ p ∈ some q, p.Wide := by simpa using hq
  have hkept {cs : List Char} (hmem : '/' ∈ replacement :: cs) : '/' ∈ cs :=
    (List.mem_cons.mp hmem).resolve_left (by decide)
  fun_induction decodeFrom o bytes with
  | case1 => cases h
  | case2 => cases hkept h
  | case3 b bs c hb ih =>
    rcases List.mem_cons.mp h with rfl | h
    · exact slash_of_start hb ▸ List.mem_cons_self
    · exact List.mem_cons_of_mem b (ih hnone h)
  | case4 b bs p hb ih => exact List.mem_cons_of_mem b (ih (hsome (wide_of_start hb)) h)
  | case5 b bs _ ih => exact List.mem_cons_of_mem b (ih hnone (hkept h))
  | case6 p b bs _ hneed ih =>
    rcases List.mem_cons.mp h with hlast | h
    · exact ((ho p rfl).completed b hneed hlast.symm).elim
    · exact List.mem_cons_of_mem b (ih hnone h)
  | case7 p b bs hb _ ih => exact List.mem_cons_of_mem b (ih (hsome ((ho p rfl).push hb.1)) h)
  | case8 p b bs _ c hb ih =>
    rcases List.mem_cons.mp (hkept h) with rfl | h
    · exact slash_of_start hb ▸ List.mem_cons_self
    · exact List.mem_cons_of_mem b (ih hnone h)
  | case9 p b bs _ q hb ih =>
    exact List.mem_cons_of_mem b (ih (hsome (wide_of_start hb)) (hkept h))
  | case10 p b bs _ _ ih => exact List.mem_cons_of_mem b (ih hnone (hkept (hkept h)))

lemma slash_mem_of_lossyText {bytes : List UInt8} (h : '/' ∈ (lossyText bytes).toList) :
    0x2F ∈ bytes := by
  rw [lossyText, String.toList_ofList] at h
  exact slash_mem_of_decodeFrom (by simp) h

end SourceOutline.Utf8
