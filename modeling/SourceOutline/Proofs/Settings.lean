import SourceOutline.Import.Layout
import SourceOutline.Proofs.Rows

/-!
Layouts are read setting by setting. An object gives a layout exactly when it gives none of the
known keys twice and each that it gives a value of the right kind; then each setting is what the
object says of it, and the standard one where it says nothing.
-/

namespace SourceOutline

namespace Json

lemma toName?_direct_eq_some_iff {j : Json} {name : String} :
    j.toName? .direct = some name ↔ j = .str name ∨ j = .obj [(name, .null)] := by
  constructor
  · intro h
    unfold toName? at h
    split at h
    · exact .inl (congrArg Json.str (Option.some.inj h))
    · rw [Option.some.inj h]
      exact .inr rfl
    · simp at h
    · simp at h
  · rintro (rfl | rfl)
    · rfl
    · rfl

lemma toText?_eq_some_iff {j : Json} {s : String} : j.toText? = some s ↔ j = .str s := by
  cases j <;> simp [toText?]

lemma toBool?_eq_some_iff {j : Json} {b : Bool} : j.toBool? = some b ↔ j = .bool b := by
  cases j <;> simp [toBool?]

lemma toNat?_eq_some_iff {j : Json} {n : Nat} : j.toNat? = some n ↔ j = .nat n := by
  cases j with
  | num x =>
    obtain ⟨negative, digits, scale⟩ := x
    cases negative <;> cases scale <;> simp [toNat?, Numeral.toNat?, nat, Numeral.ofNat]
  | _ => simp [toNat?, nat]

lemma toUInt64?_eq_some_iff {j : Json} {n : UInt64} :
    j.toUInt64? = some n ↔ j = .nat n.toNat := by
  constructor
  · intro h
    obtain ⟨m, hm, hn⟩ := Option.bind_eq_some_iff.mp h
    rw [Option.ite_none_right_eq_some, Option.some.injEq] at hn
    obtain ⟨hlt, rfl⟩ := hn
    rw [toNat?_eq_some_iff.mp hm]
    exact congrArg nat (UInt64.toNat_ofNat_of_lt' hlt).symm
  · rintro rfl
    have hn : n.toNat < UInt64.size := n.toNat_lt
    simp [toUInt64?, nat, toNat?, Numeral.ofNat, Numeral.toNat?, hn]

end Json

namespace QuoteStyle

lemma ofMark?_eq_some_iff {mark : String} {q : QuoteStyle} :
    ofMark? mark = some q ↔ mark = q.mark := by
  constructor
  · intro h
    unfold ofMark? at h
    split at h
    · rw [← Option.some.inj h]
      rfl
    · rw [← Option.some.inj h]
      rfl
    · simp at h
  · rintro rfl
    cases q <;> rfl

lemma ofJson?_eq_some_iff {j : Json} {q : QuoteStyle} :
    ofJson? j = some q ↔ j = .str q.mark ∨ j = .obj [(q.mark, .null)] := by
  simp only [ofJson?, Option.bind_eq_some_iff, ofMark?_eq_some_iff, exists_eq_right]
  exact Json.toName?_direct_eq_some_iff

end QuoteStyle

namespace Layout

inductive Kind where
  | text
  | quote
  | truth
  | count

namespace Kind

def Value : Kind → Type
  | text => String
  | quote => QuoteStyle
  | truth => Bool
  | count => UInt64

/-- Whether a JSON value is written as one of this kind, and which one it is. A quote style is its
mark, or an object whose one key is the mark and holds nothing; a count has digits only. -/
def Spells : (k : Kind) → Json → k.Value → Prop
  | text, j, (s : String) => j = .str s
  | quote, j, (q : QuoteStyle) => j = .str q.mark ∨ j = .obj [(q.mark, .null)]
  | truth, j, (b : Bool) => j = .bool b
  | count, j, (n : UInt64) => j = .nat n.toNat

def read? : (k : Kind) → Json → Option k.Value
  | text => Json.toText?
  | quote => QuoteStyle.ofJson?
  | truth => Json.toBool?
  | count => Json.toUInt64?

def write : (k : Kind) → k.Value → Json
  | text, (s : String) => .str s
  | quote, (q : QuoteStyle) => .str q.mark
  | truth, (b : Bool) => .bool b
  | count, (n : UInt64) => .nat n.toNat

lemma read?_eq_some_iff {k : Kind} {j : Json} {x : k.Value} :
    k.read? j = some x ↔ k.Spells j x := by
  cases k with
  | text => exact Json.toText?_eq_some_iff
  | quote => exact QuoteStyle.ofJson?_eq_some_iff
  | truth => exact Json.toBool?_eq_some_iff
  | count => exact Json.toUInt64?_eq_some_iff

lemma spells_write (k : Kind) (x : k.Value) : k.Spells (k.write x) x := by
  cases k with
  | text => rfl
  | quote => exact .inl rfl
  | truth => rfl
  | count => rfl

end Kind

inductive Setting where
  | eol
  | quote
  | spaceBraces
  | tabSize
  | wrapThreshold
  | trailingComma

namespace Setting

def all : List Setting :=
  [eol, quote, spaceBraces, tabSize, wrapThreshold, trailingComma]

def key : Setting → String
  | eol => "eol"
  | quote => "stringQuoteStyle"
  | spaceBraces => "spaceBraces"
  | tabSize => "tabSize"
  | wrapThreshold => "multiLineWrapThreshold"
  | trailingComma => "multiLineTrailingComma"

def kind : Setting → Kind
  | eol => .text
  | quote => .quote
  | spaceBraces => .truth
  | tabSize => .count
  | wrapThreshold => .count
  | trailingComma => .truth

lemma mem_all (s : Setting) : s ∈ all := by
  cases s <;> simp [all]

lemma nodup_keys : (all.map key).Nodup := by
  decide

lemma key_injective : Function.Injective key := by
  intro s t h
  exact List.inj_on_of_nodup_map nodup_keys s.mem_all t.mem_all h

end Setting

def get (l : Layout) : (s : Setting) → s.kind.Value
  | .eol => l.eol
  | .quote => l.quote
  | .spaceBraces => l.spaceBraces
  | .tabSize => l.tabSize
  | .wrapThreshold => l.wrapThreshold
  | .trailingComma => l.trailingComma

def ofSettings (f : (s : Setting) → s.kind.Value) : Layout :=
  ⟨f .eol, f .quote, f .spaceBraces, f .tabSize, f .wrapThreshold, f .trailingComma⟩

lemma get_ofSettings (f : (s : Setting) → s.kind.Value) (s : Setting) :
    (ofSettings f).get s = f s := by
  cases s <;> rfl

lemma toJson_eq (l : Layout) :
    l.toJson = .obj (Setting.all.map fun s => (s.key, s.kind.write (l.get s))) :=
  rfl

def setting? (fields : List (String × Json)) (s : Setting) : Option s.kind.Value :=
  (Json.unique? s.key fields).bind (Json.defaulted (standard.get s) s.kind.read?)

/-- Of a setting an object says the value under its key, or the standard one where the key does not
occur. -/
structure Gives (fields : List (String × Json)) (s : Setting) (x : s.kind.Value) : Prop where
  given : ∀ v, (s.key, v) ∈ fields → s.kind.Spells v x
  absent : s.key ∉ fields.map Prod.fst → x = standard.get s

/-- No setting is given twice, and each that is given has a value of its kind. Keys that belong to
no setting do not count. -/
structure Admissible (fields : List (String × Json)) : Prop where
  once : ∀ s : Setting, (fields.map Prod.fst).count s.key ≤ 1
  typed : ∀ (s : Setting) (v : Json), (s.key, v) ∈ fields → ∃ x, s.kind.Spells v x

section Objects

variable {fields : List (String × Json)} {l : Layout}

-- All keys are looked up before the first value is read, so each setting takes a fact from the row
-- and one from the reading.
lemma setting?_of_ofJson? (h : ofJson? (.obj fields) = some l) (s : Setting) :
    setting? fields s = some (l.get s) := by
  unfold ofJson? at h
  split at h
  · rename_i eol quote spaceBraces tabSize wrapThreshold trailingComma hrow
    simp only [Json.partialRow?, mapM_eq_some_iff, keys, List.forall₂_cons] at hrow
    obtain ⟨heol, hquote, hspace, htab, hwrap, hcomma, -⟩ := hrow
    simp only [Option.bind_eq_bind, Option.bind_eq_some_iff, Option.pure_def,
      Option.some.injEq] at h
    obtain ⟨eol, heol', quote, hquote', space, hspace', tab, htab', wrap, hwrap', comma, hcomma',
      rfl⟩ := h
    cases s with
    | eol => exact Option.bind_eq_some_iff.mpr ⟨_, heol, heol'⟩
    | quote => exact Option.bind_eq_some_iff.mpr ⟨_, hquote, hquote'⟩
    | spaceBraces => exact Option.bind_eq_some_iff.mpr ⟨_, hspace, hspace'⟩
    | tabSize => exact Option.bind_eq_some_iff.mpr ⟨_, htab, htab'⟩
    | wrapThreshold => exact Option.bind_eq_some_iff.mpr ⟨_, hwrap, hwrap'⟩
    | trailingComma => exact Option.bind_eq_some_iff.mpr ⟨_, hcomma, hcomma'⟩
  · simp at h

lemma ofJson?_of_setting? (h : ∀ s, setting? fields s = some (l.get s)) :
    ofJson? (.obj fields) = some l := by
  have hcolumn := fun s => Option.bind_eq_some_iff.mp (h s)
  obtain ⟨eol, heol, heol'⟩ := hcolumn .eol
  obtain ⟨quote, hquote, hquote'⟩ := hcolumn .quote
  obtain ⟨space, hspace, hspace'⟩ := hcolumn .spaceBraces
  obtain ⟨tab, htab, htab'⟩ := hcolumn .tabSize
  obtain ⟨wrap, hwrap, hwrap'⟩ := hcolumn .wrapThreshold
  obtain ⟨comma, hcomma, hcomma'⟩ := hcolumn .trailingComma
  have hrow : (Json.obj fields).partialRow? keys =
      some [eol, quote, space, tab, wrap, comma] := by
    simp only [Json.partialRow?, mapM_eq_some_iff, keys, List.forall₂_cons]
    exact ⟨heol, hquote, hspace, htab, hwrap, hcomma, .nil⟩
  simp only [ofJson?, hrow, Option.bind_eq_bind, Option.bind_eq_some_iff]
  exact ⟨_, heol', _, hquote', _, hspace', _, htab', _, hwrap', _, hcomma', rfl⟩

lemma ofJson?_eq_some_iff :
    ofJson? (.obj fields) = some l ↔ ∀ s, setting? fields s = some (l.get s) :=
  ⟨setting?_of_ofJson?, ofJson?_of_setting?⟩

lemma setting?_eq_some_iff {s : Setting} {x : s.kind.Value} :
    setting? fields s = some x ↔
      (fields.map Prod.fst).count s.key ≤ 1 ∧ Gives fields s x := by
  constructor
  · intro h
    obtain ⟨column, hcolumn, hx⟩ := Option.bind_eq_some_iff.mp h
    refine ⟨Json.exists_unique?_iff.mp ⟨column, hcolumn⟩, ?_, ?_⟩
    · intro v hv
      rw [Json.unique?_of_mem hv hcolumn] at hx
      exact Kind.read?_eq_some_iff.mp hx
    · intro hkey
      rw [Json.unique?_of_not_mem hkey, Option.some.injEq] at hcolumn
      rw [← hcolumn] at hx
      exact (Option.some.inj hx).symm
  · rintro ⟨honce, h⟩
    obtain ⟨column, hcolumn⟩ := Json.exists_unique?_iff.mpr honce
    rw [setting?, hcolumn, Option.bind_some]
    cases column with
    | none => rw [Json.defaulted, h.absent (Json.not_mem_of_unique? hcolumn)]
    | some v => exact Kind.read?_eq_some_iff.mpr (h.given v (Json.mem_of_unique? hcolumn))

lemma exists_setting?_iff {s : Setting} :
    (∃ x, setting? fields s = some x) ↔
      (fields.map Prod.fst).count s.key ≤ 1 ∧
        ∀ v, (s.key, v) ∈ fields → ∃ x, s.kind.Spells v x := by
  constructor
  · rintro ⟨x, hx⟩
    obtain ⟨honce, h⟩ := setting?_eq_some_iff.mp hx
    exact ⟨honce, fun v hv => ⟨x, h.given v hv⟩⟩
  · rintro ⟨honce, htyped⟩
    obtain ⟨column, hcolumn⟩ := Json.exists_unique?_iff.mpr honce
    rw [setting?, hcolumn, Option.bind_some]
    cases column with
    | none => exact ⟨standard.get s, rfl⟩
    | some v =>
      obtain ⟨x, hx⟩ := htyped v (Json.mem_of_unique? hcolumn)
      exact ⟨x, Kind.read?_eq_some_iff.mpr hx⟩

lemma setting?_congr {fields' : List (String × Json)} {s : Setting} {x y : s.kind.Value}
    (h : ∀ v, (s.key, v) ∈ fields ↔ (s.key, v) ∈ fields') (hx : setting? fields s = some x)
    (hy : setting? fields' s = some y) : x = y := by
  obtain ⟨column, hcolumn, hx⟩ := Option.bind_eq_some_iff.mp hx
  obtain ⟨column', hcolumn', hy⟩ := Option.bind_eq_some_iff.mp hy
  have hsame : column = column' := by
    apply Option.ext
    intro v
    rw [← Json.mem_iff_of_unique? hcolumn, ← Json.mem_iff_of_unique? hcolumn']
    exact h v
  subst hsame
  exact Option.some.inj (hx.symm.trans hy)

lemma exists_ofJson?_iff : (∃ l, ofJson? (.obj fields) = some l) ↔ Admissible fields := by
  constructor
  · rintro ⟨l, hl⟩
    have h := fun s => exists_setting?_iff.mp ⟨_, ofJson?_eq_some_iff.mp hl s⟩
    exact ⟨fun s => (h s).1, fun s => (h s).2⟩
  · intro h
    choose f hf using fun s => exists_setting?_iff.mpr ⟨h.once s, h.typed s⟩
    refine ⟨ofSettings f, ofJson?_eq_some_iff.mpr fun s => ?_⟩
    rw [get_ofSettings]
    exact hf s

end Objects

lemma ofJson?_toJson (l : Layout) : ofJson? l.toJson = some l := by
  rw [toJson_eq, ofJson?_eq_some_iff]
  intro s
  have hkeys : (Setting.all.map fun s => (s.key, s.kind.write (l.get s))).map Prod.fst = keys :=
    rfl
  rw [setting?_eq_some_iff, hkeys]
  refine ⟨List.nodup_iff_count_le_one.mp Setting.nodup_keys s.key, ?_, ?_⟩
  · intro v hv
    obtain ⟨t, -, ht⟩ := List.mem_map.mp hv
    obtain ⟨hkey, rfl⟩ := Prod.mk.inj ht
    obtain rfl := Setting.key_injective hkey
    exact Kind.spells_write _ _
  · intro hkey
    exact absurd (List.mem_map_of_mem s.mem_all) (hkeys ▸ hkey)

theorem layouts_are_read_by_setting :
    (∀ fields : List (String × Json),
      (∃ l, ofJson? (.obj fields) = some l) ↔ Admissible fields) ∧
    (∀ (fields : List (String × Json)) (l : Layout), ofJson? (.obj fields) = some l →
      ∀ s, Gives fields s (l.get s)) ∧
    (∀ (s : Setting) (fields fields' : List (String × Json)) (l l' : Layout),
      (∀ v, (s.key, v) ∈ fields ↔ (s.key, v) ∈ fields') →
      ofJson? (.obj fields) = some l → ofJson? (.obj fields') = some l' →
      l.get s = l'.get s) ∧
    ∀ l : Layout, ofJson? l.toJson = some l := by
  refine ⟨fun fields => exists_ofJson?_iff, ?_, ?_, ofJson?_toJson⟩
  · intro fields l hl s
    exact (setting?_eq_some_iff.mp (ofJson?_eq_some_iff.mp hl s)).2
  · intro s fields fields' l l' h hl hl'
    exact setting?_congr h (ofJson?_eq_some_iff.mp hl s) (ofJson?_eq_some_iff.mp hl' s)

def editorFields : List (String × Json) :=
  [("editorTheme", .str "dark"), ("tabSize", .nat 2), ("stringQuoteStyle", .obj [("'", .null)])]

def editorLayout : Layout :=
  { standard with quote := .single, tabSize := 2 }

theorem editorFields_read :
    Admissible editorFields ∧
    ofJson? (.obj editorFields) = some editorLayout ∧
    (∀ s, Gives editorFields s (editorLayout.get s)) ∧
    editorLayout.get .tabSize = Layout.get { standard with tabSize := 2 } .tabSize :=
  have hread : ofJson? (.obj editorFields) = some editorLayout := by rfl
  have htab : ofJson? (.obj [("tabSize", .nat 2)]) = some { standard with tabSize := 2 } := by rfl
  have h := layouts_are_read_by_setting
  ⟨(h.1 editorFields).mp ⟨_, hread⟩, hread, h.2.1 _ _ hread,
    h.2.2.1 .tabSize _ _ _ _ (by simp [editorFields, Setting.key]) hread htab⟩

end Layout

end SourceOutline
