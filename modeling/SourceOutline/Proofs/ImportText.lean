import Mathlib.Data.List.Basic
import SourceOutline.Import.Text

/-!
An import statement says what it imports, whatever its layout: one decoder reads it back from
either form.
-/

namespace SourceOutline

def isQuote (c : Char) : Bool :=
  c == '\'' || c == '"'

def isNameChar (c : Char) : Bool :=
  !c.isWhitespace && !isQuote c && c != ',' && c != '\x7b' && c != '\x7d'

def isName (s : String) : Bool :=
  !s.toList.isEmpty && s.toList.all isNameChar

def Specifier.isPlain (s : Specifier) : Bool :=
  isName s.name && s.localName.all isName

/-- Whether all names are such that they stand out in a statement, and the library in quotes. -/
def NamedImport.isPlain (i : NamedImport) : Bool :=
  i.defaultName.all isName && i.specifiers.all Specifier.isPlain &&
    i.library.toList.all fun c => !isQuote c

namespace ImportText

def upTo (stop : Char → Bool) (s : List Char) : List Char :=
  s.takeWhile fun c => !stop c

def past (stop : Char → Bool) (s : List Char) : List Char :=
  (s.dropWhile fun c => !stop c).drop 1

def words (s : List Char) : List (List Char) :=
  (s.splitOnP Char.isWhitespace).filter fun w => !w.isEmpty

def specifier? (s : List Char) : Option Specifier :=
  match words s with
  | [name] => some ⟨.ofList name, none⟩
  | [name, ['a', 's'], other] => some ⟨.ofList name, some (.ofList other)⟩
  | _ => none

def specifiers (s : List Char) : List Specifier :=
  (s.splitOnP fun c => c == ',').filterMap specifier?

def defaultName? (front : List Char) : Option String :=
  if front.isEmpty then none else some (.ofList (upTo (· == ',') front))

def decode (text : String) : NamedImport :=
  let statement := past (· == ' ') text.toList
  let names := past (· == '\x7b') statement
  let source := past isQuote (past (· == '\x7d') names)
  { library := .ofList (upTo isQuote source)
    defaultName := defaultName? (upTo (· == '\x7b') statement)
    specifiers := specifiers (upTo (· == '\x7d') names)
    start := none
    stop := none }

lemma upTo_append {stop : Char → Bool} {a : List Char} {c : Char}
    (ha : ∀ x ∈ a, stop x = false) (hc : stop c = true) (b : List Char) :
    upTo stop (a ++ c :: b) = a := by
  have hpos : ∀ x ∈ a, (!stop x) = true := by simpa using ha
  rw [upTo, List.takeWhile_append_of_pos hpos, List.takeWhile_cons_of_neg (by simp [hc]),
    List.append_nil]

lemma past_append {stop : Char → Bool} {a : List Char} {c : Char}
    (ha : ∀ x ∈ a, stop x = false) (hc : stop c = true) (b : List Char) :
    past stop (a ++ c :: b) = b := by
  have hpos : ∀ x ∈ a, (!stop x) = true := by simpa using ha
  rw [past, List.dropWhile_append_of_pos hpos, List.dropWhile_cons_of_neg (by simp [hc])]
  rfl

lemma words_append {c : Char} (hc : c.isWhitespace = true) (a b : List Char) :
    words (a ++ c :: b) = words a ++ words b := by
  rw [words, List.splitOnP_append_cons a b hc, List.filter_append]
  rfl

lemma words_blank_append {s : List Char} (h : s.all Char.isWhitespace = true) (t : List Char) :
    words (s ++ t) = words t := by
  induction s with
  | nil => rfl
  | cons c s ih =>
    rw [List.all_cons, Bool.and_eq_true] at h
    have hc := words_append h.1 [] (s ++ t)
    rw [List.nil_append] at hc
    rw [List.cons_append, hc, ih h.2]
    rfl

lemma words_blank {s : List Char} (h : s.all Char.isWhitespace = true) : words s = [] := by
  have hs := words_blank_append h []
  rwa [List.append_nil] at hs

lemma words_append_blank {s : List Char} (h : s.all Char.isWhitespace = true) (t : List Char) :
    words (t ++ s) = words t := by
  cases s with
  | nil => rw [List.append_nil]
  | cons c s =>
    rw [List.all_cons, Bool.and_eq_true] at h
    rw [words_append h.1, words_blank h.2, List.append_nil]

lemma nameChar_of_mem {s : String} (h : isName s = true) {c : Char} (hc : c ∈ s.toList) :
    isNameChar c = true := by
  rw [isName, Bool.and_eq_true, List.all_eq_true] at h
  exact h.2 c hc

lemma words_name {s : String} (h : isName s = true) : words s.toList = [s.toList] := by
  have hs : ∀ c ∈ s.toList, c.isWhitespace = false := by
    intro c hc
    have hname := nameChar_of_mem h hc
    simp only [isNameChar, Bool.and_eq_true, Bool.not_eq_true'] at hname
    exact hname.1.1.1.1
  have hne : (!s.toList.isEmpty) = true := by
    rw [isName, Bool.and_eq_true] at h
    exact h.1
  rw [words, List.splitOnP_eq_singleton hs]
  exact List.filter_cons_of_pos hne

lemma words_render {s : Specifier} (h : s.isPlain = true) :
    words s.render.toList =
      s.name.toList :: (s.localName.map fun other => ["as".toList, other.toList]).getD [] := by
  rw [Specifier.isPlain, Bool.and_eq_true] at h
  have hname := words_name h.1
  rw [Specifier.render]
  cases hl : s.localName with
  | none => exact hname
  | some other =>
    have hother : words other.toList = [other.toList] := words_name (by simpa [hl] using h.2)
    have has : words "as".toList = ["as".toList] := rfl
    have htext : (s.name ++ " as " ++ other).toList =
        s.name.toList ++ ' ' :: ("as".toList ++ ' ' :: other.toList) := by
      simp
    rw [htext, words_append rfl, words_append rfl, hname, has, hother]
    rfl

lemma specifier?_padded {s : Specifier} (h : s.isPlain = true) {before after : List Char}
    (hb : before.all Char.isWhitespace = true) (ha : after.all Char.isWhitespace = true) :
    specifier? (before ++ s.render.toList ++ after) = some s := by
  rw [specifier?, words_append_blank ha, words_blank_append hb, words_render h]
  cases s with
  | mk name localName => cases localName <;> simp

lemma specifiers_append (a b : List Char) :
    specifiers (a ++ ',' :: b) = specifiers a ++ specifiers b := by
  rw [specifiers, List.splitOnP_append_cons a b rfl, List.filterMap_append]
  rfl

lemma specifiers_piece {s : List Char} (h : ',' ∉ s) :
    specifiers s = (specifier? s).toList := by
  have hs : ∀ c ∈ s, (c == ',') = false := by
    intro c hc
    rw [beq_eq_false_iff_ne]
    rintro rfl
    exact h hc
  rw [specifiers, List.splitOnP_eq_singleton hs]
  cases hp : specifier? s <;> simp [hp]

lemma char_of_mem_render {s : Specifier} (h : s.isPlain = true) {c : Char}
    (hc : c ∈ s.render.toList) : isNameChar c = true ∨ c = ' ' := by
  rw [Specifier.isPlain, Bool.and_eq_true] at h
  rw [Specifier.render] at hc
  cases hl : s.localName with
  | none =>
    rw [hl] at hc
    exact .inl (nameChar_of_mem h.1 hc)
  | some other =>
    have hother : isName other = true := by simpa [hl] using h.2
    have has : ∀ x ∈ " as ".toList, isNameChar x = true ∨ x = ' ' := by simp [isNameChar, isQuote]
    simp only [hl, String.toList_append, List.mem_append] at hc
    rcases hc with (hc | hc) | hc
    · exact .inl (nameChar_of_mem h.1 hc)
    · exact has c hc
    · exact .inl (nameChar_of_mem hother hc)

lemma not_mem_render {s : Specifier} (h : s.isPlain = true) {c : Char}
    (hn : isNameChar c = false) (hw : c.isWhitespace = false) : c ∉ s.render.toList := by
  intro hc
  rcases char_of_mem_render h hc with hc | rfl
  · simp [hn] at hc
  · exact absurd hw (by decide)

lemma not_mem_blank {s : List Char} (h : s.all Char.isWhitespace = true) {c : Char}
    (hw : c.isWhitespace = false) : c ∉ s := by
  intro hc
  have := List.all_eq_true.mp h c hc
  simp [hw] at this

lemma specifiers_blank {s : List Char} (h : s.all Char.isWhitespace = true) :
    specifiers s = [] := by
  rw [specifiers_piece (not_mem_blank h rfl), specifier?, words_blank h]
  rfl

lemma specifiers_padded {s : Specifier} (h : s.isPlain = true) {before after : List Char}
    (hb : before.all Char.isWhitespace = true) (ha : after.all Char.isWhitespace = true) :
    specifiers (before ++ s.render.toList ++ after) = [s] := by
  have hc : ',' ∉ before ++ s.render.toList ++ after :=
    List.not_mem_append (List.not_mem_append (not_mem_blank hb rfl) (not_mem_render h rfl rfl))
      (not_mem_blank ha rfl)
  rw [specifiers_piece hc, specifier?_padded h hb ha]
  rfl

def joined (gap indent : List Char) (ss : List Specifier) : List Char :=
  (',' :: gap).intercalate (ss.map fun s => indent ++ s.render.toList)

lemma joined_cons_cons (gap indent : List Char) (s t : Specifier) (ss : List Specifier) :
    joined gap indent (s :: t :: ss) =
      indent ++ s.render.toList ++ ',' :: (gap ++ joined gap indent (t :: ss)) := by
  simp [joined, List.intercalate_cons_cons]

lemma specifiers_joined {ss : List Specifier} (hss : ∀ s ∈ ss, s.isPlain = true)
    {before gap indent after : List Char} (hb : before.all Char.isWhitespace = true)
    (hg : gap.all Char.isWhitespace = true) (hi : indent.all Char.isWhitespace = true)
    (ha : after.all Char.isWhitespace = true) :
    specifiers (before ++ joined gap indent ss ++ after) = ss := by
  induction ss generalizing before with
  | nil =>
    apply specifiers_blank
    simp [joined, hb, ha]
  | cons s ss ih =>
    have hs : s.isPlain = true := hss s List.mem_cons_self
    have hpad : (before ++ indent).all Char.isWhitespace = true := by
      rw [List.all_append, hb, hi]
      rfl
    cases ss with
    | nil =>
      have hone := specifiers_padded hs hpad ha
      simpa [joined] using hone
    | cons t ss =>
      have hfirst : specifiers (before ++ indent ++ s.render.toList ++ []) = [s] :=
        specifiers_padded hs hpad rfl
      rw [List.append_nil] at hfirst
      -- The blanks after a comma are what stands before the next specifier.
      have hrest := ih (fun x hx => hss x (List.mem_cons_of_mem s hx)) hg
      have hsplit : before ++ joined gap indent (s :: t :: ss) ++ after =
          (before ++ indent ++ s.render.toList) ++
            ',' :: (gap ++ joined gap indent (t :: ss) ++ after) := by
        simp [joined_cons_cons]
      rw [hsplit, specifiers_append, hfirst, hrest]
      rfl

lemma not_mem_joined {ss : List Specifier} (hss : ∀ s ∈ ss, s.isPlain = true)
    {gap indent : List Char} (hg : gap.all Char.isWhitespace = true)
    (hi : indent.all Char.isWhitespace = true) {c : Char} (hn : isNameChar c = false)
    (hw : c.isWhitespace = false) (hc : c ≠ ',') : c ∉ joined gap indent ss := by
  induction ss with
  | nil => simp [joined]
  | cons s ss ih =>
    have hs : c ∉ indent ++ s.render.toList :=
      List.not_mem_append (not_mem_blank hi hw) (not_mem_render (hss s List.mem_cons_self) hn hw)
    cases ss with
    | nil => simpa [joined] using hs
    | cons t ss =>
      have hrest := ih fun x hx => hss x (List.mem_cons_of_mem s hx)
      have htail : c ∉ gap ++ joined gap indent (t :: ss) :=
        List.not_mem_append (not_mem_blank hg hw) hrest
      rw [joined_cons_cons]
      exact List.not_mem_append hs (List.not_mem_cons_of_ne_of_not_mem hc htail)

def front (i : NamedImport) : List Char :=
  (i.defaultName.map fun name => name.toList ++ [',', ' ']).getD []

lemma toList_opening (i : NamedImport) :
    i.opening.toList = "import".toList ++ ' ' :: (front i ++ ['\x7b']) := by
  rw [NamedImport.opening, front]
  cases i.defaultName with
  | none => rfl
  | some name => simp

def quoteChar : QuoteStyle → Char
  | .single => '\''
  | .double => '"'

lemma isQuote_quoteChar (q : QuoteStyle) : isQuote (quoteChar q) = true := by
  cases q <;> rfl

lemma toList_closing (i : NamedImport) (l : Layout) :
    (i.closing l).toList = '\x7d' :: (" from ".toList ++ quoteChar l.quote ::
      (i.library.toList ++ quoteChar l.quote :: l.eol.toList)) := by
  rw [NamedImport.closing]
  cases l.quote <;> simp [QuoteStyle.mark, quoteChar]

lemma defaultName?_front {i : NamedImport} (h : i.defaultName.all isName = true) :
    defaultName? (front i) = i.defaultName := by
  rw [front]
  cases hd : i.defaultName with
  | none => rfl
  | some name =>
    rw [hd] at h
    have hcomma : ∀ c ∈ name.toList, (c == ',') = false := by
      intro c hc
      have hname := nameChar_of_mem h hc
      simp only [isNameChar, Bool.and_eq_true, bne_iff_ne] at hname
      exact beq_eq_false_iff_ne.mpr hname.1.1.2
    have hup : upTo (· == ',') (name.toList ++ [',', ' ']) = name.toList :=
      upTo_append hcomma rfl [' ']
    simp [defaultName?, hup]

lemma brace_not_mem_front {i : NamedImport} (h : i.defaultName.all isName = true) :
    '\x7b' ∉ front i := by
  rw [front]
  cases hd : i.defaultName with
  | none => exact List.not_mem_nil
  | some name =>
    rw [hd] at h
    intro hc
    simp only [Option.map_some, Option.getD_some, List.mem_append] at hc
    rcases hc with hc | hc
    · exact absurd (nameChar_of_mem h hc) (by decide)
    · exact absurd hc (by decide)

lemma decode_statement {i : NamedImport} (hi : i.isPlain = true) (l : Layout) {inner : String}
    (hb : '\x7d' ∉ inner.toList) :
    decode (i.opening ++ inner ++ i.closing l) =
      { i with specifiers := specifiers inner.toList, start := none, stop := none } := by
  simp only [NamedImport.isPlain, Bool.and_eq_true, List.all_eq_true, Bool.not_eq_true'] at hi
  obtain ⟨⟨hdefault, _⟩, hlibrary⟩ := hi
  have hopen : ∀ c ∈ front i, (c == '\x7b') = false := by
    intro c hc
    exact beq_eq_false_iff_ne.mpr fun he => brace_not_mem_front hdefault (he ▸ hc)
  have hclose : ∀ c ∈ inner.toList, (c == '\x7d') = false := by
    intro c hc
    exact beq_eq_false_iff_ne.mpr fun he => hb (he ▸ hc)
  have hword : ∀ c ∈ "import".toList, (c == ' ') = false := by simp
  have hfrom : ∀ c ∈ " from ".toList, isQuote c = false := by simp [isQuote]
  have hq := isQuote_quoteChar l.quote
  have htext : (i.opening ++ inner ++ i.closing l).toList = "import".toList ++ ' ' ::
      (front i ++ '\x7b' :: (inner.toList ++ '\x7d' :: (" from ".toList ++ quoteChar l.quote ::
        (i.library.toList ++ quoteChar l.quote :: l.eol.toList)))) := by
    rw [String.toList_append, String.toList_append, toList_opening, toList_closing]
    simp only [List.append_assoc, List.cons_append, List.nil_append]
  simp only [decode, htext, past_append hword (beq_self_eq_true ' '),
    past_append hopen (beq_self_eq_true '\x7b'), upTo_append hopen (beq_self_eq_true '\x7b'),
    past_append hclose (beq_self_eq_true '\x7d'), upTo_append hclose (beq_self_eq_true '\x7d'),
    past_append hfrom hq, upTo_append hlibrary hq, defaultName?_front hdefault,
    String.ofList_toList]

lemma space_blank (l : Layout) :
    (if l.spaceBraces then " " else "").toList.all Char.isWhitespace = true := by
  split <;> rfl

lemma indent_blank (l : Layout) :
    (NamedImport.indent l).toList.all Char.isWhitespace = true := by
  simp [NamedImport.indent]

def lineNames (l : Layout) (ss : List Specifier) : String :=
  (if l.spaceBraces then " " else "") ++ ", ".intercalate (ss.map Specifier.render) ++
    (if l.spaceBraces then " " else "")

lemma oneLine_eq (i : NamedImport) (l : Layout) (ss : List Specifier) :
    i.oneLine l (ss.map Specifier.render) = i.opening ++ lineNames l ss ++ i.closing l := by
  simp only [NamedImport.oneLine, lineNames, String.append_assoc]

lemma toList_lineNames (l : Layout) (ss : List Specifier) :
    (lineNames l ss).toList = (if l.spaceBraces then " " else "").toList ++
      joined [' '] [] ss ++ (if l.spaceBraces then " " else "").toList := by
  simp [lineNames, joined, Function.comp_def]

lemma not_mem_lineNames (l : Layout) {ss : List Specifier} (hss : ∀ s ∈ ss, s.isPlain = true)
    {c : Char} (hn : isNameChar c = false) (hw : c.isWhitespace = false) (hc : c ≠ ',') :
    c ∉ (lineNames l ss).toList := by
  have hspace := not_mem_blank (space_blank l) hw
  rw [toList_lineNames]
  exact List.not_mem_append (List.not_mem_append hspace (not_mem_joined hss rfl rfl hn hw hc))
    hspace

lemma decode_oneLine {i : NamedImport} (hi : i.isPlain = true) (l : Layout)
    {ss : List Specifier} (hss : ∀ s ∈ ss, s.isPlain = true) :
    decode (i.oneLine l (ss.map Specifier.render)) =
      { i with specifiers := ss, start := none, stop := none } := by
  have hspace := space_blank l
  rw [oneLine_eq, decode_statement hi l (not_mem_lineNames l hss rfl rfl (by decide)),
    toList_lineNames, specifiers_joined hss hspace rfl rfl hspace]

lemma specifiers_lines {ss : List Specifier} (hss : ∀ s ∈ ss, s.isPlain = true)
    {indent : List Char} (hi : indent.all Char.isWhitespace = true) (trailing : Bool) :
    specifiers (['\n'] ++ joined ['\n'] indent ss ++ (if trailing then [','] else []) ++ ['\n']) =
      ss := by
  cases trailing with
  | false =>
    rw [if_neg (by decide), List.append_nil]
    exact specifiers_joined hss rfl rfl hi rfl
  | true =>
    have hnames : specifiers (['\n'] ++ joined ['\n'] indent ss ++ []) = ss :=
      specifiers_joined hss rfl rfl hi rfl
    have hlast : specifiers ['\n'] = [] := specifiers_blank rfl
    have hsplit : ['\n'] ++ joined ['\n'] indent ss ++ [','] ++ ['\n'] =
        (['\n'] ++ joined ['\n'] indent ss) ++ ',' :: ['\n'] := by
      simp
    rw [List.append_nil] at hnames
    rw [if_pos rfl, hsplit, specifiers_append, hnames, hlast, List.append_nil]

def wrappedNames (l : Layout) (ss : List Specifier) : String :=
  "\n" ++ ",\n".intercalate
    ((ss.map Specifier.render).map fun name => NamedImport.indent l ++ name) ++
    (if l.trailingComma then "," else "") ++ "\n"

lemma wrapped_eq (i : NamedImport) (l : Layout) (ss : List Specifier) :
    i.wrapped l (ss.map Specifier.render) = i.opening ++ wrappedNames l ss ++ i.closing l := by
  simp only [NamedImport.wrapped, wrappedNames, String.append_assoc]

lemma toList_wrappedNames (l : Layout) (ss : List Specifier) :
    (wrappedNames l ss).toList = ['\n'] ++ joined ['\n'] (NamedImport.indent l).toList ss ++
      (if l.trailingComma then [','] else []) ++ ['\n'] := by
  have hcomma : (if l.trailingComma then "," else "").toList =
      if l.trailingComma then [','] else [] := by
    split <;> rfl
  simp [wrappedNames, joined, Function.comp_def, hcomma]

lemma not_mem_wrappedNames (l : Layout) {ss : List Specifier} (hss : ∀ s ∈ ss, s.isPlain = true)
    {c : Char} (hn : isNameChar c = false) (hw : c.isWhitespace = false) (hc : c ≠ ',') :
    c ∉ (wrappedNames l ss).toList := by
  have hbreak : c ∉ ['\n'] := not_mem_blank rfl hw
  have hcomma : c ∉ if l.trailingComma then [','] else [] := by
    split
    · simpa using hc
    · exact List.not_mem_nil
  have hnames : c ∉ joined ['\n'] (NamedImport.indent l).toList ss :=
    not_mem_joined hss rfl (indent_blank l) hn hw hc
  rw [toList_wrappedNames]
  exact List.not_mem_append (List.not_mem_append (List.not_mem_append hbreak hnames) hcomma) hbreak

lemma decode_wrapped {i : NamedImport} (hi : i.isPlain = true) (l : Layout)
    {ss : List Specifier} (hss : ∀ s ∈ ss, s.isPlain = true) :
    decode (i.wrapped l (ss.map Specifier.render)) =
      { i with specifiers := ss, start := none, stop := none } := by
  rw [wrapped_eq, decode_statement hi l (not_mem_wrappedNames l hss rfl rfl (by decide)),
    toList_wrappedNames, specifiers_lines hss (indent_blank l)]

lemma plain_sorted {i : NamedImport} (hi : i.isPlain = true) (fold : String → String) :
    ∀ s ∈ Specifier.sortBy fold i.specifiers, s.isPlain = true := by
  intro s hs
  simp only [NamedImport.isPlain, Bool.and_eq_true, List.all_eq_true] at hi
  exact hi.1.2 s (List.mem_mergeSort.mp hs)

lemma decode_renderBy {i : NamedImport} (hi : i.isPlain = true) (fold : String → String)
    (l : Layout) :
    decode (i.renderBy fold l) =
      { i with specifiers := Specifier.sortBy fold i.specifiers, start := none, stop := none } := by
  have hss := plain_sorted hi fold
  rw [NamedImport.renderBy]
  split
  · exact decode_oneLine hi l hss
  · exact decode_wrapped hi l hss

end ImportText

theorem import_text_determines_import :
    (∀ (i : NamedImport) (l : Layout), i.isPlain = true →
      ImportText.decode (i.render l) =
        { i with
          specifiers := Specifier.sortBy lowercase i.specifiers
          start := none
          stop := none }) ∧
    ∀ (i j : NamedImport) (l k : Layout), i.isPlain = true → j.isPlain = true →
      i.render l = j.render k →
        i.defaultName = j.defaultName ∧ i.library = j.library ∧
          Specifier.sortBy lowercase i.specifiers = Specifier.sortBy lowercase j.specifiers := by
  have hdecode : ∀ (i : NamedImport) (l : Layout), i.isPlain = true → _ :=
    fun i l hi => ImportText.decode_renderBy hi lowercase l
  refine ⟨hdecode, ?_⟩
  intro i j l k hi hj h
  have hij := (hdecode i l hi).symm.trans ((congrArg ImportText.decode h).trans (hdecode j k hj))
  simp only [NamedImport.mk.injEq] at hij
  exact ⟨hij.2.1, hij.1, hij.2.2.1⟩

def aliasedImport : NamedImport :=
  ⟨"lib", some "as", [⟨"zeta", some "as"⟩, ⟨"Alpha", none⟩, ⟨"as", none⟩], none, none⟩

def narrowLayout : Layout :=
  ⟨"\x7d from 'x'", .single, false, 2, 0, true⟩

theorem aliasedImport_decoded :
    (aliasedImport.isPlain = true ∧ ImportText.decode (aliasedImport.render narrowLayout) =
      { aliasedImport with specifiers := Specifier.sortBy lowercase aliasedImport.specifiers }) ∧
    ∃ j, j ≠ aliasedImport ∧ j.isPlain = true ∧
      j.render narrowLayout = aliasedImport.render narrowLayout ∧
      j.library = aliasedImport.library := by
  have hplain : aliasedImport.isPlain = true := by decide
  refine ⟨⟨hplain, import_text_determines_import.1 aliasedImport narrowLayout hplain⟩,
    { aliasedImport with start := some 0 }, by decide, by decide, rfl, ?_⟩
  exact (import_text_determines_import.2 { aliasedImport with start := some 0 } aliasedImport
    narrowLayout narrowLayout (by decide) hplain rfl).2.1

end SourceOutline
