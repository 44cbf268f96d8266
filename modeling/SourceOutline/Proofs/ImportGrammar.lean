import SourceOutline.Proofs.ImportText

/-!
The grammar of import statements. A statement is written as the grammar wants it, except for one
without names that is wrapped with a trailing comma: the comma then follows no name.
-/

namespace SourceOutline

inductive Lexeme where
  | word (text : List Char)
  | comma
  | opening
  | closing
  | quoted (mark : Char) (text : List Char)
  deriving DecidableEq, Repr

namespace Lexeme

def ofMark? (c : Char) : Option Lexeme :=
  if c = ',' then some comma
  else if c = '\x7b' then some opening
  else if c = '\x7d' then some closing
  else none

def isBreak (c : Char) : Bool :=
  c.isWhitespace || (ofMark? c).isSome

def ofWord (text : List Char) : List Lexeme :=
  if text.isEmpty then [] else [word text]

/-- The lexemes of a text, where a word has already begun. -/
def readFrom (begun : List Char) : List Char → List Lexeme
  | [] => ofWord begun
  | c :: cs =>
    if isBreak c then ofWord begun ++ ((ofMark? c).toList ++ readFrom [] cs)
    else readFrom (begun ++ [c]) cs

def read (text : List Char) : List Lexeme :=
  readFrom [] text

/-- The lexemes up to the first text in quotes, and all that follows it. -/
def readStatement? (text : List Char) : Option (List Lexeme × List Char) :=
  match text.dropWhile fun c => !isQuote c with
  | [] => none
  | mark :: rest =>
    match rest.dropWhile fun c => !(c == mark) with
    | [] => none
    | _ :: after =>
      some (read (ImportText.upTo isQuote text) ++
        [quoted mark (ImportText.upTo (· == mark) rest)], after)

lemma readFrom_break {c : Char} (hc : isBreak c = true) (begun cs : List Char) :
    readFrom begun (c :: cs) = ofWord begun ++ ((ofMark? c).toList ++ read cs) := by
  rw [readFrom, if_pos hc, read]

lemma readFrom_unbroken_cons {c : Char} (hc : ¬ isBreak c = true) (begun cs : List Char) :
    readFrom begun (c :: cs) = readFrom (begun ++ [c]) cs := by
  rw [readFrom, if_neg hc]

lemma readFrom_append {c : Char} (hc : isBreak c = true) (begun a b : List Char) :
    readFrom begun (a ++ c :: b) = readFrom begun a ++ ((ofMark? c).toList ++ read b) := by
  induction a generalizing begun with
  | nil => exact readFrom_break hc begun b
  | cons d a ih =>
    rw [List.cons_append]
    by_cases hd : isBreak d = true
    · rw [readFrom_break hd, readFrom_break hd, read, read, ih, List.append_assoc,
        List.append_assoc]
    · rw [readFrom_unbroken_cons hd, readFrom_unbroken_cons hd, ih]

lemma read_append {c : Char} (hc : isBreak c = true) (a b : List Char) :
    read (a ++ c :: b) = read a ++ ((ofMark? c).toList ++ read b) :=
  readFrom_append hc [] a b

lemma isBreak_of_blank {c : Char} (hc : c.isWhitespace = true) : isBreak c = true := by
  rw [isBreak, hc, Bool.true_or]

lemma ofMark?_of_blank {c : Char} (hc : c.isWhitespace = true) : ofMark? c = none := by
  rw [ofMark?, if_neg, if_neg, if_neg] <;> rintro rfl <;> simp at hc

lemma read_append_blank {c : Char} (hc : c.isWhitespace = true) (a b : List Char) :
    read (a ++ c :: b) = read a ++ read b := by
  rw [read_append (isBreak_of_blank hc), ofMark?_of_blank hc]
  rfl

lemma read_blanks_append {s : List Char} (h : s.all Char.isWhitespace = true) (t : List Char) :
    read (s ++ t) = read t := by
  induction s with
  | nil => rfl
  | cons c s ih =>
    rw [List.all_cons, Bool.and_eq_true] at h
    have hc := read_append_blank h.1 [] (s ++ t)
    rw [List.nil_append] at hc
    rw [List.cons_append, hc, ih h.2]
    rfl

lemma read_append_blanks {s : List Char} (h : s.all Char.isWhitespace = true) (t : List Char) :
    read (t ++ s) = read t := by
  cases s with
  | nil => rw [List.append_nil]
  | cons c s =>
    rw [List.all_cons, Bool.and_eq_true] at h
    have hs := read_blanks_append h.2 []
    rw [List.append_nil] at hs
    rw [read_append_blank h.1, hs]
    exact List.append_nil _

lemma readFrom_unbroken {s : List Char} (h : ∀ c ∈ s, isBreak c = false) (begun : List Char) :
    readFrom begun s = ofWord (begun ++ s) := by
  induction s generalizing begun with
  | nil => rw [readFrom, List.append_nil]
  | cons c s ih =>
    rw [List.forall_mem_cons] at h
    rw [readFrom_unbroken_cons (by simp [h.1]), ih h.2, List.append_assoc, List.singleton_append]

lemma read_word {s : List Char} (hs : s ≠ []) (h : ∀ c ∈ s, isBreak c = false) :
    read s = [word s] := by
  rw [read, readFrom_unbroken h, List.nil_append, ofWord, if_neg (by simpa using hs)]

lemma isBreak_of_nameChar {c : Char} (h : isNameChar c = true) : isBreak c = false := by
  simp only [isNameChar, Bool.and_eq_true, Bool.not_eq_true', bne_iff_ne] at h
  obtain ⟨⟨⟨⟨hw, _⟩, hcomma⟩, hopen⟩, hclose⟩ := h
  rw [isBreak, hw, ofMark?, if_neg hcomma, if_neg hopen, if_neg hclose]
  rfl

lemma read_name {s : String} (h : isName s = true) : read s.toList = [word s.toList] := by
  apply read_word
  · rw [isName, Bool.and_eq_true] at h
    simpa using h.1
  · intro c hc
    exact isBreak_of_nameChar (ImportText.nameChar_of_mem h hc)

lemma readStatement?_quoted {before library : List Char} {mark : Char}
    (hb : ∀ c ∈ before, isQuote c = false) (hm : isQuote mark = true)
    (hl : ∀ c ∈ library, isQuote c = false) (after : List Char) :
    readStatement? (before ++ mark :: (library ++ mark :: after)) =
      some (read before ++ [quoted mark library], after) := by
  have hmark : ∀ c ∈ library, (c == mark) = false := by
    intro c hc
    rw [beq_eq_false_iff_ne]
    rintro rfl
    rw [hl c hc] at hm
    cases hm
  have hquote : (before ++ mark :: (library ++ mark :: after)).dropWhile (fun c => !isQuote c) =
      mark :: (library ++ mark :: after) := by
    rw [List.dropWhile_append_of_pos (by simpa using hb),
      List.dropWhile_cons_of_neg (by simp [hm])]
  have hclose : (library ++ mark :: after).dropWhile (fun c => !(c == mark)) = mark :: after := by
    rw [List.dropWhile_append_of_pos (by simpa using hmark),
      List.dropWhile_cons_of_neg (by simp)]
  simp only [readStatement?, hquote, hclose, ImportText.upTo_append hb hm,
    ImportText.upTo_append hmark (beq_self_eq_true mark)]

end Lexeme

/-- `name`, or `name as other`. -/
def Specifier.lexemes (s : Specifier) : List Lexeme :=
  .word s.name.toList ::
    (s.localName.map fun other => [.word "as".toList, .word other.toList]).getD []

namespace ImportGrammar

open Lexeme ImportText

/-- Specifiers with one comma between any two, and perhaps one after the last. -/
inductive Listed : List Specifier → List Lexeme → Prop
  | none : Listed [] []
  | last (s : Specifier) : Listed [s] s.lexemes
  | lastComma (s : Specifier) : Listed [s] (s.lexemes ++ [.comma])
  | more (s : Specifier) {ss : List Specifier} {ls : List Lexeme} (rest : Listed ss ls)
      (some : ss ≠ []) : Listed (s :: ss) (s.lexemes ++ .comma :: ls)

def defaultLexemes (name : Option String) : List Lexeme :=
  (name.map fun name => [.word name.toList, .comma]).getD []

/-- `import [name ,] { names } from "library"`. -/
def framed (name : Option String) (mark : Char) (library : String) (names : List Lexeme) :
    List Lexeme :=
  .word "import".toList :: (defaultLexemes name ++ .opening ::
    (names ++ [.closing, .word "from".toList, .quoted mark library.toList]))

def Statement (name : Option String) (ss : List Specifier) (mark : Char) (library : String)
    (ls : List Lexeme) : Prop :=
  ∃ names, Listed ss names ∧ ls = framed name mark library names

def IsStatement (ls : List Lexeme) : Prop :=
  ∃ name ss mark library, Statement name ss mark library ls

lemma Listed.nil_or_word {ss : List Specifier} {ls : List Lexeme} (h : Listed ss ls) :
    ls = [] ∨ ∃ text rest, ls = .word text :: rest := by
  cases h with
  | none => exact .inl rfl
  | last s => exact .inr ⟨_, _, rfl⟩
  | lastComma s => exact .inr ⟨_, _, rfl⟩
  | more s rest some => exact .inr ⟨_, _, rfl⟩

lemma not_isStatement_comma (name : Option String) (mark : Char) (library : String)
    (names : List Lexeme) : ¬ IsStatement (framed name mark library (.comma :: names)) := by
  rintro ⟨other, ss, mark', library', names', hlisted, h⟩
  have htail : .comma :: (names ++ [.closing, .word "from".toList, .quoted mark library.toList]) =
      names' ++ [.closing, .word "from".toList, .quoted mark' library'.toList] := by
    cases name <;> cases other <;> simp [framed, defaultLexemes] at h ⊢
    · exact h
    · exact h.2
  -- names begin with a word, never with a comma
  rcases hlisted.nil_or_word with rfl | ⟨text, rest, rfl⟩
  · simp at htail
  · simp at htail

def separated (ss : List Specifier) : List Lexeme :=
  [Lexeme.comma].intercalate (ss.map Specifier.lexemes)

lemma separated_cons_cons (s t : Specifier) (ss : List Specifier) :
    separated (s :: t :: ss) = s.lexemes ++ .comma :: separated (t :: ss) := by
  simp [separated, List.intercalate_cons_cons]

lemma listed_separated (ss : List Specifier) : Listed ss (separated ss) := by
  induction ss with
  | nil => exact .none
  | cons s ss ih =>
    cases ss with
    | nil => simpa [separated] using Listed.last s
    | cons t ss =>
      rw [separated_cons_cons]
      exact .more s ih (List.cons_ne_nil t ss)

lemma listed_separated_comma {ss : List Specifier} (h : ss ≠ []) :
    Listed ss (separated ss ++ [.comma]) := by
  induction ss with
  | nil => exact absurd rfl h
  | cons s ss ih =>
    cases ss with
    | nil => simpa [separated] using Listed.lastComma s
    | cons t ss =>
      rw [separated_cons_cons, List.append_assoc, List.cons_append]
      exact .more s (ih (List.cons_ne_nil t ss)) (List.cons_ne_nil t ss)

lemma statement_framed {ss : List Specifier} {comma : Bool} (h : ss ≠ [] ∨ comma = false)
    (name : Option String) (mark : Char) (library : String) :
    Statement name ss mark library
      (framed name mark library (separated ss ++ if comma then [.comma] else [])) := by
  refine ⟨_, ?_, rfl⟩
  cases comma with
  | false => simpa using listed_separated ss
  | true => exact listed_separated_comma (h.resolve_right (by decide))

lemma read_render {s : Specifier} (h : s.isPlain = true) : read s.render.toList = s.lexemes := by
  rw [Specifier.isPlain, Bool.and_eq_true] at h
  have hname := read_name h.1
  rw [Specifier.render, Specifier.lexemes]
  cases hl : s.localName with
  | none => exact hname
  | some other =>
    have hother : read other.toList = [.word other.toList] :=
      read_name (by simpa [hl] using h.2)
    have has : read "as".toList = [.word "as".toList] := by decide
    have htext : (s.name ++ " as " ++ other).toList =
        s.name.toList ++ ' ' :: ("as".toList ++ ' ' :: other.toList) := by
      simp
    rw [htext, read_append_blank rfl, read_append_blank rfl, hname, has, hother]
    rfl

lemma read_joined {ss : List Specifier} (hss : ∀ s ∈ ss, s.isPlain = true)
    {before gap indent after : List Char} (hb : before.all Char.isWhitespace = true)
    (hg : gap.all Char.isWhitespace = true) (hi : indent.all Char.isWhitespace = true)
    (ha : after.all Char.isWhitespace = true) :
    read (before ++ joined gap indent ss ++ after) = separated ss := by
  rw [read_append_blanks ha, read_blanks_append hb]
  induction ss with
  | nil => rfl
  | cons s ss ih =>
    have hs : read (indent ++ s.render.toList) = s.lexemes := by
      rw [read_blanks_append hi, read_render (hss s List.mem_cons_self)]
    cases ss with
    | nil => simpa [joined, separated] using hs
    | cons t ss =>
      have hrest := ih fun x hx => hss x (List.mem_cons_of_mem s hx)
      rw [joined_cons_cons, read_append rfl, hs, read_blanks_append hg, hrest,
        separated_cons_cons]
      rfl

lemma read_lineNames (l : Layout) {ss : List Specifier} (hss : ∀ s ∈ ss, s.isPlain = true) :
    read (lineNames l ss).toList = separated ss := by
  rw [toList_lineNames]
  exact read_joined hss (space_blank l) rfl rfl (space_blank l)

lemma read_wrappedNames (l : Layout) {ss : List Specifier} (hss : ∀ s ∈ ss, s.isPlain = true) :
    read (wrappedNames l ss).toList =
      separated ss ++ if l.trailingComma then [.comma] else [] := by
  have hnames : read (['\n'] ++ joined ['\n'] (NamedImport.indent l).toList ss ++ []) =
      separated ss :=
    read_joined hss rfl rfl (indent_blank l) rfl
  rw [List.append_nil] at hnames
  rw [toList_wrappedNames, read_append_blanks rfl]
  cases l.trailingComma with
  | false => simpa using hnames
  | true =>
    rw [if_pos rfl, read_append rfl, hnames]
    rfl

lemma read_front {i : NamedImport} (h : i.defaultName.all isName = true) :
    read (front i) = defaultLexemes i.defaultName := by
  rw [front]
  cases hd : i.defaultName with
  | none => rfl
  | some name =>
    rw [hd] at h
    have hname : read name.toList = [.word name.toList] := read_name h
    have htext := read_append (c := ',') rfl name.toList [' ']
    simp only [Option.map_some, Option.getD_some, htext, hname]
    rfl

lemma quote_not_mem_front {i : NamedImport} (h : i.defaultName.all isName = true) :
    ∀ c ∈ front i, isQuote c = false := by
  rw [front]
  cases hd : i.defaultName with
  | none => simp
  | some name =>
    rw [hd] at h
    intro c hc
    simp only [Option.map_some, Option.getD_some, List.mem_append] at hc
    rcases hc with hc | hc
    · have hname := nameChar_of_mem h hc
      simp only [isNameChar, Bool.and_eq_true, Bool.not_eq_true'] at hname
      exact hname.1.1.1.2
    · simp only [List.mem_cons, List.not_mem_nil, or_false] at hc
      rcases hc with rfl | rfl <;> rfl

lemma readStatement?_statement {i : NamedImport} (hi : i.isPlain = true) (l : Layout)
    {inner : String} (hq : ∀ c ∈ inner.toList, isQuote c = false) :
    readStatement? (i.opening ++ inner ++ i.closing l).toList =
      some (framed i.defaultName (quoteChar l.quote) i.library (read inner.toList),
        l.eol.toList) := by
  simp only [NamedImport.isPlain, Bool.and_eq_true, List.all_eq_true, Bool.not_eq_true'] at hi
  obtain ⟨⟨hdefault, _⟩, hlibrary⟩ := hi
  let before := "import".toList ++ ' ' ::
    (front i ++ '\x7b' :: (inner.toList ++ '\x7d' :: " from ".toList))
  have htext : (i.opening ++ inner ++ i.closing l).toList = before ++ quoteChar l.quote ::
      (i.library.toList ++ quoteChar l.quote :: l.eol.toList) := by
    rw [String.toList_append, String.toList_append, toList_opening, toList_closing]
    simp only [before, List.append_assoc, List.cons_append, List.nil_append]
  have hbefore : ∀ c ∈ before, isQuote c = false := by
    have hfront := quote_not_mem_front hdefault
    intro c hc
    simp only [before, List.mem_append, List.mem_cons] at hc
    rcases hc with hc | rfl | hc | rfl | hc | rfl | hc
    · revert c
      simp [isQuote]
    · rfl
    · exact hfront c hc
    · rfl
    · exact hq c hc
    · rfl
    · revert c
      simp [isQuote]
  have hread : read before = .word "import".toList :: (defaultLexemes i.defaultName ++ .opening ::
      (read inner.toList ++ [.closing, .word "from".toList])) := by
    have himport : read "import".toList = [.word "import".toList] := by decide
    have hfrom : read " from ".toList = [.word "from".toList] := by decide
    simp only [before, read_append_blank (c := ' ') rfl, read_append (c := '\x7b') rfl,
      read_append (c := '\x7d') rfl, himport, read_front hdefault, hfrom]
    rfl
  rw [htext, readStatement?_quoted hbefore (isQuote_quoteChar l.quote) hlibrary, hread]
  simp only [framed, List.cons_append, List.append_assoc, List.nil_append]

lemma quote_not_mem {s : List Char}
    (h : ∀ c, isNameChar c = false → c.isWhitespace = false → c ≠ ',' → c ∉ s) :
    ∀ c ∈ s, isQuote c = false := by
  intro c hc
  by_contra hq
  rw [Bool.not_eq_false, isQuote, Bool.or_eq_true, beq_iff_eq, beq_iff_eq] at hq
  rcases hq with rfl | rfl
  · exact h _ rfl rfl (by decide) hc
  · exact h _ rfl rfl (by decide) hc

lemma sortBy_eq_nil {fold : String → String} {ss : List Specifier} :
    Specifier.sortBy fold ss = [] ↔ ss = [] := by
  rw [← List.length_eq_zero_iff, ← List.length_eq_zero_iff, Specifier.sortBy, List.length_mergeSort]

lemma readStatement?_oneLine {i : NamedImport} (hi : i.isPlain = true) (l : Layout)
    {ss : List Specifier} (hss : ∀ s ∈ ss, s.isPlain = true) :
    readStatement? (i.oneLine l (ss.map Specifier.render)).toList =
      some (framed i.defaultName (quoteChar l.quote) i.library (separated ss), l.eol.toList) := by
  have hq := quote_not_mem fun c hn hw hc => not_mem_lineNames l hss hn hw hc
  rw [oneLine_eq, readStatement?_statement hi l hq, read_lineNames l hss]

lemma readStatement?_wrapped {i : NamedImport} (hi : i.isPlain = true) (l : Layout)
    {ss : List Specifier} (hss : ∀ s ∈ ss, s.isPlain = true) :
    readStatement? (i.wrapped l (ss.map Specifier.render)).toList =
      some (framed i.defaultName (quoteChar l.quote) i.library
        (separated ss ++ if l.trailingComma then [.comma] else []), l.eol.toList) := by
  have hq := quote_not_mem fun c hn hw hc => not_mem_wrappedNames l hss hn hw hc
  rw [wrapped_eq, readStatement?_statement hi l hq, read_wrappedNames l hss]

end ImportGrammar

open ImportGrammar

theorem import_text_is_grammatical_iff (i : NamedImport) (l : Layout) (hi : i.isPlain = true) :
    ∃ ls, Lexeme.readStatement? (i.render l).toList = some (ls, l.eol.toList) ∧
      (IsStatement ls ↔ i.specifiers ≠ [] ∨ l.trailingComma = false ∨
        (i.oneLine l []).length ≤ l.wrapThreshold.toNat) ∧
      (IsStatement ls → Statement i.defaultName (Specifier.sortBy lowercase i.specifiers)
        (ImportText.quoteChar l.quote) i.library ls) := by
  have hss := ImportText.plain_sorted hi lowercase
  have hnil : Specifier.sortBy lowercase i.specifiers = [] ↔ i.specifiers = [] := sortBy_eq_nil
  rw [NamedImport.render, NamedImport.renderBy]
  generalize Specifier.sortBy lowercase i.specifiers = ss at hss hnil
  by_cases hfits : (i.oneLine l (ss.map Specifier.render)).length ≤ l.wrapThreshold.toNat
  · have hstatement : Statement i.defaultName ss (ImportText.quoteChar l.quote) i.library _ :=
      ⟨_, listed_separated ss, rfl⟩
    rw [if_pos hfits]
    refine ⟨_, readStatement?_oneLine hi l hss, iff_of_true ⟨_, _, _, _, hstatement⟩ ?_,
      fun _ => hstatement⟩
    by_cases hs : i.specifiers = []
    · rw [hnil.mpr hs] at hfits
      exact .inr (.inr hfits)
    · exact .inl hs
  · rw [if_neg hfits]
    refine ⟨_, readStatement?_wrapped hi l hss, ?_⟩
    by_cases hgood : ss ≠ [] ∨ l.trailingComma = false
    · have hstatement :=
        statement_framed hgood i.defaultName (ImportText.quoteChar l.quote) i.library
      refine ⟨iff_of_true ⟨_, _, _, _, hstatement⟩ ?_, fun _ => hstatement⟩
      exact hgood.imp hnil.not.mp .inl
    · -- no names and yet a comma
      rw [not_or, not_not, Bool.not_eq_false] at hgood
      obtain ⟨rfl, hcomma⟩ := hgood
      have hbad := not_isStatement_comma i.defaultName (ImportText.quoteChar l.quote) i.library []
      rw [hcomma, if_pos rfl]
      refine ⟨iff_of_false hbad ?_, fun h => absurd h hbad⟩
      rintro (h | h | h)
      · exact h (hnil.mp rfl)
      · cases h
      · exact hfits h

theorem aliasedImport_is_grammatical :
    aliasedImport.isPlain = true ∧ ∃ ls,
      Lexeme.readStatement? (aliasedImport.render narrowLayout).toList =
        some (ls, narrowLayout.eol.toList) ∧
      Statement aliasedImport.defaultName
        (Specifier.sortBy lowercase aliasedImport.specifiers) '\'' "lib" ls := by
  have hplain : aliasedImport.isPlain = true := by decide
  obtain ⟨ls, hread, hiff, hsays⟩ :=
    import_text_is_grammatical_iff aliasedImport narrowLayout hplain
  exact ⟨hplain, ls, hread, hsays (hiff.mpr (.inl (by decide)))⟩

def emptyImport : NamedImport :=
  ⟨"x", none, [], none, none⟩

def wrappingLayout : Layout :=
  { Layout.standard with wrapThreshold := 0 }

theorem emptyImport_is_ungrammatical :
    emptyImport.isPlain = true ∧
      emptyImport.render wrappingLayout = "import \x7b\n,\n\x7d from \"x\";" ∧
      Lexeme.readStatement? (emptyImport.render wrappingLayout).toList =
        some ([.word "import".toList, .opening, .comma, .closing, .word "from".toList,
          .quoted '"' ['x']], [';']) ∧
      ¬ IsStatement [.word "import".toList, .opening, .comma, .closing, .word "from".toList,
        .quoted '"' ['x']] := by
  have hsorted : Specifier.sortBy lowercase emptyImport.specifiers = [] := sortBy_eq_nil.mpr rfl
  have htext : emptyImport.render wrappingLayout = "import \x7b\n,\n\x7d from \"x\";" := by
    rw [NamedImport.render, NamedImport.renderBy, hsorted]
    decide
  refine ⟨by decide, htext, ?_, not_isStatement_comma none '"' "x" []⟩
  rw [htext]
  decide

end SourceOutline
