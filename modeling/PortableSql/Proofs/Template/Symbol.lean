import PortableSql.Proofs.Template.Reading
import PortableSql.Proofs.Text.Ascii

/-!
# Reading back the symbols of a tag

A tag can be written from single spaces, names, strings and a few operators. If no two names and no
two spaces stand side by side, and every bracket that is closed was opened before, the reader finds
these symbols in it again. So the tokens of a tag are known before it is read.
-/

namespace PortableSql

/-! ## Characters -/

namespace Text

/-- Letters, digits and underscores are in ASCII. -/
theorem toNat_lt_of_isWordChar {c : Char} (hc : isWordChar c = true) : c.toNat < 128 := by
  have hto (d : Char) : c ≤ d ↔ c.toNat ≤ d.toNat := Iff.rfl
  have hdigit : c.isDigit = ('0' ≤ c && c ≤ '9') := rfl
  rw [isWordChar_eq, hdigit] at hc
  simp only [Bool.or_eq_true, Bool.and_eq_true, decide_eq_true_eq, beq_iff_eq, hto] at hc
  rcases hc with ((h | h) | h) | rfl
  · exact Nat.lt_of_le_of_lt h.2 (by decide)
  · exact Nat.lt_of_le_of_lt h.2 (by decide)
  · exact Nat.lt_of_le_of_lt h.2 (by decide)
  · decide

/-- What holds of each word character of ASCII holds of all of them. -/
theorem forall_word {p : Char → Bool}
    (hall : (List.range 128).all (fun n => !isWordChar (Char.ofNat n) || p (Char.ofNat n)) = true)
    {c : Char} (hc : isWordChar c = true) : p c = true := by
  have hone := forall_ascii (p := fun c => !isWordChar c || p c) hall (toNat_lt_of_isWordChar hc)
  simpa [hc] using hone

/-- Letters, digits and underscores stand in names. -/
theorem isNameChar_of_isWordChar {c : Char} (hc : isWordChar c = true) : isNameChar c = true :=
  forall_word (by decide) hc

/-- Letters, digits and underscores are parts of identifiers. -/
theorem isIdentifierPart_of_isWordChar {c : Char} (hc : isWordChar c = true) :
    isIdentifierPart c = true :=
  forall_word (by decide) hc

/-- Letters, digits and underscores are no blanks. -/
theorem isBlank_of_isWordChar {c : Char} (hc : isWordChar c = true) : isBlank c = false := by
  simpa using forall_word (p := fun c => !isBlank c) (by decide) hc

/-- A word character is a digit of some script only if it is one of ASCII. -/
theorem isDigit_of_isWordChar {c : Char} (hc : isWordChar c = true) (hdigit : c.isDigit = false) :
    isDigit c = false := by
  simpa [hdigit] using forall_word (p := fun c => c.isDigit || !isDigit c) (by decide) hc

/-- Letters and underscores start identifiers. -/
theorem isIdentifierStart_of_isWordChar {c : Char} (hc : isWordChar c = true)
    (hdigit : c.isDigit = false) : isIdentifierStart c = true := by
  simpa [hdigit] using forall_word (p := fun c => c.isDigit || isIdentifierStart c) (by decide) hc

/-- A name in ASCII is an identifier. -/
theorem isIdentifier_of_isAsciiName {t : Text} (ht : isAsciiName t = true) :
    isIdentifier t = true := by
  cases t with
  | nil => cases ht
  | cons c t =>
    simp only [isAsciiName, Bool.and_eq_true, Bool.not_eq_true', List.all_eq_true] at ht
    rw [isIdentifier, isIdentifierStart_of_isWordChar ht.1.1 ht.1.2, Bool.true_and,
      List.all_eq_true]
    exact fun d hd => isIdentifierPart_of_isWordChar (ht.2 d hd)

/-- A string without backslashes stands for itself. -/
theorem unescape?_eq_self {t : Text} (hascii : ∀ c ∈ t, c.toNat < 128) (hplain : '\\' ∉ t) :
    unescape? t = some t := by
  have hescape : escapeNonAscii t = t := by
    unfold escapeNonAscii
    rw [List.flatMap_congr fun c hc => if_pos (hascii c hc)]
    exact List.flatMap_pure_eq_map id t |>.trans (List.map_id t)
  rw [unescape?, hescape]
  clear hescape hascii
  induction t with
  | nil => rfl
  | cons c t ih =>
    rw [List.mem_cons, not_or] at hplain
    rw [unescapeFrom, if_neg (by simpa using Ne.symm hplain.1), ih hplain.2, Option.map_some]

end Text

namespace Template

open Text

/-! ## Symbols -/

/-- A symbol of a tag, or a space between two of them. -/
inductive Symbol
  | space
  | name (chars : Text)
  /-- A string in single quotes. -/
  | string (chars : Text)
  | operator (c : Char)
deriving DecidableEq

namespace Symbol

/-- The symbol as it is written. -/
def text : Symbol → Text
  | space => [' ']
  | name chars => chars
  | string chars => '\x27' :: (chars ++ ['\x27'])
  | operator c => [c]

/-- The symbol as it is read. -/
def tokens : Symbol → List Token
  | space => []
  | name chars => [.ofText .name chars]
  | string chars => [.ofText .string chars]
  | operator c => [.ofText .operator [c]]

/-- Names and strings are in ASCII, and nothing in a string ends it or escapes. -/
def IsSound : Symbol → Prop
  | space => True
  | name chars => isAsciiName chars = true
  | string chars => (∀ c ∈ chars, c.toNat < 128) ∧ '\x27' ∉ chars ∧ '\\' ∉ chars
  | operator c => c ∈ ['(', ')', ',', '.']

/-- The two symbols are not read as one. -/
def mayPrecede : Symbol → Symbol → Bool
  | space, space => false
  | name _, name _ => false
  | _, _ => true

/-- The symbol does not go on with a character. -/
def endsBefore : Symbol → Char → Bool
  | space, c => !isBlank c
  | name _, c => !isNameChar c
  | _, _ => true

/-- The brackets that are open after the symbol. -/
def after? (expected : Text) : Symbol → Option Text
  | operator c => balance? expected [c]
  | _ => some expected

/-- Whether the symbol is a point. -/
def isPoint : Symbol → Bool
  | operator c => c == '.'
  | _ => false

end Symbol

/-- A string of letters, digits and underscores can be read back. -/
theorem Symbol.isSound_string {chars : Text} (hword : ∀ c ∈ chars, isWordChar c = true) :
    (string chars).IsSound :=
  ⟨fun c hc => toNat_lt_of_isWordChar (hword c hc), fun h => absurd (hword _ h) (by decide),
    fun h => absurd (hword _ h) (by decide)⟩

/-! ## One symbol -/

/-- A fractional numeral starts with a digit. -/
theorem float?_eq_none {c : Char} (hc : isDigit c = false) (t : Text) : float? (c :: t) = none := by
  have hgroups : digitGroups (c :: t) = 0 := by simp [digitGroups, hc]
  simp [float?, hgroups]

/-- An integer starts with a digit. -/
theorem integer?_eq_none {c : Char} (hc : isDigit c = false) (t : Text) :
    integer? (c :: t) = none := by
  have hzero : c ≠ '0' := by
    rintro rfl
    cases hc
  have hrange : ('1' ≤ c && c ≤ '9') = false := by
    rw [Bool.eq_false_iff]
    intro hbounds
    simp only [Bool.and_eq_true, decide_eq_true_eq] at hbounds
    have hlow : '1'.toNat ≤ c.toNat := hbounds.1
    have hhigh : c.toNat ≤ '9'.toNat := hbounds.2
    have hcovered : isDigit c = true := by
      have hfirst : ¬c.toNat < 0x30 := Nat.not_lt.mpr (Nat.le_trans (by decide) hlow)
      have hlast : c.toNat ≤ 0x39 := hhigh
      simp [isDigit, digitRanges, CodeRange.covers, hfirst, hlast]
    rw [hcovered] at hc
    cases hc
  have hradix (lower upper : Char) (digit : Char → Bool) :
      radix? lower upper digit (c :: t) = none := by
    unfold radix?
    split
    next heq => exact absurd (List.cons.inj heq).1 hzero
    next => rfl
  simp [integer?, hradix, hrange, hzero]

/-- Nothing is taken if the first character does not fit. -/
theorem takeWhile_eq_nil {p : Char → Bool} {t : Text} (ht : ∀ c ∈ t.head?, p c = false) :
    t.takeWhile p = [] := by
  cases t with
  | nil => rfl
  | cons c t => simp [ht c rfl]

section One

variable {kind : TagKind} {expected rest : Text} {point : Bool}

/-- A space in a tag is passed over. -/
theorem symbol?_space (hrest : ∀ c ∈ rest.head?, isBlank c = false) :
    symbol? kind expected point (' ' :: rest) = some ⟨[], 1, .tag kind expected false⟩ := by
  have hblank : isBlank ' ' = true := by decide
  have hrun : (' ' :: rest).takeWhile isBlank = [' '] := by
    rw [List.takeWhile_cons, if_pos hblank, takeWhile_eq_nil hrest]
  simp [symbol?, hrun]

/-- A name in a tag is read to its end. -/
theorem symbol?_name {chars : Text} (hchars : isAsciiName chars = true)
    (hrest : ∀ c ∈ rest.head?, isNameChar c = false) :
    symbol? kind expected point (chars ++ rest) =
      some ⟨[.ofText .name chars], chars.length, .tag kind expected false⟩ := by
  have hword : ∀ c ∈ chars, isNameChar c = true := fun c hc =>
    isNameChar_of_isWordChar (isWordChar_of_mem hchars hc)
  have hrun : (chars ++ rest).takeWhile isNameChar = chars := by
    rw [List.takeWhile_append_of_pos hword, takeWhile_eq_nil hrest, List.append_nil]
  have hidentifier := isIdentifier_of_isAsciiName hchars
  cases chars with
  | nil => cases hchars
  | cons c cs =>
    simp only [isAsciiName, Bool.and_eq_true, Bool.not_eq_true'] at hchars
    have hblank := isBlank_of_isWordChar hchars.1.1
    have hdigit := isDigit_of_isWordChar hchars.1.1 hchars.1.2
    rw [List.cons_append] at hrun ⊢
    simp [symbol?, hblank, float?_eq_none hdigit, integer?_eq_none hdigit, hrun, hidentifier]

/-- A string without backslashes ends at the next quote. -/
theorem stringTail?_eq {quote : Char} {chars : Text} (hquote : quote ∉ chars)
    (hplain : '\\' ∉ chars) (hne : quote ≠ '\\') (rest : Text) :
    stringTail? quote (chars ++ quote :: rest) = some (chars.length + 1) := by
  induction chars with
  | nil =>
    rw [List.nil_append, stringTail?.eq_2 _ _ _ fun _ _ h => absurd h hne]
    simp
  | cons c chars ih =>
    rw [List.mem_cons, not_or] at hquote hplain
    rw [List.cons_append, stringTail?.eq_2 _ _ _ fun _ _ h => absurd h.symm hplain.1,
      ih hquote.2 hplain.2]
    simp [Ne.symm hquote.1, Ne.symm hplain.1]

/-- A string in a tag is read to its closing quote. -/
theorem symbol?_string {chars : Text} (hchars : (Symbol.string chars).IsSound) :
    symbol? kind expected point ('\x27' :: (chars ++ '\x27' :: rest)) =
      some ⟨[.ofText .string chars], chars.length + 2, .tag kind expected false⟩ := by
  obtain ⟨hascii, hquote, hplain⟩ := hchars
  have hblank : isBlank '\x27' = false := by decide
  have hname : isNameChar '\x27' = false := by decide
  have hdigit : isDigit '\x27' = false := by decide
  have hlength : string? ('\x27' :: (chars ++ '\x27' :: rest)) = some (chars.length + 2) := by
    simp [string?, stringTail?_eq hquote hplain (by decide)]
  simp [symbol?, hblank, hname, float?_eq_none hdigit, integer?_eq_none hdigit, hlength,
    unescape?_eq_self hascii hplain]

/-- An operator in a tag is read if brackets stay balanced. -/
theorem symbol?_operator {c : Char} (hc : (Symbol.operator c).IsSound) :
    symbol? kind expected point (c :: rest) = (balance? expected [c]).map fun opened =>
      ⟨[.ofText .operator [c]], 1, .tag kind opened (c == '.')⟩ := by
  simp only [Symbol.IsSound, List.mem_cons, List.not_mem_nil, or_false] at hc
  cases point <;> rcases hc with rfl | rfl | rfl | rfl <;> rfl

end One

/-- What cannot end a tag. -/
theorem end?_eq_none {c : Char} (hc : c ∉ ['+', '-', '%', '\x7d']) (kind : TagKind) (t : Text) :
    kind.end? (c :: t) = none := by
  simp only [List.mem_cons, List.not_mem_nil, or_false, not_or] at hc
  have hother {pattern : String} {d : Char} {ds : Text} (hpattern : pattern.toList = d :: ds)
      (hne : c ≠ d) : literal? pattern (c :: t) = none := by
    simp [literal?, hpattern, List.isPrefixOf, Ne.symm hne]
  have hplus : literal? "+%\x7d" (c :: t) = none := hother rfl hc.1
  have hminus : literal? "-%\x7d" (c :: t) = none := hother rfl hc.2.1
  have hpercent : literal? "%\x7d" (c :: t) = none := hother rfl hc.2.2.1
  have hdash : literal? "-\x7d\x7d" (c :: t) = none := hother rfl hc.2.1
  have hbrace : literal? "\x7d\x7d" (c :: t) = none := hother rfl hc.2.2.2
  cases kind with
  | expression => simp [TagKind.end?, variableEnd?, literalThenBlanks?, hdash, hbrace]
  | statement => simp [TagKind.end?, blockEnd?, literalThenBlanks?, hplus, hminus, hpercent]

/-- How a symbol may start. -/
theorem Symbol.IsSound.exists_text_eq {symbol : Symbol} (hsound : symbol.IsSound) :
    ∃ c cs, symbol.text = c :: cs ∧ c ∉ ['+', '-', '%', '\x7d'] ∧
      ∀ earlier : Symbol, earlier.mayPrecede symbol = true → earlier.endsBefore c = true := by
  cases symbol with
  | space =>
    refine ⟨' ', [], rfl, by decide, fun earlier hearlier => ?_⟩
    cases earlier with
    | space => cases hearlier
    | name chars => rfl
    | string chars => rfl
    | operator d => rfl
  | name chars =>
    cases chars with
    | nil => cases hsound
    | cons c cs =>
      have hc := isWordChar_of_mem hsound List.mem_cons_self
      refine ⟨c, cs, rfl, fun hmem => ?_, fun earlier hearlier => ?_⟩
      · have hnone : ['+', '-', '%', '\x7d'].all (fun d => !isWordChar d) = true := by decide
        simpa [hc] using List.all_eq_true.mp hnone c hmem
      · cases earlier with
        | space => simp [endsBefore, isBlank_of_isWordChar hc]
        | name chars => cases hearlier
        | string chars => rfl
        | operator d => rfl
  | string chars =>
    refine ⟨'\x27', chars ++ ['\x27'], rfl, by decide, fun earlier _ => ?_⟩
    cases earlier <;> rfl
  | operator c =>
    simp only [IsSound, List.mem_cons, List.not_mem_nil, or_false] at hsound
    refine ⟨c, [], rfl, ?_, fun earlier _ => ?_⟩
    · rcases hsound with rfl | rfl | rfl | rfl <;> decide
    · rcases hsound with rfl | rfl | rfl | rfl <;> cases earlier <;> rfl

/-- A symbol is read as one, unless what follows goes on with it. -/
theorem inTag?_symbol {symbol : Symbol} (hsound : symbol.IsSound) {rest : Text}
    (hrest : ∀ c ∈ rest.head?, symbol.endsBefore c = true) {expected opened : Text}
    (hopened : symbol.after? expected = some opened) (kind : TagKind) (point : Bool) :
    inTag? kind expected point (symbol.text ++ rest) =
      some ⟨symbol.tokens, symbol.text.length, .tag kind opened symbol.isPoint⟩ := by
  have hinside : inTag? kind expected point (symbol.text ++ rest) =
      symbol? kind expected point (symbol.text ++ rest) := by
    obtain ⟨c, cs, htext, hc, -⟩ := hsound.exists_text_eq
    rw [htext, List.cons_append, inTag?, end?_eq_none hc, ite_self]
  rw [hinside]
  cases symbol with
  | space =>
    obtain rfl := Option.some.inj hopened
    exact symbol?_space fun c hc => by simpa [Symbol.endsBefore] using hrest c hc
  | name chars =>
    obtain rfl := Option.some.inj hopened
    exact symbol?_name hsound fun c hc => by simpa [Symbol.endsBefore] using hrest c hc
  | string chars =>
    obtain rfl := Option.some.inj hopened
    have htext : (Symbol.string chars).text ++ rest = '\x27' :: (chars ++ '\x27' :: rest) := by
      simp [Symbol.text]
    rw [htext, symbol?_string hsound]
    simp [Symbol.text, Symbol.tokens, Symbol.isPoint]
  | operator c =>
    rw [Symbol.after?] at hopened
    rw [Symbol.text, List.singleton_append, symbol?_operator hsound, hopened]
    rfl

/-! ## Many symbols -/

/-- The brackets that are open after symbols. -/
def openAfter? (expected : Text) : List Symbol → Option Text
  | [] => some expected
  | symbol :: symbols => (symbol.after? expected).bind (openAfter? · symbols)

/-- No two symbols in a row are read as one. -/
def areApart : List Symbol → Bool
  | first :: second :: symbols => first.mayPrecede second && areApart (second :: symbols)
  | _ => true

/-- Symbols that can stand in a tag and are read back from it. -/
structure AreReadable (symbols : List Symbol) : Prop where
  sound : ∀ symbol ∈ symbols, symbol.IsSound
  apart : areApart symbols = true
  balanced : openAfter? [] symbols = some []

/-- The rest of a piece is passed over. -/
theorem lexFrom_length (mode : Mode) (piece rest : Text) :
    lexFrom piece.length mode (piece ++ rest) = lexFrom 0 mode rest := by
  induction piece with
  | nil => rfl
  | cons c piece ih => exact ih

/-- After a piece the reader goes on behind it. -/
theorem lexFrom_of_step? {mode next : Mode} {c : Char} {cs rest : Text} {tokens : List Token}
    (hstep : step? mode c (cs ++ rest) = some ⟨tokens, (c :: cs).length, next⟩) :
    lexFrom 0 mode (c :: cs ++ rest) = (lexFrom 0 next rest).map (tokens ++ ·) := by
  rw [List.cons_append, lexFrom, hstep]
  show Option.map _ (lexFrom cs.length next (cs ++ rest)) = _
  rw [lexFrom_length]

/-- Symbols that are written one after the other are read one after the other. -/
theorem lexFrom_symbols (kind : TagKind) {symbols : List Symbol}
    (hsound : ∀ symbol ∈ symbols, symbol.IsSound) (hapart : areApart symbols = true)
    {expected opened : Text} (hopened : openAfter? expected symbols = some opened) {rest : Text}
    (hrest : ∀ c ∈ rest.head?, isBlank c = false ∧ isNameChar c = false) (point : Bool) :
    ∃ last, lexFrom 0 (.tag kind expected point) (symbols.flatMap Symbol.text ++ rest) =
      (lexFrom 0 (.tag kind opened last) rest).map (symbols.flatMap Symbol.tokens ++ ·) := by
  induction symbols generalizing expected point with
  | nil =>
    obtain rfl := Option.some.inj hopened
    exact ⟨point, by simp⟩
  | cons symbol symbols ih =>
    obtain ⟨hone, hothers⟩ := List.forall_mem_cons.mp hsound
    obtain ⟨between, hbetween, hopened⟩ := Option.bind_eq_some_iff.mp hopened
    -- The next symbol, or else the rest, does not go on with this one.
    have hends : ∀ c ∈ (symbols.flatMap Symbol.text ++ rest).head?,
        symbol.endsBefore c = true := by
      cases symbols with
      | nil =>
        intro c hc
        obtain ⟨hblank, hname⟩ := hrest c hc
        cases symbol <;> simp [Symbol.endsBefore, hblank, hname]
      | cons next symbols =>
        obtain ⟨c, cs, htext, -, hnext⟩ := (hothers next List.mem_cons_self).exists_text_eq
        rw [areApart, Bool.and_eq_true] at hapart
        intro d hd
        rw [List.flatMap_cons, htext] at hd
        obtain rfl := Option.some.inj hd
        exact hnext symbol hapart.1
    have htail : areApart symbols = true := by
      cases symbols with
      | nil => rfl
      | cons next symbols =>
        rw [areApart, Bool.and_eq_true] at hapart
        exact hapart.2
    obtain ⟨last, hlast⟩ := ih hothers htail hopened symbol.isPoint
    refine ⟨last, ?_⟩
    obtain ⟨c, cs, htext, -⟩ := hone.exists_text_eq
    have hstep : step? (.tag kind expected point) c (cs ++ (symbols.flatMap Symbol.text ++ rest)) =
        some ⟨symbol.tokens, (c :: cs).length, .tag kind between symbol.isPoint⟩ := by
      rw [← htext, ← inTag?_symbol hone hends hbetween kind point, htext]
      rfl
    rw [List.flatMap_cons, List.append_assoc, htext, lexFrom_of_step? hstep, hlast, Option.map_map]
    simp [Function.comp_def]

end Template

end PortableSql
