import Mathlib.Algebra.Group.Nat.Defs
import Mathlib.Data.List.Induction
import PortableSql.Proofs.Template.Symbol

/-!
# String literals that stand for themselves

The inside of a string literal is decoded, and a literal ends at the first quote that no backslash
hides. A text that is put between quotes as it is stands for itself if it has no such quote and if
each of its backslashes comes before a character that makes no escape.

For the converse, backslashes are counted. Decoding never makes more of them, and if it leaves as
many as there were, then whatever else is decoded comes from characters that stand for themselves,
apart from escapes that spell a backslash.
-/

namespace PortableSql

namespace Text

/-! ## Hexadecimal escapes -/

/-- A hexadecimal digit is read back. -/
theorem hexValue?_hexDigit (n : Nat) : hexValue? (hexDigit n) = some (n % 16) := by
  have hall : (List.range 16).all (fun d => hexValue? (Nat.digitChar d) == some d) = true := by
    decide
  have hone := List.all_eq_true.mp hall (n % 16) (List.mem_range.mpr (Nat.mod_lt _ (by decide)))
  exact eq_of_beq hone

/-- Hexadecimal digits are letters and digits of ASCII. -/
theorem isWordChar_hexDigit (n : Nat) : isWordChar (hexDigit n) = true := by
  have hall : (List.range 16).all (fun d => isWordChar (Nat.digitChar d)) = true := by decide
  exact List.all_eq_true.mp hall (n % 16) (List.mem_range.mpr (Nat.mod_lt _ (by decide)))

/-- Hexadecimal numerals consist of letters and digits of ASCII. -/
theorem isWordChar_of_mem_hexDigits {width n : Nat} {c : Char} (hc : c ∈ hexDigits width n) :
    isWordChar c = true := by
  induction width generalizing n with
  | zero => cases hc
  | succ width ih =>
    rw [hexDigits, List.mem_append, List.mem_singleton] at hc
    rcases hc with hc | rfl
    · exact ih hc
    · exact isWordChar_hexDigit n

/-- A hexadecimal numeral has the width that is asked for. -/
theorem length_hexDigits (width n : Nat) : (hexDigits width n).length = width := by
  induction width generalizing n with
  | zero => rfl
  | succ width ih => rw [hexDigits, List.length_append, ih, List.length_singleton]

/-- A numeral with one more digit is read by its digits before that one. -/
theorem readDigits?_concat (base : Nat) (t : Text) (c : Char) :
    readDigits? base (t ++ [c]) = (readDigits? base t).bind fun n => (hexValue? c).bind fun d =>
      if d < base then some (n * base + d) else none := by
  rw [readDigits?, List.foldl_append]
  rfl

/-- Hexadecimal digits are read back. -/
theorem readDigits?_hexDigits (width n : Nat) :
    readDigits? 16 (hexDigits width n) = some (n % 16 ^ width) := by
  induction width generalizing n with
  | zero =>
    rw [Nat.pow_zero, Nat.mod_one]
    rfl
  | succ width ih =>
    have hdigit : n % 16 < 16 := Nat.mod_lt n (by decide)
    rw [hexDigits, readDigits?_concat, ih, Option.bind_some, hexValue?_hexDigit, Option.bind_some,
      if_pos hdigit, Nat.pow_succ', Nat.mod_mul, Option.some.injEq]
    omega

/-- The code of a character gives the character. -/
theorem ofCode?_toNat (c : Char) : ofCode? c.toNat = some c := by
  have hvalid : c.toNat < 0xd800 ∨ 0xdfff < c.toNat ∧ c.toNat < 0x110000 := c.valid
  unfold ofCode? charOf isHalfCode
  rw [if_neg (by omega), if_neg (by simp; omega), Char.ofNat_toNat]

/-- A character is read from the digits of its code. -/
theorem hexEscape?_hexDigits {width : Nat} {c : Char} (hc : c.toNat < 16 ^ width) (rest : Text) :
    hexEscape? width (hexDigits width c.toNat ++ rest) = some c := by
  have hlength := length_hexDigits width c.toNat
  have htake : (hexDigits width c.toNat ++ rest).take width = hexDigits width c.toNat :=
    List.take_left' hlength
  simp only [hexEscape?, htake, hlength, Nat.lt_irrefl, if_false, readDigits?_hexDigits,
    Nat.mod_eq_of_lt hc, Option.bind_some, ofCode?_toNat]

/-- A character that is written as a hexadecimal escape is read back from it. -/
theorem exists_hexEscape_eq (c : Char) :
    ∃ body, hexEscape c = '\\' :: body ∧ (∀ d ∈ body, isWordChar d = true) ∧
      ∀ rest, escape? (body ++ rest) = some ([c], body.length) := by
  have hform {width : Nat} {mark : Char} (hmark : isWordChar mark = true)
      (hescape : ∀ rest, escape? (mark :: rest) =
        (hexEscape? width rest).map fun c => ([c], width + 1))
      (hcode : c.toNat < 16 ^ width) :
      ∃ body, ['\\', mark] ++ hexDigits width c.toNat = '\\' :: body ∧
        (∀ d ∈ body, isWordChar d = true) ∧
        ∀ rest, escape? (body ++ rest) = some ([c], body.length) := by
    refine ⟨mark :: hexDigits width c.toNat, rfl, ?_, fun rest => ?_⟩
    · exact List.forall_mem_cons.mpr ⟨hmark, fun d hd => isWordChar_of_mem_hexDigits hd⟩
    · rw [List.cons_append, hescape, hexEscape?_hexDigits hcode, Option.map_some, List.length_cons,
        length_hexDigits]
  have hvalid : c.toNat < 0xd800 ∨ 0xdfff < c.toNat ∧ c.toNat < 0x110000 := c.valid
  unfold hexEscape
  dsimp only
  split
  next hcode => exact hform (by decide) (fun _ => rfl) hcode
  next =>
    split
    next hcode => exact hform (by decide) (fun _ => rfl) hcode
    next =>
      have hroom : 0x110000 ≤ 16 ^ 8 := by decide
      refine hform (by decide) (fun _ => rfl) (Nat.lt_of_lt_of_le ?_ hroom)
      omega

/-! ## Escapes -/

/-- The characters that make an escape with a backslash before them. -/
def escapeStarts : Text :=
  "\n\\\x27\x22abfnrtvxuUN01234567".toList

/-- A character that is decoded together with a backslash before it. One beyond ASCII is too, for it
is written as an escape at first. -/
def startsEscape (c : Char) : Bool :=
  !decide (c.toNat < 0x80) || escapeStarts.contains c

/-- Whether some backslash is decoded together with what comes after it, or nothing does. -/
def hasEscape : Text → Bool
  | [] => false
  | c :: cs => c == '\\' && cs.head?.all startsEscape || hasEscape cs

/-- What starts no escape is no backslash. -/
theorem ne_backslash_of_startsEscape {c : Char} (hc : startsEscape c = false) : c ≠ '\\' := by
  rintro rfl
  exact absurd hc (by decide)

/-- A character that starts no escape is kept together with the backslash. -/
theorem escape?_kept {c : Char} (hc : startsEscape c = false) (rest : Text) :
    escape? (c :: rest) = some (['\\', c], 1) := by
  rw [startsEscape, Bool.or_eq_false_iff, Bool.not_eq_false', decide_eq_true_eq] at hc
  have hoctal : (octalValue? c).isSome = false := by
    have hall := forall_ascii
      (p := fun c => escapeStarts.contains c || !(octalValue? c).isSome) (by decide) hc.1
    rw [hc.2, Bool.false_or, Bool.not_eq_true'] at hall
    exact hall
  have hother : ∀ d ∈ escapeStarts, c ≠ d := by
    rintro d hd rfl
    rw [List.contains_iff_mem.mpr hd] at hc
    cases hc.2
  unfold escape?
  split
  case h_1 heq => cases heq
  case h_18 heq =>
    obtain ⟨rfl, rfl⟩ := List.cons.inj heq
    rw [if_neg (by simp [hoctal])]
  all_goals
    rename_i heq
    exact absurd (List.cons.inj heq).1 (hother _ (by decide))

/-! ## Decoding -/

section Decoding

/-- A piece that was read is passed over. -/
theorem unescapeFrom_length (piece rest : Text) :
    unescapeFrom piece.length (piece ++ rest) = unescapeFrom 0 rest := by
  induction piece with
  | nil => rfl
  | cons c piece ih => exact ih

/-- A piece without backslashes stands for itself. -/
theorem unescapeFrom_plain {piece : Text} (hpiece : '\\' ∉ piece) (rest : Text) :
    unescapeFrom 0 (piece ++ rest) = (unescapeFrom 0 rest).map (piece ++ ·) := by
  induction piece with
  | nil => simp
  | cons c piece ih =>
    rw [List.mem_cons, not_or] at hpiece
    rw [List.cons_append, unescapeFrom, if_neg (by simpa using Ne.symm hpiece.1), ih hpiece.2,
      Option.map_map]
    rfl

/-- An escape is read at once. -/
theorem unescapeFrom_escape {piece rest decoded : Text}
    (hescape : escape? (piece ++ rest) = some (decoded, piece.length)) :
    unescapeFrom 0 ('\\' :: (piece ++ rest)) = (unescapeFrom 0 rest).map (decoded ++ ·) := by
  rw [unescapeFrom, if_pos (by decide), hescape]
  show (unescapeFrom piece.length (piece ++ rest)).map _ = _
  rw [unescapeFrom_length]

/-- A character that is written as a hexadecimal escape is read back in a text. -/
theorem unescapeFrom_hexEscape (c : Char) (rest : Text) :
    unescapeFrom 0 (hexEscape c ++ rest) = (unescapeFrom 0 rest).map (c :: ·) := by
  obtain ⟨body, hbody, -, hescape⟩ := exists_hexEscape_eq c
  rw [hbody, List.cons_append, unescapeFrom_escape (hescape rest)]
  rfl

/-- A text is escaped character by character. -/
theorem escapeNonAscii_cons (c : Char) (t : Text) :
    escapeNonAscii (c :: t) =
      (if c.toNat < 0x80 then [c] else hexEscape c) ++ escapeNonAscii t := rfl

/-- A text is escaped part by part. -/
theorem escapeNonAscii_append (first second : Text) :
    escapeNonAscii (first ++ second) = escapeNonAscii first ++ escapeNonAscii second :=
  List.flatMap_append

variable {c : Char}

/-- A character other than a backslash stands for itself. -/
theorem unescape?_char (hc : c ≠ '\\') (t : Text) :
    unescape? (c :: t) = (unescape? t).map (c :: ·) := by
  rw [unescape?, escapeNonAscii_cons]
  split
  · rw [unescapeFrom_plain (by simpa using Ne.symm hc)]
    rfl
  · exact unescapeFrom_hexEscape c _

/-- A backslash stands for itself before a character that starts no escape. -/
theorem unescape?_kept (hc : startsEscape c = false) (t : Text) :
    unescape? ('\\' :: c :: t) = (unescape? t).map fun v => '\\' :: c :: v := by
  have hascii : c.toNat < 0x80 := by
    rw [startsEscape, Bool.or_eq_false_iff, Bool.not_eq_false', decide_eq_true_eq] at hc
    exact hc.1
  rw [unescape?, escapeNonAscii_cons, escapeNonAscii_cons, if_pos (by decide), if_pos hascii]
  have hkept : escape? ([c] ++ escapeNonAscii t) = some (['\\', c], [c].length) :=
    escape?_kept hc _
  exact unescapeFrom_escape hkept

/-- A backslash before a character beyond ASCII leaves the digits of its code. -/
theorem unescape?_spelled (hc : 0x80 ≤ c.toNat) (t : Text) :
    unescape? ('\\' :: c :: t) = (unescape? t).map (hexEscape c ++ ·) := by
  obtain ⟨body, hbody, hword, -⟩ := exists_hexEscape_eq c
  have hplain : '\\' ∉ body := fun hmem => absurd (hword _ hmem) (by decide)
  rw [unescape?, escapeNonAscii_cons, escapeNonAscii_cons, if_pos (by decide),
    if_neg (by omega), hbody]
  have hslash : escape? (['\\'] ++ (body ++ escapeNonAscii t)) =
    some (['\\'], ['\\'].length) := rfl
  have hfirst := unescapeFrom_escape hslash
  rw [unescapeFrom_plain hplain, Option.map_map] at hfirst
  exact hfirst

end Decoding

/-! ## Pieces that are decoded as a whole -/

/-- Only digits are read as a number. -/
theorem isSome_of_readDigits? {base n : Nat} {t : Text} (hread : readDigits? base t = some n) :
    ∀ c ∈ t, (hexValue? c).isSome = true := by
  induction t using List.reverseRecOn generalizing n with
  | nil => simp
  | append_singleton t c ih =>
    rw [readDigits?_concat] at hread
    obtain ⟨m, hm, hlast⟩ := Option.bind_eq_some_iff.mp hread
    obtain ⟨d, hd, -⟩ := Option.bind_eq_some_iff.mp hlast
    refine List.forall_mem_append.mpr ⟨ih hm, List.forall_mem_singleton.mpr ?_⟩
    exact Option.isSome_of_eq_some hd

/-- A hexadecimal escape consists of hexadecimal digits. -/
theorem isSome_of_hexEscape? {width : Nat} {t : Text} {c : Char}
    (hescape : hexEscape? width t = some c) :
    width ≤ t.length ∧ ∀ d ∈ t.take width, (hexValue? d).isSome = true := by
  simp only [hexEscape?] at hescape
  split at hescape
  next => cases hescape
  next hlength =>
    obtain ⟨n, hn, -⟩ := Option.bind_eq_some_iff.mp hescape
    rw [List.length_take] at hlength
    exact ⟨by omega, isSome_of_readDigits? hn⟩

/-- An octal escape consists of octal digits. -/
theorem isSome_of_readOctal (limit value : Nat) (t : Text) :
    (readOctal limit value t).2 ≤ t.length ∧
      ∀ d ∈ t.take (readOctal limit value t).2, (octalValue? d).isSome = true := by
  fun_induction readOctal limit value t with
  | case1 limit value c cs d hd n count hread ih =>
    rw [hread] at ih
    refine ⟨Nat.succ_le_succ ih.1, ?_⟩
    rw [List.take_succ_cons]
    exact List.forall_mem_cons.mpr ⟨Option.isSome_of_eq_some hd, ih.2⟩
  | case2 => simp
  | case3 => simp

/-- An octal escape goes on after a digit. -/
theorem readOctal_cons {c : Char} {d : Nat} (hd : octalValue? c = some d) (limit value : Nat)
    (t : Text) : (readOctal (limit + 1) value (c :: t)).2 =
      (readOctal limit (value * 8 + d) t).2 + 1 := by
  rw [readOctal, hd]

/-- Characters other than backslashes at the start of what is decoded are there from the first. -/
theorem exists_piece_of_forall_take {p : Char → Bool} (hp : p '\\' = false) {t : Text}
    {width : Nat} (hlength : width ≤ (escapeNonAscii t).length)
    (hdigits : ∀ d ∈ (escapeNonAscii t).take width, p d = true) :
    ∃ piece rest, t = piece ++ rest ∧ (escapeNonAscii piece).length = width := by
  induction width generalizing t with
  | zero => exact ⟨[], t, rfl, rfl⟩
  | succ width ih =>
    cases t with
    | nil => simp [escapeNonAscii] at hlength
    | cons c t =>
      rw [escapeNonAscii_cons] at hlength hdigits
      split at hdigits
      next hascii =>
        rw [if_pos hascii, List.singleton_append, List.length_cons] at hlength
        rw [List.singleton_append, List.take_succ_cons] at hdigits
        obtain ⟨piece, rest, rfl, hpiece⟩ := ih (Nat.le_of_succ_le_succ hlength)
          (List.forall_mem_cons.mp hdigits).2
        refine ⟨c :: piece, rest, rfl, ?_⟩
        rw [escapeNonAscii_cons, if_pos hascii, List.singleton_append, List.length_cons, hpiece]
      next =>
        obtain ⟨body, hbody, -⟩ := exists_hexEscape_eq c
        rw [hbody, List.cons_append, List.take_succ_cons] at hdigits
        rw [(List.forall_mem_cons.mp hdigits).1] at hp
        cases hp

/-- A closing brace in what is decoded is there from the first. -/
theorem exists_piece_of_brace {t : Text}
    (hlength : ((escapeNonAscii t).takeWhile (· != '\x7d')).length < (escapeNonAscii t).length) :
    ∃ piece rest, t = piece ++ rest ∧ (escapeNonAscii piece).length =
      ((escapeNonAscii t).takeWhile (· != '\x7d')).length + 1 := by
  induction t with
  | nil => simp [escapeNonAscii] at hlength
  | cons c t ih =>
    by_cases hc : c = '\x7d'
    · subst hc
      exact ⟨['\x7d'], t, rfl, rfl⟩
    · have hpass : ∀ d ∈ (if c.toNat < 0x80 then [c] else hexEscape c), (d != '\x7d') = true := by
        split
        · simpa using hc
        · obtain ⟨body, hbody, hword, -⟩ := exists_hexEscape_eq c
          rw [hbody]
          refine List.forall_mem_cons.mpr ⟨by decide, fun d hd => ?_⟩
          rw [bne_iff_ne]
          rintro rfl
          exact absurd (hword _ hd) (by decide)
      rw [escapeNonAscii_cons, List.takeWhile_append_of_pos hpass, List.length_append,
        List.length_append, Nat.add_lt_add_iff_left] at hlength
      obtain ⟨piece, rest, rfl, hpiece⟩ := ih hlength
      refine ⟨c :: piece, rest, rfl, ?_⟩
      rw [escapeNonAscii_cons, escapeNonAscii_cons, List.takeWhile_append_of_pos hpass,
        List.length_append, List.length_append, hpiece]
      omega

/-- A character other than a backslash at the start of what is decoded is there from the first. -/
theorem exists_cons_of_escapeNonAscii {c : Char} {t cs : Text} (hc : c ≠ '\\')
    (hcons : escapeNonAscii t = c :: cs) : ∃ rest, t = c :: rest ∧ escapeNonAscii rest = cs := by
  cases t with
  | nil => cases hcons
  | cons d t =>
    rw [escapeNonAscii_cons] at hcons
    split at hcons
    next =>
      obtain ⟨rfl, hrest⟩ := List.cons.inj hcons
      exact ⟨t, rfl, hrest⟩
    next =>
      obtain ⟨body, hbody, -⟩ := exists_hexEscape_eq d
      rw [hbody] at hcons
      exact absurd (List.cons.inj hcons).1.symm hc

/-- What an escape takes away ends with a character of the text, and it decodes to one character at
most. -/
theorem exists_piece_of_escape? {c : Char} {t decoded : Text} {count : Nat}
    (hstarts : c ∈ escapeStarts)
    (hescape : escape? (c :: escapeNonAscii t) = some (decoded, count)) :
    ∃ piece rest, t = piece ++ rest ∧ count = (escapeNonAscii piece).length + 1 ∧
      decoded.length ≤ 1 := by
  have hhex {width : Nat} {cs : Text} (hcs : escapeNonAscii t = cs)
      (hmap : (hexEscape? width cs).map (fun d => ([d], width + 1)) = some (decoded, count)) :
      ∃ piece rest, t = piece ++ rest ∧ count = (escapeNonAscii piece).length + 1 ∧
        decoded.length ≤ 1 := by
    obtain ⟨d, hd, heq⟩ := Option.map_eq_some_iff.mp hmap
    obtain ⟨rfl, rfl⟩ := Prod.mk.inj heq
    obtain ⟨hlength, hdigits⟩ := isSome_of_hexEscape? hd
    subst hcs
    obtain ⟨piece, rest, hsplit, hpiece⟩ :=
      exists_piece_of_forall_take (p := fun d => (hexValue? d).isSome) (by decide) hlength hdigits
    exact ⟨piece, rest, hsplit, by rw [hpiece], Nat.le_refl 1⟩
  have hone {d : Text} (hd : d.length ≤ 1) (heq : some (d, 1) = some (decoded, count)) :
      ∃ piece rest, t = piece ++ rest ∧ count = (escapeNonAscii piece).length + 1 ∧
        decoded.length ≤ 1 := by
    obtain ⟨rfl, rfl⟩ := Prod.mk.inj (Option.some.inj heq)
    exact ⟨[], t, rfl, rfl, hd⟩
  unfold escape? at hescape
  split at hescape
  case h_1 => cases hescape
  case h_13 heq => exact hhex (List.cons.inj heq).2 hescape
  case h_14 heq => exact hhex (List.cons.inj heq).2 hescape
  case h_15 heq => exact hhex (List.cons.inj heq).2 hescape
  case h_16 cs heq =>
    -- A name in braces goes on to the next closing brace.
    obtain ⟨t, rfl, rfl⟩ := exists_cons_of_escapeNonAscii (by decide) (List.cons.inj heq).2
    dsimp only at hescape
    split at hescape
    next hlength =>
      obtain ⟨d, -, heq⟩ := Option.map_eq_some_iff.mp hescape
      obtain ⟨rfl, rfl⟩ := Prod.mk.inj heq
      obtain ⟨piece, rest, rfl, hpiece⟩ := exists_piece_of_brace hlength
      refine ⟨'\x7b' :: piece, rest, rfl, ?_, Nat.le_refl 1⟩
      rw [escapeNonAscii_cons, if_pos (by decide), List.singleton_append, List.length_cons, hpiece]
    next => cases hescape
  case h_17 => cases hescape
  case h_18 heq =>
    obtain ⟨rfl, rfl⟩ := List.cons.inj heq
    split at hescape
    next hdigit =>
      obtain ⟨d, hd⟩ := Option.isSome_iff_exists.mp hdigit
      obtain ⟨e, -, heq⟩ := Option.map_eq_some_iff.mp hescape
      obtain ⟨rfl, -⟩ := Prod.mk.inj heq
      have hcount : (readOctal 3 0 (c :: escapeNonAscii t)).2 = count := (Prod.mk.inj heq).2
      obtain ⟨hlength, hdigits⟩ := isSome_of_readOctal 2 (0 * 8 + d) (escapeNonAscii t)
      obtain ⟨piece, rest, hsplit, hpiece⟩ := exists_piece_of_forall_take
        (p := fun d => (octalValue? d).isSome) (by decide) hlength hdigits
      exact ⟨piece, rest, hsplit, by rw [hpiece, ← hcount, readOctal_cons hd], Nat.le_refl 1⟩
    next hdigit =>
      have hall : escapeStarts.all (fun d => (octalValue? d).isSome || ['\n', '\\', '\x27', '\x22',
        'a', 'b', 'f', 'n', 'r', 't', 'v', 'x', 'u', 'U', 'N'].contains d) = true := by decide
      have hone := List.all_eq_true.mp hall _ hstarts
      have hmark := (Bool.or_eq_true_iff.mp hone).resolve_left hdigit
      simp only [List.contains_iff_mem, List.mem_cons, List.not_mem_nil, or_false] at hmark
      rcases hmark with h | h | h | h | h | h | h | h | h | h | h | h | h | h | h <;> contradiction
  all_goals exact hone (by decide) hescape

/-! ## What decoding does to a text -/

/-- A text and what it is decoded to, piece by piece. -/
inductive Decodes : Text → Text → Prop
  | nil : Decodes [] []
  | char {c : Char} {u v : Text} (hc : c ≠ '\\') (hrest : Decodes u v) : Decodes (c :: u) (c :: v)
  | kept {c : Char} {u v : Text} (hc : startsEscape c = false) (hrest : Decodes u v) :
      Decodes ('\\' :: c :: u) ('\\' :: c :: v)
  | spelled {c : Char} {u v : Text} (hc : 0x80 ≤ c.toNat) (hrest : Decodes u v) :
      Decodes ('\\' :: c :: u) (hexEscape c ++ v)
  | escape {piece decoded u v : Text} (hpiece : piece ≠ []) (hdecoded : decoded.length ≤ 1)
      (hrest : Decodes u v) : Decodes ('\\' :: (piece ++ u)) (decoded ++ v)

/-- Reading escapes decodes a text. -/
theorem decodes_of_unescape? {u v : Text} (hunescape : unescape? u = some v) : Decodes u v := by
  induction hsize : u.length using Nat.strongRecOn generalizing u v with
  | ind size ih =>
    subst hsize
    rcases u with - | ⟨c, u⟩
    · obtain rfl := Option.some.inj hunescape
      exact .nil
    by_cases hc : c = '\\'
    · subst hc
      rcases u with - | ⟨c, u⟩
      · cases hunescape
      by_cases hascii : c.toNat < 0x80
      · by_cases hstarts : c ∈ escapeStarts
        · -- The escape takes away whole characters of the text.
          rw [unescape?, escapeNonAscii_cons, escapeNonAscii_cons, if_pos (by decide),
            if_pos hascii, List.singleton_append, unescapeFrom, if_pos (by decide)] at hunescape
          split at hunescape
          next => cases hunescape
          next decoded count hescape =>
            obtain ⟨piece, rest, rfl, rfl, hdecoded⟩ := exists_piece_of_escape? hstarts hescape
            obtain ⟨v, hv, rfl⟩ := Option.map_eq_some_iff.mp hunescape
            rw [escapeNonAscii_append, List.singleton_append, unescapeFrom,
              unescapeFrom_length] at hv
            have hshorter : rest.length < ('\\' :: c :: (piece ++ rest)).length := by
              simp only [List.length_cons, List.length_append]
              omega
            exact .escape (List.cons_ne_nil c piece) hdecoded (ih rest.length hshorter hv rfl)
        · have hkept : startsEscape c = false := by
            rw [startsEscape, decide_eq_true hascii]
            simpa using hstarts
          rw [unescape?_kept hkept] at hunescape
          obtain ⟨v, hv, rfl⟩ := Option.map_eq_some_iff.mp hunescape
          exact .kept hkept (ih u.length (Nat.lt_succ_of_lt (Nat.lt_succ_self _)) hv rfl)
      · rw [unescape?_spelled (by omega)] at hunescape
        obtain ⟨v, hv, rfl⟩ := Option.map_eq_some_iff.mp hunescape
        exact .spelled (by omega) (ih u.length (Nat.lt_succ_of_lt (Nat.lt_succ_self _)) hv rfl)
    · rw [unescape?_char hc] at hunescape
      obtain ⟨v, hv, rfl⟩ := Option.map_eq_some_iff.mp hunescape
      exact .char hc (ih u.length (by simp) hv rfl)

/-- How a text without escapes goes on. -/
theorem hasEscape_cons {c : Char} {t : Text} (ht : hasEscape (c :: t) = false) :
    hasEscape t = false ∧
      (c ≠ '\\' ∨ c = '\\' ∧ ∃ d rest, t = d :: rest ∧ startsEscape d = false) := by
  rw [hasEscape, Bool.or_eq_false_iff] at ht
  refine ⟨ht.2, ?_⟩
  by_cases hc : c = '\\'
  · subst hc
    cases t with
    | nil => cases ht.1
    | cons d rest => exact .inr ⟨rfl, d, rest, rfl, by simpa using ht.1⟩
  · exact .inl hc

/-- A text without escapes stands for itself. -/
theorem unescape?_of_hasEscape {t : Text} (ht : hasEscape t = false) : unescape? t = some t := by
  induction t with
  | nil => rfl
  | cons c t ih =>
    obtain ⟨hrest, hc | ⟨rfl, d, rest, rfl, hd⟩⟩ := hasEscape_cons ht
    · rw [unescape?_char hc, ih hrest, Option.map_some]
    · -- The character after the backslash stands for itself, so the rest does.
      have hnext := ih hrest
      rw [unescape?_char (ne_backslash_of_startsEscape hd)] at hnext
      obtain ⟨v, hv, heq⟩ := Option.map_eq_some_iff.mp hnext
      rw [unescape?_kept hd, hv, Option.map_some, heq]

/-- A hexadecimal escape has one backslash. -/
theorem count_hexEscape (c : Char) : (hexEscape c).count '\\' = 1 := by
  obtain ⟨body, hbody, hword, -⟩ := exists_hexEscape_eq c
  rw [hbody, List.count_cons_self,
    List.count_eq_zero_of_not_mem fun hmem => absurd (hword _ hmem) (by decide)]

/-- Characters outside of ASCII are no backslashes. -/
theorem ne_backslash_of_le {c : Char} (hc : 0x80 ≤ c.toNat) : c ≠ '\\' := by
  rintro rfl
  exact absurd hc (by decide)

/-- Decoding makes no more backslashes. -/
theorem Decodes.count_le {u v : Text} (hdecodes : Decodes u v) :
    v.count '\\' ≤ u.count '\\' := by
  induction hdecodes with
  | nil => exact Nat.le_refl _
  | char hc _ ih => rwa [List.count_cons_of_ne hc, List.count_cons_of_ne hc]
  | kept hc _ ih =>
    rw [List.count_cons_self, List.count_cons_self,
      List.count_cons_of_ne (ne_backslash_of_startsEscape hc),
      List.count_cons_of_ne (ne_backslash_of_startsEscape hc)]
    omega
  | spelled hc _ ih =>
    rw [List.count_append, count_hexEscape, List.count_cons_self,
      List.count_cons_of_ne (ne_backslash_of_le hc)]
    omega
  | @escape piece decoded u v hpiece hdecoded _ ih =>
    have hone : decoded.count '\\' ≤ decoded.length := List.count_le_length
    rw [List.count_append, List.count_cons_self, List.count_append]
    omega

/-- Decoding that leaves as many backslashes: the only escapes are such as spell one. -/
inductive DecodesEvenly : Text → Text → Prop
  | nil : DecodesEvenly [] []
  | char {c : Char} {u v : Text} (hc : c ≠ '\\') (hrest : DecodesEvenly u v) :
      DecodesEvenly (c :: u) (c :: v)
  | kept {c : Char} {u v : Text} (hc : startsEscape c = false) (hrest : DecodesEvenly u v) :
      DecodesEvenly ('\\' :: c :: u) ('\\' :: c :: v)
  | spelled {c : Char} {u v : Text} (hc : 0x80 ≤ c.toNat) (hrest : DecodesEvenly u v) :
      DecodesEvenly ('\\' :: c :: u) (hexEscape c ++ v)
  | backslash {piece u v : Text} (hpiece : piece ≠ []) (hplain : '\\' ∉ piece)
      (hrest : DecodesEvenly u v) : DecodesEvenly ('\\' :: (piece ++ u)) ('\\' :: v)

/-- A text that loses no backslash by decoding is decoded evenly. -/
theorem Decodes.evenly {u v : Text} (hdecodes : Decodes u v)
    (hcount : u.count '\\' ≤ v.count '\\') : DecodesEvenly u v := by
  induction hdecodes with
  | nil => exact .nil
  | char hc _ ih =>
    rw [List.count_cons_of_ne hc, List.count_cons_of_ne hc] at hcount
    exact .char hc (ih hcount)
  | kept hc _ ih =>
    rw [List.count_cons_self, List.count_cons_self,
      List.count_cons_of_ne (ne_backslash_of_startsEscape hc),
      List.count_cons_of_ne (ne_backslash_of_startsEscape hc)] at hcount
    exact .kept hc (ih (Nat.le_of_succ_le_succ hcount))
  | spelled hc _ ih =>
    rw [List.count_append, count_hexEscape, List.count_cons_self,
      List.count_cons_of_ne (ne_backslash_of_le hc)] at hcount
    exact .spelled hc (ih (by omega))
  | @escape piece decoded u v hpiece hdecoded hrest ih =>
    have hone : decoded.count '\\' ≤ decoded.length := List.count_le_length
    have hless := hrest.count_le
    rw [List.count_append, List.count_cons_self, List.count_append] at hcount
    have hplain : '\\' ∉ piece := List.count_eq_zero.mp (by omega)
    have hslash : decoded = ['\\'] := by
      obtain ⟨d, rfl⟩ := List.length_eq_one_iff.mp (by omega : decoded.length = 1)
      have hmem : '\\' ∈ [d] := List.count_pos_iff.mp (by omega)
      rw [List.mem_singleton.mp hmem]
    subst hslash
    exact .backslash hpiece hplain (ih (by omega))

/-- What else is decoded comes from characters that no backslash stands before, or that make no
escape with it. -/
theorem DecodesEvenly.exists_of_mem {u v : Text} (heven : DecodesEvenly u v) {d : Char}
    (hd : d ∈ v) (hslash : d ≠ '\\') (hword : isWordChar d = false) :
    ∃ before after, u = before ++ d :: after ∧
      (before.getLast? ≠ some '\\' ∨ startsEscape d = false) := by
  have hlater (front : Text) {u : Text} (hfront : front.getLast? ≠ some '\\')
      (hplace : ∃ before after, u = before ++ d :: after ∧
        (before.getLast? ≠ some '\\' ∨ startsEscape d = false)) :
      ∃ before after, front ++ u = before ++ d :: after ∧
        (before.getLast? ≠ some '\\' ∨ startsEscape d = false) := by
    obtain ⟨before, after, rfl, hbefore⟩ := hplace
    refine ⟨front ++ before, after, by simp, hbefore.imp_left fun hlast => ?_⟩
    rcases List.eq_nil_or_concat before with rfl | ⟨before, c, rfl⟩
    · rwa [List.append_nil]
    · simpa [← List.append_assoc] using hlast
  induction heven with
  | nil => cases hd
  | @char c u v hc _ ih =>
    rcases List.mem_cons.mp hd with rfl | hd
    · exact ⟨[], u, rfl, .inl (by simp)⟩
    · exact hlater [c] (by simpa using hc) (ih hd)
  | @kept c u v hc _ ih =>
    rw [List.mem_cons, List.mem_cons] at hd
    rcases hd with hd | rfl | hd
    · exact absurd hd hslash
    · exact ⟨['\\'], u, rfl, .inr hc⟩
    · exact hlater ['\\', c] (by simpa using ne_backslash_of_startsEscape hc) (ih hd)
  | @spelled c u v hc _ ih =>
    obtain ⟨body, hbody, hhex, -⟩ := exists_hexEscape_eq c
    rw [hbody, List.cons_append, List.mem_cons, List.mem_append] at hd
    rcases hd with hd | hd | hd
    · exact absurd hd hslash
    · rw [hhex d hd] at hword
      cases hword
    · exact hlater ['\\', c] (by simpa using ne_backslash_of_le hc) (ih hd)
  | @backslash piece u v hpiece hplain _ ih =>
    rcases List.mem_cons.mp hd with hd | hd
    · exact absurd hd hslash
    · refine hlater ('\\' :: piece) ?_ (ih hd)
      rw [List.getLast?_cons_of_ne_nil hpiece]
      exact fun hlast => hplain (List.mem_of_getLast? hlast)

/-- A text that is decoded to itself from the first backslash on has no escapes. -/
theorem DecodesEvenly.eq_self {u v : Text} (heven : DecodesEvenly u v)
    (hsame : u.dropWhile (· != '\\') = v.dropWhile (· != '\\')) :
    v = u ∧ hasEscape u = false := by
  induction heven with
  | nil => exact ⟨rfl, rfl⟩
  | @char c u v hc _ ih =>
    have hpass : (c != '\\') = true := bne_iff_ne.mpr hc
    rw [List.dropWhile_cons, List.dropWhile_cons, if_pos hpass, if_pos hpass] at hsame
    obtain ⟨rfl, hnone⟩ := ih hsame
    exact ⟨rfl, by simp [hasEscape, hc, hnone]⟩
  | @kept c u v hc _ ih =>
    have hrest : u = v := by simpa using hsame
    obtain ⟨rfl, hnone⟩ := ih (by rw [hrest])
    exact ⟨rfl, by simp [hasEscape, hc, hnone, ne_backslash_of_startsEscape hc]⟩
  | @spelled c u v hc _ _ =>
    -- The first digit would have to be the character beyond ASCII.
    obtain ⟨body, hbody, hword, hescape⟩ := exists_hexEscape_eq c
    have hrest : c :: u = body ++ v := by simpa [hbody] using hsame
    cases body with
    | nil => cases hescape []
    | cons d body =>
      obtain ⟨rfl, -⟩ := List.cons.inj hrest
      have hascii := toNat_lt_of_isWordChar (hword c List.mem_cons_self)
      omega
  | @backslash piece u v hpiece hplain _ ih =>
    -- The rest would have to be decoded to something longer.
    have hrest : piece ++ u = v := by simpa using hsame
    have hpass : ∀ d ∈ piece, (d != '\\') = true := fun d hd =>
      bne_iff_ne.mpr fun heq => hplain (heq ▸ hd)
    obtain ⟨rfl, -⟩ := ih (by rw [← hrest, List.dropWhile_append_of_pos hpass])
    exact absurd (by simpa using hrest) hpiece

end Text

namespace Template

open Text

/-! ## Reading a literal -/

/-- The inside of a string literal: every backslash hides the character after it, and the quote does
not stand but hidden. -/
inductive IsInside (quote : Char) : Text → Prop
  | nil : IsInside quote []
  | hidden {t : Text} (c : Char) (hrest : IsInside quote t) : IsInside quote ('\\' :: c :: t)
  | char {c : Char} {t : Text} (hquote : c ≠ quote) (hc : c ≠ '\\') (hrest : IsInside quote t) :
      IsInside quote (c :: t)

/-- A quote inside of a literal comes after a backslash. -/
theorem IsInside.getLast? {quote : Char} (hquote : quote ≠ '\\') {t before after : Text}
    (hinside : IsInside quote t) (hsplit : t = before ++ quote :: after) :
    before.getLast? = some '\\' := by
  induction hinside generalizing before with
  | nil => simp at hsplit
  | hidden c _ ih =>
    rcases before with - | ⟨a, - | ⟨b, before⟩⟩
    · exact absurd (List.cons.inj hsplit).1.symm hquote
    · rw [(List.cons.inj hsplit).1]
      rfl
    · simp only [List.cons_append, List.cons.injEq] at hsplit
      rw [List.getLast?_cons_cons, List.getLast?_cons, ih hsplit.2.2]
      rfl
  | char hc _ _ ih =>
    cases before with
    | nil => exact absurd (List.cons.inj hsplit).1 hc
    | cons a before =>
      rw [List.getLast?_cons, ih (List.cons.inj hsplit).2]
      rfl

/-- The end of a literal is the first quote that is not hidden. -/
theorem exists_inside_of_stringTail? {quote : Char} {t : Text} {n : Nat}
    (htail : stringTail? quote t = some n) :
    ∃ inside rest, t = inside ++ quote :: rest ∧ IsInside quote inside ∧
      n = inside.length + 1 := by
  fun_induction stringTail? quote t generalizing n with
  | case1 c cs ih =>
    obtain ⟨m, hm, rfl⟩ := Option.map_eq_some_iff.mp htail
    obtain ⟨inside, rest, rfl, hinside, rfl⟩ := ih hm
    exact ⟨'\\' :: c :: inside, rest, rfl, .hidden c hinside, rfl⟩
  | case2 c cs _ hquote =>
    obtain rfl := eq_of_beq hquote
    obtain rfl := Option.some.inj htail
    exact ⟨[], cs, rfl, .nil, rfl⟩
  | case3 => cases htail
  | case4 c cs _ hquote hc ih =>
    obtain ⟨m, hm, rfl⟩ := Option.map_eq_some_iff.mp htail
    obtain ⟨inside, rest, rfl, hinside, rfl⟩ := ih hm
    exact ⟨c :: inside, rest, rfl, .char (by simpa using hquote) (by simpa using hc) hinside, rfl⟩
  | case5 => cases htail

/-- A text without quotes and escapes is all of a literal's inside. -/
theorem stringTail?_of_hasEscape {quote : Char} (hne : quote ≠ '\\') {t : Text} (hquote : quote ∉ t)
    (ht : hasEscape t = false) (rest : Text) :
    stringTail? quote (t ++ quote :: rest) = some (t.length + 1) := by
  have hstep {c : Char} (hc : c ≠ quote) (hslash : c ≠ '\\') (u : Text) :
      stringTail? quote (c :: u) = (stringTail? quote u).map (· + 1) := by
    rw [stringTail?.eq_2 _ _ _ fun _ _ h => absurd h hslash, if_neg (by simpa using hc),
      if_neg (by simpa using hslash)]
  induction t with
  | nil => exact stringTail?_eq (by simp) (by simp) hne rest
  | cons c t ih =>
    rw [List.mem_cons, not_or] at hquote
    obtain ⟨hrest, hc | ⟨rfl, d, u, rfl, hd⟩⟩ := hasEscape_cons ht
    · rw [List.cons_append, hstep (Ne.symm hquote.1) hc, ih hquote.2 hrest, Option.map_some,
        List.length_cons]
    · have hnext := ih hquote.2 hrest
      rw [List.mem_cons, not_or] at hquote
      rw [List.cons_append, hstep (Ne.symm hquote.2.1) (ne_backslash_of_startsEscape hd)] at hnext
      obtain ⟨m, hm, heq⟩ := Option.map_eq_some_iff.mp hnext
      rw [List.cons_append, List.cons_append, stringTail?, hm, Option.map_some]
      simp only [List.length_cons, Option.some.injEq] at heq ⊢
      omega

section Quote

variable {kind : TagKind} {expected t : Text} {point : Bool} {quote : Char}

/-- A quote starts a literal and nothing else. -/
theorem symbol?_quote (hquote : quote = '\x27' ∨ quote = '\x22') :
    symbol? kind expected point (quote :: t) = (stringTail? quote t).bind fun n =>
      (unescape? (t.take (n - 1))).map fun inside =>
        ⟨[.ofText .string inside], n + 1, .tag kind expected false⟩ := by
  have hblank : isBlank quote = false := by rcases hquote with rfl | rfl <;> decide
  have hname : isNameChar quote = false := by rcases hquote with rfl | rfl <;> decide
  have hdigit : isDigit quote = false := by rcases hquote with rfl | rfl <;> decide
  have hoperator : operator? (quote :: t) = none := by rcases hquote with rfl | rfl <;> rfl
  have hstring : string? (quote :: t) = (stringTail? quote t).map (· + 1) := by
    rcases hquote with rfl | rfl <;> rfl
  cases htail : stringTail? quote t with
  | none =>
    simp [symbol?, hblank, hname, float?_eq_none hdigit, integer?_eq_none hdigit, hoperator,
      hstring, htail]
  | some n =>
    obtain ⟨inside, rest, -, -, rfl⟩ := exists_inside_of_stringTail? htail
    simp [symbol?, hblank, hname, float?_eq_none hdigit, integer?_eq_none hdigit, hstring, htail]

/-- A quote inside of a tag starts a symbol. -/
theorem step?_quote (hquote : quote = '\x27' ∨ quote = '\x22') :
    step? (.tag kind expected point) quote t = symbol? kind expected point (quote :: t) := by
  have hother : quote ∉ ['+', '-', '%', '\x7d'] := by rcases hquote with rfl | rfl <;> decide
  rw [step?, inTag?, end?_eq_none hother, ite_self]

/-- What is read from a tag that goes on with a quote starts with what a literal stands for. -/
theorem exists_inside_of_lexFrom (hquote : quote = '\x27' ∨ quote = '\x22') {tokens : List Token}
    (hlex : lexFrom 0 (.tag kind expected point) (quote :: t) = some tokens) :
    ∃ inside rest chars more, t = inside ++ quote :: rest ∧ IsInside quote inside ∧
      unescape? inside = some chars ∧ tokens = .ofText .string chars :: more := by
  rw [lexFrom, step?_quote hquote, symbol?_quote hquote] at hlex
  cases htail : stringTail? quote t with
  | none =>
    rw [htail] at hlex
    cases hlex
  | some n =>
    obtain ⟨inside, rest, rfl, hinside, rfl⟩ := exists_inside_of_stringTail? htail
    rw [htail, Option.bind_some, Nat.add_sub_cancel, List.take_left] at hlex
    cases hchars : unescape? inside with
    | none =>
      rw [hchars] at hlex
      cases hlex
    | some chars =>
      rw [hchars] at hlex
      obtain ⟨more, -, rfl⟩ := Option.map_eq_some_iff.mp hlex
      exact ⟨inside, rest, chars, more, rfl, hinside, hchars, rfl⟩

/-- A text without quotes and escapes is read back from between quotes. -/
theorem lexFrom_literal (hquote : quote = '\x27' ∨ quote = '\x22') {chars : Text}
    (hmissing : quote ∉ chars) (hchars : hasEscape chars = false) (rest : Text) :
    lexFrom 0 (.tag kind expected point) (quote :: (chars ++ quote :: rest)) =
      (lexFrom 0 (.tag kind expected false) rest).map (.ofText .string chars :: ·) := by
  have hne : quote ≠ '\\' := by rcases hquote with rfl | rfl <;> decide
  have hstep : step? (.tag kind expected point) quote ((chars ++ [quote]) ++ rest) =
      some ⟨[.ofText .string chars], (quote :: (chars ++ [quote])).length,
        .tag kind expected false⟩ := by
    rw [List.append_assoc, List.singleton_append, step?_quote hquote, symbol?_quote hquote,
      stringTail?_of_hasEscape hne hmissing hchars, Option.bind_some, Nat.add_sub_cancel,
      List.take_left, unescape?_of_hasEscape hchars, Option.map_some]
    simp
  have hlex := lexFrom_of_step? hstep
  rw [List.cons_append, List.append_assoc, List.singleton_append] at hlex
  exact hlex

end Quote

end Template

end PortableSql
