import Mathlib.Data.List.Infix
import PortableSql.Proofs.Model.Precedence

/-!
# Calls that stand apart from names

A call is searched by its characters, and nothing asks what stands next to the place where it is
found: the call `LENGTH(x)` is found in `CHAR_LENGTH(x)` too. So a replacement keeps clear of longer
names only if the text has no such place outside of its tags. Replacements do not make new ones,
since a macro call begins and ends with braces and is a tag itself.
-/

namespace PortableSql

/-! ## Counting pairs around a tag -/

namespace Text

/-- There are no pairs of a character that is missing. -/
theorem countPairs_of_not_mem {c : Char} {t : Text} (hmissing : c ∉ t) : countPairs c t = 0 :=
  countPairs_eq_zero fun before after hsplit => absurd (by simp [hsplit]) hmissing

/-- Two more of the character are one more pair, however many stand before. -/
theorem countPairs_pair (c : Char) (t : Text) :
    countPairs c (t ++ [c, c]) = countPairs c t + 1 := by
  fun_induction countPairs c t with
  | case1 a b rest hpair ih =>
    rw [List.cons_append, List.cons_append, countPairs, if_pos hpair, ih]
  | case2 a b rest hpair ih =>
    rw [List.cons_append, List.cons_append, countPairs, if_neg hpair]
    exact ih
  | case3 t hshort =>
    rcases t with - | ⟨a, - | ⟨b, rest⟩⟩
    · simp [countPairs]
    · by_cases hsame : a = c <;> simp [countPairs, hsame]
    · exact absurd rfl (hshort a b rest)

/-- There are as many pairs or more in a longer text. -/
theorem countPairs_le_append (c : Char) (first second : Text) :
    countPairs c first ≤ countPairs c (first ++ second) := by
  fun_induction countPairs c first with
  | case1 a b rest hpair ih =>
    rw [List.cons_append, List.cons_append, countPairs, if_pos hpair]
    omega
  | case2 a b rest hpair ih =>
    rw [List.cons_append, List.cons_append, countPairs, if_neg hpair]
    exact ih
  | case3 t hshort => exact Nat.zero_le _

/-- A piece without the character keeps the pairs on its sides apart. -/
theorem countPairs_around {c : Char} {before piece after : Text} (hmissing : c ∉ piece)
    (hne : piece ≠ []) :
    countPairs c (before ++ piece ++ after) = countPairs c before + countPairs c after := by
  have hhead : piece.head? ≠ some c := fun hhead => hmissing (List.mem_of_mem_head? hhead)
  have hlast : (before ++ piece).getLast? ≠ some c := by
    rw [List.getLast?_append_of_ne_nil _ hne]
    exact fun hlast => hmissing (List.mem_of_getLast? hlast)
  rw [countPairs_append (.inl hlast), countPairs_append (.inr hhead),
    countPairs_of_not_mem hmissing, Nat.add_zero]

/-- A tag without braces inside opens one pair, and it closes one. -/
theorem countPairs_tag {inside : Text} (hinside : inside.IsBraceless) (before after : Text) :
    countPairs '\x7b' (before ++ tagged inside ++ after) =
      countPairs '\x7b' before + 1 + countPairs '\x7b' after ∧
    countPairs '\x7d' (before ++ tagged inside ++ after) =
      countPairs '\x7d' before + 1 + countPairs '\x7d' after := by
  constructor
  · have hparts : before ++ tagged inside ++ after =
        (before ++ ['\x7b', '\x7b']) ++ (inside ++ ['\x7d', '\x7d']) ++ after := by simp [tagged]
    rw [hparts, countPairs_around (by simp [hinside.1]) (by simp), countPairs_pair]
  · have hparts : before ++ tagged inside ++ after =
        before ++ ('\x7b' :: '\x7b' :: inside) ++ ('\x7d' :: '\x7d' :: after) := by simp [tagged]
    rw [hparts, countPairs_around (by simp [hinside.2]) (by simp), countPairs]
    simp only [beq_self_eq_true, Bool.and_self, if_true]
    omega

/-- A tag that is still open has opened one pair. -/
theorem countPairs_open_tag {inside : Text} (hinside : inside.IsBraceless) (before : Text) :
    countPairs '\x7b' (before ++ '\x7b' :: '\x7b' :: inside) = countPairs '\x7b' before + 1 ∧
    countPairs '\x7d' (before ++ '\x7b' :: '\x7b' :: inside) = countPairs '\x7d' before := by
  constructor
  · have hhead : inside.head? ≠ some '\x7b' := fun hhead => hinside.1 (List.mem_of_mem_head? hhead)
    rw [show before ++ '\x7b' :: '\x7b' :: inside = before ++ ['\x7b', '\x7b'] ++ inside by simp,
      countPairs_append (.inr hhead), countPairs_pair, hinside.countPairs_eq.1]
  · have hclosed : countPairs '\x7d' ('\x7b' :: '\x7b' :: inside) = 0 :=
      countPairs_of_not_mem (by simp [hinside.2])
    rw [countPairs_append (.inr (by simp)), hclosed, Nat.add_zero]

/-! ## Orderly texts -/

/-- A text in which no pair of braces closes before one opens for it. -/
def IsOrderly (t : Text) : Prop :=
  ∀ before ∈ t.inits, countPairs '\x7d' before ≤ countPairs '\x7b' before

instance (t : Text) : Decidable t.IsOrderly :=
  inferInstanceAs (Decidable (∀ before ∈ t.inits, _))

/-- No start of an orderly text has more closing pairs of braces than opening ones. -/
theorem IsOrderly.le {t : Text} (ht : t.IsOrderly) (before after : Text)
    (hsplit : t = before ++ after) :
    countPairs '\x7d' before ≤ countPairs '\x7b' before :=
  ht before (List.mem_inits _ _ |>.mpr ⟨after, hsplit.symm⟩)

/-- A start of a tag opens a pair before it closes one. -/
theorem countPairs_tag_start {before inside start rest : Text} (hinside : inside.IsBraceless)
    (hstart : tagged inside = start ++ rest)
    (hbefore : countPairs '\x7d' before ≤ countPairs '\x7b' before) :
    countPairs '\x7d' (before ++ start) ≤ countPairs '\x7b' (before ++ start) := by
  rcases start with - | ⟨a, - | ⟨b, start⟩⟩
  · simpa using hbefore
  · obtain ⟨rfl, -⟩ := List.cons.inj hstart
    have hclosed : countPairs '\x7d' (before ++ ['\x7b']) = countPairs '\x7d' before := by
      rw [countPairs_append (.inr (by simp))]
      simp [countPairs]
    have hopened := countPairs_le_append '\x7b' before ['\x7b']
    omega
  · have hbraces : a = '\x7b' ∧ b = '\x7b' := by
      simp only [tagged, List.cons_append, List.cons.injEq] at hstart
      exact ⟨hstart.1.symm, hstart.2.1.symm⟩
    obtain ⟨rfl, rfl⟩ := hbraces
    have hopened := countPairs_le_append '\x7b' (before ++ ['\x7b', '\x7b']) start
    have hclosed := countPairs_le_append '\x7d' (before ++ '\x7b' :: '\x7b' :: start) rest
    have hwhole := (countPairs_tag hinside before []).2
    rw [countPairs_pair, List.append_assoc] at hopened
    rw [List.append_nil, hstart, ← List.append_assoc] at hwhole
    simp only [List.cons_append, List.nil_append, countPairs] at hopened hwhole
    omega

/-- A tag in place of a piece leaves a text orderly. -/
theorem IsOrderly.insert {before piece after inside : Text}
    (ht : IsOrderly (before ++ piece ++ after)) (hpiece : piece.IsBraceless) (hne : piece ≠ [])
    (hinside : inside.IsBraceless) : IsOrderly (before ++ tagged inside ++ after) := by
  intro start hstart
  obtain ⟨rest, hsplit⟩ := (List.mem_inits _ _).mp hstart
  have hbefore := ht.le before (piece ++ after) (by simp)
  rcases List.append_eq_append_iff.mp hsplit with ⟨more, hfront, hrest⟩ | ⟨late, rfl, rfl⟩
  · rcases List.append_eq_append_iff.mp hfront with ⟨inner, rfl, htag⟩ | ⟨left, rfl, -⟩
    · exact countPairs_tag_start hinside htag hbefore
    · exact ht.le start (left ++ piece ++ after) (by simp)
  · have hold := ht.le (before ++ piece ++ late) rest (by simp)
    rw [countPairs_around hpiece.1 hne, countPairs_around hpiece.2 hne] at hold
    rw [(countPairs_tag hinside before late).1, (countPairs_tag hinside before late).2]
    omega

/-- Texts that are the same in lower case have the same length, if no letter changes the number of
letters. -/
theorem length_eq_of_lower_eq {first second : Text} (hfirst : first.HasSimpleCase)
    (hsecond : second.HasSimpleCase) (hlower : lower first = lower second) :
    first.length = second.length := by
  rw [lower_eq_map hfirst, lower_eq_map hsecond] at hlower
  simpa using congrArg List.length hlower

end Text

namespace Model

open Text

/-! ## Standing apart -/

/-- A place of a call is apart from names: no character of a name stands right before it, and none
stands right after it if the call ends in one. -/
def IsApart (sql before after : Text) : Prop :=
  before.getLast?.any isWord = false ∧
    (sql.getLast?.any isWord = true → after.head?.any isWord = false)

instance (sql before after : Text) : Decidable (IsApart sql before after) :=
  inferInstanceAs (Decidable (_ ∧ _))

/-- Every place outside of the tags of a text where it spells a call is apart from names. -/
def StandsApart (sql t : Text) : Prop :=
  ∀ n < t.length, lower ((t.drop n).take sql.length) = lower sql → endsInTag (t.take n) = false →
    IsApart sql (t.take n) (t.drop (n + sql.length))

instance (sql t : Text) : Decidable (StandsApart sql t) :=
  inferInstanceAs (Decidable (∀ n < t.length, _))

/-- The places of a call can be given by the parts of the text. -/
theorem standsApart_iff {sql t : Text} (hne : sql ≠ []) (hsql : sql.HasSimpleCase)
    (ht : t.HasSimpleCase) :
    StandsApart sql t ↔ ∀ before piece after, t = before ++ piece ++ after →
      lower piece = lower sql → endsInTag before = false → IsApart sql before after := by
  constructor
  · rintro hstands before piece after rfl hspells houtside
    obtain ⟨hfront, -⟩ := hasSimpleCase_append.mp ht
    have hlength := length_eq_of_lower_eq (hasSimpleCase_append.mp hfront).2 hsql hspells
    have hpositive := List.length_pos_of_ne_nil hne
    have hplace := hstands before.length (by simp only [List.length_append]; omega)
    rw [List.append_assoc, List.take_left, ← List.drop_drop, List.drop_left, ← hlength,
      List.take_left, List.drop_left] at hplace
    exact hplace hspells houtside
  · intro hparts n _ hspells houtside
    refine hparts (t.take n) ((t.drop n).take sql.length) (t.drop (n + sql.length)) ?_ hspells
      houtside
    rw [List.append_assoc, ← List.drop_drop, List.take_append_drop, List.take_append_drop]

/-- After the braces that open a tag, an orderly text is in a tag until the next brace. -/
theorem endsInTag_of_isOrderly {before rest inside : Text} (ht : IsOrderly (before ++ rest))
    (hinside : inside.IsBraceless) : endsInTag (before ++ '\x7b' :: '\x7b' :: inside) = true := by
  have hbalance := ht.le before rest rfl
  rw [endsInTag, decide_eq_true_iff, (countPairs_open_tag hinside before).1,
    (countPairs_open_tag hinside before).2]
  omega

/-- A tag in place of a piece keeps the other places of a call apart from names, and it makes no new
place. -/
theorem standsApart_insert {entry : Replacement} {before piece after inside : Text}
    (hentry : entry.IsPlain) (horderly : IsOrderly (before ++ piece ++ after))
    (hcase : HasSimpleCase (before ++ piece ++ after))
    (hstands : StandsApart entry.sql (before ++ piece ++ after))
    (hpiece : piece.IsBraceless) (hne : piece ≠ []) (houtside : endsInTag before = false)
    (hinside : inside.IsBraceless) (hmadeCase : HasSimpleCase (before ++ tagged inside ++ after)) :
    StandsApart entry.sql (before ++ tagged inside ++ after) := by
  rw [standsApart_iff hentry.nonempty hentry.sqlCase hcase] at hstands
  rw [standsApart_iff hentry.nonempty hentry.sqlCase hmadeCase]
  intro left place right hsplit hspells hplace
  have hfront := hmadeCase
  rw [hsplit] at hfront
  have hplaceCase := (hasSimpleCase_append.mp (hasSimpleCase_append.mp hfront).1).2
  have hbraceless := hentry.spelling hplaceCase hspells
  have hplaceNe : place ≠ [] := by
    rintro rfl
    have hlength := length_eq_of_lower_eq hplaceCase hentry.sqlCase hspells
    exact hentry.nonempty (List.eq_nil_of_length_eq_zero hlength.symm)
  rcases split_around_tag hbraceless hsplit
    with ⟨more, rfl, rfl⟩ | ⟨start, more, rfl, htag⟩ | ⟨late, rfl, rfl⟩
  · -- Before the tag, the next character is the same or the brace of the tag.
    obtain ⟨hbefore, hafter⟩ := hstands left place (more ++ piece ++ after) (by simp) hspells hplace
    refine ⟨hbefore, fun hends => ?_⟩
    cases more with
    | nil => rfl
    | cons c more => exact hafter hends
  · -- Inside of the tag, the count of pairs tells that the place is in a tag.
    obtain ⟨front, rest, rfl, rfl⟩ := split_tagged hbraceless hplaceNe htag
    have hfrontBraceless : IsBraceless front := hinside.of_subset fun c hc => by simp [hc]
    rw [List.append_assoc] at horderly
    rw [endsInTag_of_isOrderly horderly hfrontBraceless] at hplace
    cases hplace
  · -- After the tag, the count is that of the text without it.
    have hsame : endsInTag (before ++ piece ++ late) = false := by
      rw [endsInTag, (countPairs_tag hinside before late).1, (countPairs_tag hinside before late).2,
        decide_eq_false_iff_not] at hplace
      rw [endsInTag, countPairs_around hpiece.1 hne, countPairs_around hpiece.2 hne,
        decide_eq_false_iff_not]
      omega
    obtain ⟨hbefore, hafter⟩ :=
      hstands (before ++ piece ++ late) place right (by simp) hspells hsame
    refine ⟨?_, hafter⟩
    rcases List.eq_nil_or_concat late with rfl | ⟨late, c, rfl⟩
    · rw [List.append_nil, List.getLast?_append_of_ne_nil _ (by simp [tagged]), getLast?_tagged]
      rfl
    · simpa [← List.append_assoc] using hbefore

/-! ## Runs -/

/-- The place where a replacement is made: the first one of the spelling that is found. -/
structure ReplacedAt (text : Text) (entry : Replacement) (before piece after : Text) : Prop where
  found : findSpelling? entry.sql text = some piece
  split : text = before ++ piece ++ after
  first : indexOf? piece text = some before.length
  outside : endsInTag before = false
  made : replaceCall text entry = before ++ entry.macroCall ++ after

/-- What is needed of a text so that a call is replaced apart from names only. -/
structure KeepsApart (sql text : Text) : Prop where
  simpleCase : text.HasSimpleCase
  orderly : text.IsOrderly
  apart : StandsApart sql text

/-- A replacement is made at one place of the text. -/
theorem exists_replacedAt {text : Text} {entry : Replacement} (hentry : entry.IsPlain)
    (hcase : text.HasSimpleCase) (happlies : applies text entry = true) :
    ∃ before piece after, ReplacedAt text entry before piece after ∧
      lower piece = lower entry.sql := by
  unfold applies at happlies
  cases hfound : findSpelling? entry.sql text with
  | none =>
    rw [hfound] at happlies
    cases happlies
  | some piece =>
    obtain ⟨hspells, before, after, hsplit, hfirst⟩ :=
      findSpelling?_eq_some hentry.sqlCase hcase hfound
    rw [hfound, Bool.not_eq_true', Bool.or_eq_false_iff] at happlies
    obtain ⟨hempty, hinside⟩ := happlies
    refine ⟨before, piece, after, ⟨hfound, hsplit, hfirst, ?_, ?_⟩, hspells⟩
    · rw [isInsideTag, hfirst] at hinside
      simpa [hsplit] using hinside
    · simp only [replaceCall, hfound, hempty, hinside, Bool.or_self, Bool.false_eq_true, if_false,
        replaceFirst, hfirst]
      simp [hsplit]

/-- One replacement keeps a text in which a call is replaced apart from names only. -/
theorem KeepsApart.replaceCall {text : Text} {entry other : Replacement} (hentry : entry.IsPlain)
    (hother : other.IsPlain) (hkeeps : KeepsApart entry.sql text) :
    KeepsApart entry.sql (Model.replaceCall text other) := by
  rcases replaceCall_cases hother.sqlCase hkeeps.simpleCase
    with ⟨-, hsame⟩ | ⟨-, before, piece, after, rfl, hne, hspells, houtside, hmade⟩
  · rwa [hsame]
  · obtain ⟨hcase, horderly, hapart⟩ := hkeeps
    have hpiece : piece.HasSimpleCase := hcase.of_subset fun c hc => by simp [hc]
    have hbraceless := hother.spelling hpiece hspells
    have hmadeCase := hasSimpleCase_replaceCall hcase hother.callCase
    obtain ⟨inside, hinside, hcall⟩ := hother.call
    rw [hmade, hcall] at hmadeCase ⊢
    exact ⟨hmadeCase, horderly.insert hbraceless hne hinside,
      standsApart_insert hentry horderly hcase hapart hbraceless hne houtside hinside hmadeCase⟩

/-- Replacements one after the other keep it too. -/
theorem KeepsApart.replaceCalls {text : Text} {entry : Replacement} {others : List Replacement}
    (hentry : entry.IsPlain) (hothers : ∀ other ∈ others, other.IsPlain)
    (hkeeps : KeepsApart entry.sql text) :
    KeepsApart entry.sql (Model.replaceCalls text others) := by
  induction others generalizing text with
  | nil => exact hkeeps
  | cons other others ih =>
    obtain ⟨hother, hothers⟩ := List.forall_mem_cons.mp hothers
    exact ih hothers (hkeeps.replaceCall hentry hother)

/-- A call is replaced where its spelling is first found, whatever stands next to it. If the places
of the call outside of the tags of the region are all apart from names, then so is the place that is
replaced, also after other replacements. -/
theorem replaced_call_apart_from_names {region : Text} {earlier : List Replacement}
    {entry : Replacement} (hkeeps : KeepsApart entry.sql region)
    (hearlier : ∀ other ∈ earlier, other.IsPlain) (hentry : entry.IsPlain)
    (happlies : applies (replaceCalls region earlier) entry = true) :
    ∃ before piece after, ReplacedAt (replaceCalls region earlier) entry before piece after ∧
      lower piece = lower entry.sql ∧ IsApart entry.sql before after := by
  have hkept := hkeeps.replaceCalls hentry hearlier
  obtain ⟨before, piece, after, hplace, hspells⟩ :=
    exists_replacedAt hentry hkept.simpleCase happlies
  have hapart := (standsApart_iff hentry.nonempty hentry.sqlCase hkept.simpleCase).mp hkept.apart
  exact ⟨before, piece, after, hplace, hspells, hapart before piece after hplace.split hspells
    hplace.outside⟩

/-- A call whose function's name ends the names of other functions. -/
def lengthCall : Replacement :=
  ⟨1, "LENGTH(x)".toList, "\x7b\x7b portable_length('x') \x7d\x7d".toList⟩

/-- The longer name with another argument and the one inside of a tag do no harm, and the second
replacement is made apart from names as well as the first. -/
theorem replaced_call_apart_from_names_twice :
    ∃ before piece after,
      ReplacedAt (replaceCalls
        "SELECT CHAR_LENGTH(y), LENGTH(x), length(x), \x7b\x7b my_length(x) \x7d\x7d".toList
        [lengthCall]) lengthCall before piece after ∧
      lower piece = lower lengthCall.sql ∧ IsApart lengthCall.sql before after := by
  have hplain : lengthCall.IsPlain :=
    ⟨by decide, by decide, ⟨" portable_length('x') ".toList, by decide, rfl⟩, by decide, by decide⟩
  have hkeeps : KeepsApart lengthCall.sql
      "SELECT CHAR_LENGTH(y), LENGTH(x), length(x), \x7b\x7b my_length(x) \x7d\x7d".toList :=
    ⟨by decide +kernel, by decide +kernel, by decide +kernel⟩
  exact replaced_call_apart_from_names hkeeps (by simpa using hplain) hplain (by decide +kernel)

/-- The end of a longer name is replaced, although the call stands by itself later on. -/
theorem call_replaced_inside_longer_name :
    lengthCall.sql.head?.any isWord = true ∧
    ReplacedAt "SELECT CHAR_LENGTH(x), LENGTH(x) FROM t".toList lengthCall "SELECT CHAR_".toList
      "LENGTH(x)".toList ", LENGTH(x) FROM t".toList ∧
    ¬ IsApart lengthCall.sql "SELECT CHAR_".toList ", LENGTH(x) FROM t".toList := by
  refine ⟨by decide +kernel, ⟨?_, ?_, ?_, ?_, ?_⟩, ?_⟩ <;> decide +kernel

end Model

end PortableSql
