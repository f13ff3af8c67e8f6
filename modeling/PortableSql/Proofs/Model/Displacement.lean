import PortableSql.Proofs.Model.Nesting
import PortableSql.Proofs.Model.Spelling

/-!
# Calls that are found at the wrong place

A call that is not written as the engine writes it is searched in lower case, and the place where it
is found there is taken for a place of the text itself. Lower case makes two characters of a dotted
capital `I`, and one of every other character. So each dotted capital in front of the call moves the
place by one character, and what is found is no longer the call but what stands so many characters
behind its start. Since the parentheses of a call cannot be matched with themselves a few characters
further on, it then has another spelling than the call.
-/

namespace PortableSql

namespace Text

/-! ## Places in lower case -/

/-- Lower case of a character other than a sigma, whose lower case depends on what is around it. -/
def lowerImage (c : Char) : Text :=
  if c = 'İ' then ['i', '\u0307'] else [lowerChar c]

/-- Lower case is taken part by part. The part for a text has one more character for each dotted
capital in it. -/
theorem lowerAfter_append (context before rest : Text) :
    ∃ image, lowerAfter context (before ++ rest) =
        image ++ lowerAfter (before.reverse ++ context) rest ∧
      image.length = before.length + before.count 'İ' ∧
      ('Σ' ∉ before → image = before.flatMap lowerImage) := by
  induction before generalizing context with
  | nil => exact ⟨[], rfl, rfl, fun _ => rfl⟩
  | cons c before ih =>
    obtain ⟨image, hlower, hlength, himage⟩ := ih (c :: context)
    have hcontext : before.reverse ++ (c :: context) = (c :: before).reverse ++ context := by simp
    rw [List.cons_append, lowerAfter, hlower, hcontext]
    refine ⟨_, (List.append_assoc _ _ _).symm, ?_, fun hsigma => ?_⟩
    · rw [List.length_append, hlength, List.length_cons, List.count_cons]
      by_cases hdot : c = 'İ'
      · subst hdot
        simp only [beq_self_eq_true, if_true]
        have htwo : (if ('İ' == 'Σ') = true then
            [if (casedContext context && !casedContext (before ++ rest)) = true then 'ς' else 'σ']
            else ['i', '\u0307']).length = 2 := rfl
        omega
      · have hne : (c == 'İ') = false := by simpa using hdot
        simp only [hne, Bool.false_eq_true, if_false]
        split <;> simp only [List.length_singleton] <;> omega
    · rw [List.mem_cons, not_or] at hsigma
      have hne : (c == 'Σ') = false := by simpa using Ne.symm hsigma.1
      rw [himage hsigma.2, List.flatMap_cons]
      simp [lowerImage, hne]

/-- In lower case a text is longer by the number of its dotted capitals. -/
theorem length_lower (t : Text) : (lower t).length = t.length + t.count 'İ' := by
  obtain ⟨image, hlower, hlength, -⟩ := lowerAfter_append [] t []
  rw [List.append_nil] at hlower
  rw [lower, hlower, List.length_append, hlength]
  rfl

/-- Without a capital sigma, letters have lower-case forms of their own. -/
theorem lower_eq_flatMap {t : Text} (hsigma : 'Σ' ∉ t) : lower t = t.flatMap lowerImage := by
  obtain ⟨image, hlower, -, himage⟩ := lowerAfter_append [] t []
  rw [List.append_nil] at hlower
  rw [lower, hlower, himage hsigma]
  exact List.append_nil _

/-- The dotted capital becomes a letter and a mark. -/
theorem flatMap_lowerImage_dotted (t : Text) :
    ('İ' :: t).flatMap lowerImage = 'i' :: '\u0307' :: t.flatMap lowerImage := rfl

/-- Any other letter becomes one letter. -/
theorem flatMap_lowerImage_cons {c : Char} (hc : c ≠ 'İ') (t : Text) :
    (c :: t).flatMap lowerImage = lowerChar c :: t.flatMap lowerImage := by
  rw [List.flatMap_cons, lowerImage, if_neg hc]
  rfl

/-- Without dotted capitals, letters become one letter each. -/
theorem flatMap_lowerImage {t : Text} (hdot : 'İ' ∉ t) :
    t.flatMap lowerImage = t.map lowerChar := by
  rw [List.map_eq_flatMap]
  refine List.flatMap_congr fun c hc => ?_
  rw [lowerImage, if_neg]
  rintro rfl
  exact hdot hc

/-- Without dotted capitals up to its end, a part of the lower case is the lower case of what stands
at its place. -/
theorem lower_part {region front part tail : Text} (hlower : lower region = front ++ part ++ tail)
    (hdots : 'İ' ∉ region.take (front.length + part.length))
    (hsigma : 'Σ' ∉ (region.drop front.length).take part.length) :
    lower ((region.drop front.length).take part.length) = part := by
  -- The text is long enough: otherwise it has no dotted capital and is as long as its lower case.
  have henough : front.length + part.length ≤ region.length := by
    by_contra hshort
    rw [List.take_of_length_le (by omega)] at hdots
    have hlength := length_lower region
    rw [hlower, List.count_eq_zero_of_not_mem hdots] at hlength
    simp only [List.length_append] at hlength
    omega
  have hsplit : region = region.take front.length ++
      ((region.drop front.length).take part.length ++
        region.drop (front.length + part.length)) := by
    rw [← List.drop_drop, List.take_append_drop, List.take_append_drop]
  rw [List.take_add, List.mem_append, not_or] at hdots
  generalize hfirst : region.take front.length = first at hsplit hdots
  generalize hwindow : (region.drop front.length).take part.length = window at *
  have hfirstLength : first.length = front.length := by rw [← hfirst, List.length_take]; omega
  have hwindowLength : window.length = part.length := by
    rw [← hwindow, List.length_take, List.length_drop]
    omega
  obtain ⟨before, hbefore, hbeforeLength, -⟩ :=
    lowerAfter_append [] first (window ++ region.drop (front.length + part.length))
  obtain ⟨image, himage, -, hsame⟩ := lowerAfter_append (first.reverse ++ []) window
    (region.drop (front.length + part.length))
  rw [List.count_eq_zero_of_not_mem hdots.1] at hbeforeLength
  rw [lower, hsplit, hbefore, himage, List.append_assoc] at hlower
  obtain ⟨-, hrest⟩ := List.append_inj hlower (by omega)
  have hlength : image.length = part.length := by
    rw [hsame hsigma, flatMap_lowerImage hdots.2, List.length_map, hwindowLength]
  rw [lower_eq_flatMap hsigma, ← hsame hsigma]
  exact (List.append_inj hrest hlength).1

/-- Lower case can be cut wherever the dot of a dotted capital does not follow. -/
theorem exists_split_of_lowerImage {t front rest : Text}
    (hsplit : t.flatMap lowerImage = front ++ rest) (hrest : rest.head? ≠ some '\u0307') :
    ∃ before after, t = before ++ after ∧ before.flatMap lowerImage = front ∧
      after.flatMap lowerImage = rest := by
  induction t generalizing front with
  | nil =>
    obtain ⟨rfl, rfl⟩ := List.append_eq_nil_iff.mp hsplit.symm
    exact ⟨[], [], rfl, rfl, rfl⟩
  | cons c t ih =>
    cases front with
    | nil => exact ⟨[], c :: t, rfl, rfl, hsplit⟩
    | cons d front =>
      by_cases hdot : c = 'İ'
      · subst hdot
        rw [flatMap_lowerImage_dotted, List.cons_append, List.cons.injEq] at hsplit
        obtain ⟨rfl, hsplit⟩ := hsplit
        cases front with
        | nil =>
          refine absurd ?_ hrest
          rw [← List.nil_append rest, ← hsplit]
          rfl
        | cons e front =>
          rw [List.cons_append, List.cons.injEq] at hsplit
          obtain ⟨rfl, hsplit⟩ := hsplit
          obtain ⟨before, after, rfl, rfl, rfl⟩ := ih hsplit
          exact ⟨'İ' :: before, after, rfl, rfl, rfl⟩
      · rw [flatMap_lowerImage_cons hdot, List.cons_append, List.cons.injEq] at hsplit
        obtain ⟨rfl, hsplit⟩ := hsplit
        obtain ⟨before, after, rfl, rfl, rfl⟩ := ih hsplit
        exact ⟨c :: before, after, rfl, flatMap_lowerImage_cons hdot before, rfl⟩

/-- What the lower case starts with, unless it has a part of a dotted capital in it, is the lower
case of what the text starts with. -/
theorem exists_piece_of_lowerImage {t part tail : Text}
    (hsplit : t.flatMap lowerImage = part ++ tail) (hdot : '\u0307' ∉ part)
    (hlast : part.getLast? ≠ some 'i') :
    ∃ piece after, t = piece ++ after ∧ 'İ' ∉ piece ∧ piece.map lowerChar = part := by
  induction part generalizing t with
  | nil => exact ⟨[], t, rfl, by simp, rfl⟩
  | cons d part ih =>
    rw [List.mem_cons, not_or] at hdot
    cases t with
    | nil => cases hsplit
    | cons c t =>
      by_cases hcapital : c = 'İ'
      · subst hcapital
        rw [flatMap_lowerImage_dotted, List.cons_append, List.cons.injEq] at hsplit
        obtain ⟨rfl, hsplit⟩ := hsplit
        cases part with
        | nil => exact absurd rfl hlast
        | cons e part =>
          rw [List.cons_append, List.cons.injEq] at hsplit
          obtain ⟨rfl, -⟩ := hsplit
          exact absurd List.mem_cons_self hdot.2
      · rw [flatMap_lowerImage_cons hcapital, List.cons_append, List.cons.injEq] at hsplit
        obtain ⟨rfl, hsplit⟩ := hsplit
        have hlater : part.getLast? ≠ some 'i' := by
          intro hend
          exact hlast (by rw [List.getLast?_cons, hend]; rfl)
        obtain ⟨piece, after, rfl, hpiece, rfl⟩ := ih hsplit hdot.2 hlater
        refine ⟨c :: piece, after, rfl, ?_, rfl⟩
        rw [List.mem_cons, not_or]
        exact ⟨Ne.symm hcapital, hpiece⟩

/-! ## Parentheses -/

/-- A character without case is as frequent in lower case. -/
theorem IsCaseless.count_map {p : Char} (hp : IsCaseless p) (t : Text) :
    (t.map lowerChar).count p = t.count p := by
  induction t with
  | nil => rfl
  | cons c t ih =>
    rw [List.map_cons, List.count_cons, List.count_cons, ih]
    have hsame : lowerChar c = p ↔ c = p := ⟨hp.2 c, fun h => h ▸ hp.1⟩
    simp only [beq_iff_eq, hsame]

/-- As many parentheses are open after a text as it opens and does not close. -/
theorem count_of_openParens? {n m : Nat} {t : Text} (hopen : openParens? n t = some m) :
    n + t.count '(' = m + t.count ')' := by
  induction t generalizing n with
  | nil => simpa [openParens?] using hopen
  | cons c t ih =>
    simp only [openParens?, beq_iff_eq] at hopen
    split at hopen
    next hc =>
      have hrest := ih hopen
      simp only [hc, List.count_cons, beq_self_eq_true, if_true]
      simp
      omega
    next hnotOpen =>
      split at hopen
      next hc =>
        split at hopen
        next => cases hopen
        next hpos =>
          have hrest := ih hopen
          simp only [hc, List.count_cons, beq_self_eq_true, if_true]
          simp
          omega
      next hnotClose =>
        have hrest := ih hopen
        simp only [List.count_cons, beq_iff_eq, hnotOpen, hnotClose, if_false]
        omega

/-- A front without parentheses leaves the parentheses nested. -/
theorem isNested_append_of_plain {front rest : Text} (hopen : '(' ∉ front) (hclose : ')' ∉ front)
    (hrest : IsNested rest) : IsNested (front ++ rest) := by
  induction front with
  | nil => exact hrest
  | cons c front ih =>
    rw [List.mem_cons, not_or] at hopen hclose
    exact .plain (Ne.symm hopen.1) (Ne.symm hclose.1) (ih hopen.2 hclose.2)

/-- The end of a well nested text closes what its start has opened. -/
theorem IsNested.count_end_le {first second : Text} (hnested : IsNested (first ++ second)) :
    second.count '(' ≤ second.count ')' := by
  have hclosed := hnested.openParens? 0
  rw [openParens?_append] at hclosed
  obtain ⟨n, -, hsecond⟩ := Option.bind_eq_some_iff.mp hclosed
  have hcount := count_of_openParens? hsecond
  omega

/-- Up to the end of what stands in a pair of parentheses, the first of them is not closed. -/
theorem count_lt_of_prefix {front inner start : Text} (hopen : '(' ∉ front) (hclose : ')' ∉ front)
    (hinner : IsNested inner) (hstart : start <+: front ++ '(' :: inner) (hmem : ')' ∈ start) :
    start.count ')' < start.count '(' := by
  induction front generalizing start with
  | nil =>
    rcases List.prefix_cons_iff.mp hstart with rfl | ⟨inside, rfl, rest, rfl⟩
    · cases hmem
    · have hclosed := hinner.openParens? 0
      rw [openParens?_append] at hclosed
      obtain ⟨n, hinside, -⟩ := Option.bind_eq_some_iff.mp hclosed
      have hcount := count_of_openParens? hinside
      rw [List.count_cons_self, List.count_cons_of_ne (by decide)]
      omega
  | cons c front ih =>
    rw [List.mem_cons, not_or] at hopen hclose
    rcases List.prefix_cons_iff.mp hstart with rfl | ⟨more, rfl, hmore⟩
    · cases hmem
    · rw [List.count_cons_of_ne (Ne.symm hopen.1), List.count_cons_of_ne (Ne.symm hclose.1)]
      exact ih hopen.2 hclose.2 hmore ((List.mem_cons.mp hmem).resolve_left hclose.1)

end Text

namespace Model

open Text

/-- No end of a call, other than the whole, has the lower case of a start of it. -/
theorem StartsWithCall.map_drop_ne {sql inner : Text} (hcall : StartsWithCall sql inner [])
    {k : Nat} (hpositive : 0 < k) (hlt : k < sql.length) :
    (sql.drop k).map lowerChar ≠ (sql.take (sql.length - k)).map lowerChar := by
  cases hcall with
  | @call name blanks _ _ hname hblanks hinner _ =>
    intro hsame
    have hopen := not_mem_front hname hblanks (.inl rfl)
    have hclose := not_mem_front hname hblanks (.inr rfl)
    have hsql : name ++ (blanks ++ '(' :: (inner ++ [')'])) =
        (name ++ blanks ++ '(' :: inner) ++ [')'] := by simp
    have hnested : IsNested (name ++ (blanks ++ '(' :: (inner ++ [')']))) := by
      rw [← List.append_assoc]
      exact isNested_append_of_plain hopen hclose (.group hinner .nil)
    rw [hsql] at hsame hnested hlt
    generalize hinit : name ++ blanks ++ '(' :: inner = init at hsame hnested hlt
    rw [List.length_append, List.length_singleton] at hsame hlt
    rw [List.drop_append_of_le_length (by omega), List.take_append_of_le_length (by omega)] at hsame
    -- Start and end have the same parentheses, but the end closes more of them than it opens.
    have hparen {p : Char} (hp : IsCaseless p) :
        (init.drop k ++ [')']).count p = (init.take (init.length + 1 - k)).count p := by
      rw [← hp.count_map, hsame, hp.count_map]
    have hopens : (init.drop k ++ [')']).count '(' = _ := hparen (isCaseless_delimiter (by simp))
    have hcloses : (init.drop k ++ [')']).count ')' = _ := hparen (isCaseless_delimiter (by simp))
    rw [← List.take_append_drop k init, List.append_assoc] at hnested
    have hend := hnested.count_end_le
    have hmem : ')' ∈ init.take (init.length + 1 - k) := by
      rw [← List.count_pos_iff, ← hcloses, List.count_pos_iff]
      simp
    have hstart : init.take (init.length + 1 - k) <+: name ++ blanks ++ '(' :: inner := by
      rw [hinit]
      exact List.take_prefix _ init
    have hmore := count_lt_of_prefix hopen hclose hinner hstart hmem
    omega

/-- The last parenthesis of a call is its last character. -/
theorem StartsWithCall.getLast?_eq {sql inner : Text} (hcall : StartsWithCall sql inner []) :
    sql.getLast? = some ')' := by
  cases hcall with
  | @call name blanks =>
    rw [← List.append_assoc, ← List.cons_append, ← List.append_assoc, List.getLast?_concat]

/-! ## What is found -/

/-- The place where a call is found is that of a spelling of it: the call is written as it is, or
there is no dotted capital up to the end of the place. -/
def KeepsPlace (sql region : Text) : Prop :=
  sql <:+: region ∨ ∃ n, indexOf? (lower sql) (lower region) = some n ∧
    'İ' ∉ region.take (n + sql.length)

/-- A call is found as it is written, or else at its place in lower case. -/
theorem findSpelling?_cases {sql region found : Text}
    (hfound : findSpelling? sql region = some found) :
    (sql <:+: region ∧ found = sql) ∨ (¬sql <:+: region ∧ ∃ front tail : Text,
      lower region = front ++ lower sql ++ tail ∧
      indexOf? (lower sql) (lower region) = some front.length ∧
      found = (region.drop front.length).take sql.length) := by
  simp only [findSpelling?] at hfound
  split at hfound
  next hincludes =>
    exact .inl ⟨includes_eq_true_iff.mp hincludes, (Option.some.inj hfound).symm⟩
  next hincludes =>
    rw [includes_eq_true_iff] at hincludes
    split at hfound
    next n hn =>
      obtain ⟨front, tail, hsplit, rfl⟩ := exists_split_of_indexOf? hn
      exact .inr ⟨hincludes, front, tail, hsplit, hn, (Option.some.inj hfound).symm⟩
    next => cases hfound

/-- What is found at a place that is kept is a spelling of the call. -/
theorem lower_found_of_keepsPlace {sql region found : Text} (hdot : 'İ' ∉ sql)
    (hsigma : 'Σ' ∉ found) (hkeeps : KeepsPlace sql region)
    (hfound : findSpelling? sql region = some found) : lower found = lower sql := by
  rcases findSpelling?_cases hfound with ⟨-, rfl⟩ | ⟨hnot, front, tail, hlower, hn, rfl⟩
  · rfl
  · have hlength : (lower sql).length = sql.length := by
      rw [length_lower, List.count_eq_zero_of_not_mem hdot, Nat.add_zero]
    rcases hkeeps with hwritten | ⟨n, hindex, hdots⟩
    · exact absurd hwritten hnot
    · obtain rfl := Option.some.inj (hn.symm.trans hindex)
      rw [← hlength] at hdots hsigma ⊢
      exact lower_part hlower hdots hsigma

/-- A call that is found in lower case stands in the text, behind a part that has as many dotted
capitals as the place is moved. -/
theorem exists_place_of_lower {sql region front tail : Text} (hsql : sql.HasSimpleCase)
    (hmark : '\u0307' ∉ sql) (hlast : sql.getLast? = some ')') (hsigma : 'Σ' ∉ region)
    (hlower : lower region = front ++ lower sql ++ tail) :
    ∃ before piece after, region = before ++ piece ++ after ∧
      front.length = before.length + before.count 'İ' ∧ 'İ' ∉ piece ∧
      piece.map lowerChar = sql.map lowerChar := by
  have hmarkLower : '\u0307' ∉ sql.map lowerChar := by
    intro hmem
    obtain ⟨c, hc, himage⟩ := List.mem_map.mp hmem
    have hself := lowerChar_eq_self (p := '\u0307') (by decide +kernel) (by decide) himage
    exact hmark (hself ▸ hc)
  have hend : (sql.map lowerChar).getLast? = some ')' := by
    rw [List.getLast?_map, hlast]
    rfl
  rw [lower_eq_map hsql, lower_eq_flatMap hsigma, List.append_assoc] at hlower
  have hhead : (sql.map lowerChar ++ tail).head? ≠ some '\u0307' := by
    intro hhead
    cases sql with
    | nil => cases hlast
    | cons c sql => exact hmarkLower (by simp_all)
  obtain ⟨before, rest, rfl, rfl, hrest⟩ := exists_split_of_lowerImage hlower hhead
  obtain ⟨piece, after, rfl, hpiece, hmap⟩ :=
    exists_piece_of_lowerImage hrest hmarkLower (by simp [hend])
  have hbefore : 'Σ' ∉ before := fun hmem => hsigma (List.mem_append_left _ hmem)
  refine ⟨before, piece, after, by simp, ?_, hpiece, hmap⟩
  rw [← lower_eq_flatMap hbefore, length_lower]

/-- What stands a few characters behind the start of a spelling of a call is no spelling of it. -/
theorem StartsWithCall.eq_zero_of_lower {sql inner piece after : Text} {k : Nat}
    (hcall : StartsWithCall sql inner []) (hsql : sql.HasSimpleCase) (hpiece : 'İ' ∉ piece)
    (hmap : piece.map lowerChar = sql.map lowerChar) (hsigma : 'Σ' ∉ piece ++ after)
    (hk : k < sql.length)
    (hsame : lower (((piece ++ after).drop k).take sql.length) = lower sql) : k = 0 := by
  by_contra hzero
  have hlength : piece.length = sql.length := by simpa using congrArg List.length hmap
  have hwindow : ((piece ++ after).drop k).take sql.length = piece.drop k ++ after.take k := by
    rw [List.drop_append_of_le_length (by omega), List.take_append, List.length_drop,
      List.take_of_length_le (by rw [List.length_drop]; omega)]
    congr 2
    omega
  have hnoSigma : 'Σ' ∉ piece.drop k ++ after.take k := by
    intro hmem
    rcases List.mem_append.mp hmem with hmem | hmem
    · exact hsigma (List.mem_append_left _ (List.mem_of_mem_drop hmem))
    · exact hsigma (List.mem_append_right _ (List.mem_of_mem_take hmem))
  have hnoDot : 'İ' ∉ piece.drop k := fun hmem => hpiece (List.mem_of_mem_drop hmem)
  rw [hwindow, lower_eq_flatMap hnoSigma, List.flatMap_append, flatMap_lowerImage hnoDot,
    lower_eq_map hsql, List.map_drop, hmap, ← List.map_drop] at hsame
  -- So the call without its first characters has the lower case of a start of the call.
  have hstart := congrArg (List.take (sql.length - k)) hsame
  rw [List.take_left' (by simp), ← List.map_take] at hstart
  exact hcall.map_drop_ne (Nat.pos_of_ne_zero hzero) hk hstart

/-- What is found of a call is always a part of the text. It is a spelling of the call if its place
is kept. If there are fewer dotted capitals in the text than characters in the call, it is one only
if its place is kept. -/
theorem found_text_spells_call_iff {sql region found : Text}
    (hfound : findSpelling? sql region = some found) :
    found <:+: region ∧
    ('İ' ∉ sql → 'Σ' ∉ found → KeepsPlace sql region → lower found = lower sql) ∧
    ∀ inner, StartsWithCall sql inner [] → sql.HasSimpleCase → '\u0307' ∉ sql → 'Σ' ∉ region →
      region.count 'İ' < sql.length → (lower found = lower sql ↔ KeepsPlace sql region) := by
  have hpart := isInfix_of_findSpelling? hfound
  refine ⟨hpart, fun hdot hsigma hkeeps => lower_found_of_keepsPlace hdot hsigma hkeeps hfound,
    fun inner hcall hsql hmark hsigma hfew => ⟨fun hsame => ?_, fun hkeeps =>
      lower_found_of_keepsPlace hsql.1 (fun hmem => hsigma (hpart.subset hmem)) hkeeps hfound⟩⟩
  rcases findSpelling?_cases hfound with ⟨hwritten, -⟩ | ⟨-, front, tail, hlower, hn, rfl⟩
  · exact .inl hwritten
  · obtain ⟨before, piece, after, rfl, hfront, hpiece, hmap⟩ :=
      exists_place_of_lower hsql hmark hcall.getLast?_eq hsigma hlower
    rw [List.append_assoc] at hsigma hsame hfew
    have hmoved : before.count 'İ' < sql.length := by
      rw [List.count_append] at hfew
      omega
    have hrest : 'Σ' ∉ piece ++ after := fun hmem => hsigma (List.mem_append_right _ hmem)
    rw [hfront, ← List.drop_drop, List.drop_left] at hsame
    have hzero := hcall.eq_zero_of_lower hsql hpiece hmap hrest hmoved hsame
    have hlength : piece.length = sql.length := by simpa using congrArg List.length hmap
    refine .inr ⟨front.length, hn, ?_⟩
    rw [hfront, hzero, Nat.add_zero, ← hlength, ← List.length_append, List.take_left,
      List.mem_append, not_or]
    exact ⟨List.count_eq_zero.mp hzero, hpiece⟩

/-- A dotted capital behind the call does no harm, and one in front of it does. -/
theorem found_text_spells_call_iff_city :
    let sql := "NVL(a, b)".toList
    let behind := "SELECT nvl(a, b), 'İzmir'".toList
    let inFront := "SELECT 'İzmir', nvl(a, b) AS x".toList
    findSpelling? sql behind = some "nvl(a, b)".toList ∧
      (lower "nvl(a, b)".toList = lower sql ↔ KeepsPlace sql behind) ∧ KeepsPlace sql behind ∧
      findSpelling? sql inFront = some "vl(a, b) ".toList ∧
      (lower "vl(a, b) ".toList = lower sql ↔ KeepsPlace sql inFront) := by
  intro sql behind inFront
  have hbehind : findSpelling? sql behind = some "nvl(a, b)".toList := by decide +kernel
  have hinFront : findSpelling? sql inFront = some "vl(a, b) ".toList := by decide +kernel
  have hcall : StartsWithCall sql "a, b".toList [] :=
    @StartsWithCall.call "NVL".toList [] "a, b".toList [] rfl (by simp) (by decide) .nil
  obtain ⟨-, -, hiff⟩ := found_text_spells_call_iff hbehind
  obtain ⟨-, -, hother⟩ := found_text_spells_call_iff hinFront
  refine ⟨hbehind, hiff _ hcall (by decide) (by decide) (by decide) (by decide), .inr ⟨7, ?_, ?_⟩,
    hinFront, hother _ hcall (by decide) (by decide) (by decide) (by decide)⟩
  · decide +kernel
  · decide

/-- The first letter of the name is left in front of the macro call. -/
theorem call_is_found_one_character_late :
    let sql := "NVL(a, b)".toList
    let region := "SELECT 'İzmir', nvl(a, b)".toList
    findSpelling? sql region = some "vl(a, b)".toList ∧ lower "vl(a, b)".toList ≠ lower sql ∧
      replaceCall region ⟨0, sql, "\x7b\x7b portable_nvl('a, b') \x7d\x7d".toList⟩ =
        "SELECT 'İzmir', n\x7b\x7b portable_nvl('a, b') \x7d\x7d".toList := by
  decide +kernel

end Model

end PortableSql
