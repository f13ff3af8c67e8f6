import PortableSql.Proofs.Model.Pieces

/-!
# Which calls are passed over

A call is searched in the whole of a text, tags included, and only the first place where it is
found counts. So a call is replaced exactly if, of the parts of the text, the first that spells it
is no tag. A tag that spells it earlier hides the places behind it, and so does a macro call that
was put in before, for it holds the arguments of its own call.
-/

namespace PortableSql

/-! ## Searching part by part -/

namespace Text

/-- A pattern that is first found after a front part is found in the rest. -/
theorem indexOf?_of_append {pattern front rest : Text} {n : Nat}
    (hfound : indexOf? pattern (front ++ rest) = some n) (hlater : front.length ≤ n) :
    indexOf? pattern rest = some (n - front.length) := by
  induction front generalizing n with
  | nil => simpa using hfound
  | cons c front ih =>
    simp only [List.cons_append, indexOf?] at hfound
    split at hfound
    · obtain rfl := Option.some.inj hfound
      simp at hlater
    · obtain ⟨m, hm, rfl⟩ := Option.map_eq_some_iff.mp hfound
      rw [ih hm (by simpa using hlater)]
      simp

/-- A pattern that is first found after a front part does not occur in it. -/
theorem includes_eq_false_of_indexOf? {pattern front rest : Text} {n : Nat} (hne : pattern ≠ [])
    (hfound : indexOf? pattern (front ++ rest) = some n) (hlater : front.length ≤ n) :
    includes front pattern = false := by
  rw [← Bool.not_eq_true, includes_eq_true_iff]
  rintro ⟨before, after, rfl⟩
  obtain ⟨m, hm, hearly⟩ := exists_indexOf?_le before pattern (after ++ rest)
  rw [List.append_assoc, hearly, Option.some.injEq] at hfound
  have hpositive := List.length_pos_of_ne_nil hne
  simp only [List.length_append] at hlater
  omega

/-- A pattern without braces that occurs in a tag occurs inside of it. -/
theorem includes_of_tagged {pattern inside : Text} (hpattern : pattern.IsBraceless)
    (hne : pattern ≠ []) (hincludes : includes (tagged inside) pattern = true) :
    includes inside pattern = true := by
  obtain ⟨before, after, hsplit⟩ := includes_eq_true_iff.mp hincludes
  obtain ⟨front, rest, -, hinside⟩ := split_tagged hpattern hne hsplit.symm
  exact includes_eq_true_iff.mpr ⟨front, rest, hinside.symm⟩

/-- A piece without braces stands before a tag, inside of it or after it. -/
theorem split_around_tag {first inside rest before piece after : Text} (hpiece : piece.IsBraceless)
    (hsplit : first ++ tagged inside ++ rest = before ++ piece ++ after) :
    (∃ more, first = before ++ piece ++ more ∧ after = more ++ (tagged inside ++ rest)) ∨
    (∃ start more, before = first ++ start ∧ tagged inside = start ++ piece ++ more) ∨
    ∃ late, before = first ++ tagged inside ++ late ∧ rest = late ++ piece ++ after := by
  rw [List.append_assoc] at hsplit
  rcases part_of_append hpiece.1 (.inl rfl) hsplit with ⟨more, hhere, hafter⟩ | ⟨start, rfl, htail⟩
  · exact .inl ⟨more, hhere, hafter⟩
  · rcases part_of_append hpiece.2 (.inr (getLast?_tagged inside)) htail
      with ⟨more, htag, -⟩ | ⟨late, rfl, hlast⟩
    · exact .inr (.inl ⟨start, more, rfl, htag⟩)
    · exact .inr (.inr ⟨late, by simp, hlast⟩)

/-- A text without braces is neutral. -/
theorem IsBraceless.isNeutral {t : Text} (ht : t.IsBraceless) : t.IsNeutral where
  pairs := by rw [ht.countPairs_eq.1, ht.countPairs_eq.2]
  head := fun hhead => ht.2 (List.mem_of_mem_head? hhead)
  last := fun hlast => ht.1 (List.mem_of_getLast? hlast)

/-! ## Lower case part by part -/

/-- A text with simple case is put in lower case part by part. -/
theorem lower_append {first second : Text} (hcase : HasSimpleCase (first ++ second)) :
    lower (first ++ second) = lower first ++ lower second := by
  obtain ⟨hfirst, hsecond⟩ := hasSimpleCase_append.mp hcase
  rw [lower_eq_map hcase, lower_eq_map hfirst, lower_eq_map hsecond, List.map_append]

/-- What occurs in a text occurs in it in lower case. -/
theorem includes_lower {t pattern : Text} (hcase : t.HasSimpleCase)
    (hincludes : includes t pattern = true) : includes (lower t) (lower pattern) = true := by
  obtain ⟨before, after, rfl⟩ := includes_eq_true_iff.mp hincludes
  rw [lower_append hcase, lower_append (hasSimpleCase_append.mp hcase).1]
  exact includes_eq_true_iff.mpr ⟨lower before, lower after, rfl⟩

/-- A tag in lower case is a tag. -/
theorem lower_tagged {inside : Text} (hcase : (tagged inside).HasSimpleCase) :
    lower (tagged inside) = tagged (lower inside) := by
  have hinside : inside.HasSimpleCase := hcase.of_subset fun c hc => by simp [tagged, hc]
  rw [lower_eq_map hcase, lower_eq_map hinside]
  simp [tagged, (isCaseless_delimiter (p := '\x7b') (by simp)).1,
    (isCaseless_delimiter (p := '\x7d') (by simp)).1]

/-- A text without braces has none in lower case. -/
theorem IsBraceless.lower {t : Text} (ht : t.IsBraceless) : (lower t).IsBraceless :=
  ⟨fun hmem => ht.1 (mem_of_mem_lower rfl hmem), fun hmem => ht.2 (mem_of_mem_lower rfl hmem)⟩

/-- Pairs of a character without case are as many in the lower case of a text. -/
theorem countPairs_map_lowerChar {p : Char} (hp : IsCaseless p) (t : Text) :
    countPairs p (t.map lowerChar) = countPairs p t := by
  have hsame (c : Char) : (lowerChar c == p) = (c == p) := by
    rw [Bool.eq_iff_iff, beq_iff_eq, beq_iff_eq]
    exact ⟨hp.2 c, fun h => h ▸ hp.1⟩
  fun_induction countPairs p t with
  | case1 a b rest hpair ih => simp [countPairs, hsame, hpair, ih]
  | case2 a b rest hpair ih =>
    rw [List.map_cons, List.map_cons, countPairs, hsame, hsame, if_neg hpair, ← List.map_cons, ih]
  | case3 t hshort =>
    rcases t with - | ⟨a, - | ⟨b, rest⟩⟩
    · rfl
    · rfl
    · exact absurd rfl (hshort a b rest)

end Text

namespace Model

open Text

/-- A neutral front does not matter to whether a text ends in a tag. -/
theorem endsInTag_append {front rest : Text} (hfront : front.IsNeutral)
    (hrest : rest.head? ≠ some '\x7d') : endsInTag (front ++ rest) = endsInTag rest := by
  unfold endsInTag
  rw [countPairs_append (.inl hfront.last), countPairs_append (.inr hrest), hfront.pairs,
    decide_eq_decide]
  omega

/-- A neutral text ends outside of tags. -/
theorem endsInTag_of_isNeutral {t : Text} (ht : t.IsNeutral) : endsInTag t = false := by
  rw [endsInTag, ht.pairs, decide_eq_false_iff_not]
  omega

/-- A text that opens a tag ends inside of it. -/
theorem endsInTag_of_opensTag {t : Text} (ht : t.OpensTag) : endsInTag t = true :=
  decide_eq_true ht.countPairs_lt

/-- The case of letters does not matter to tags. -/
theorem endsInTag_map_lowerChar (t : Text) : endsInTag (t.map lowerChar) = endsInTag t := by
  unfold endsInTag
  rw [countPairs_map_lowerChar (isCaseless_delimiter (by simp)),
    countPairs_map_lowerChar (isCaseless_delimiter (by simp))]

/-! ## Texts and tags -/

/-- A text with expression tags that has no other braces. -/
inductive IsFlat : Text → List (Text × Text) → Prop
  | last {t : Text} (ht : t.IsBraceless) : IsFlat t []
  | tag {t inside next : Text} {tags : List (Text × Text)} (ht : t.IsBraceless)
      (hinside : inside.IsBraceless) (hrest : IsFlat next tags) : IsFlat t ((inside, next) :: tags)

/-- Whether, of the parts of a text with tags, the first with a property stands outside of the
tags. -/
def isFirstOutside (p : Text → Bool) : Text → List (Text × Text) → Bool
  | first, [] => p first
  | first, (inside, next) :: tags => p first || !p inside && isFirstOutside p next tags

/-- The texts around tags. -/
def outside (first : Text) (tags : List (Text × Text)) : List Text :=
  first :: tags.map (·.2)

/-- The tags of a text, each by its inside and the text after it, in lower case. -/
def lowered (tags : List (Text × Text)) : List (Text × Text) :=
  tags.map fun tag => (lower tag.1, lower tag.2)

section Flat

variable {first : Text} {tags : List (Text × Text)}

/-- Such a text does not start with a closing brace. -/
theorem IsFlat.head? (hflat : IsFlat first tags) : (weave first tags).head? ≠ some '\x7d' := by
  have hbraceless {t : Text} (ht : t.IsBraceless) : t.head? ≠ some '\x7d' :=
    fun hhead => ht.2 (List.mem_of_mem_head? hhead)
  cases hflat with
  | last ht => exact hbraceless ht
  | tag ht _ _ =>
    rw [weave_cons, List.append_assoc]
    cases first with
    | nil => simp
    | cons c first => simpa using hbraceless ht

/-- No start of a flat text begins with a closing brace. -/
theorem IsFlat.head?_of_split {before piece after : Text} (hflat : IsFlat first tags)
    (hsplit : weave first tags = before ++ piece ++ after) : before.head? ≠ some '\x7d' := by
  intro hhead
  refine hflat.head? ?_
  rw [hsplit, List.append_assoc, List.head?_append, hhead]
  rfl

/-- Parts in lower case are searched as the parts are for what they are in lower case. -/
theorem isFirstOutside_lowered (p : Text → Bool) (first : Text) (tags : List (Text × Text)) :
    isFirstOutside p (lower first) (lowered tags) =
      isFirstOutside (fun part => p (lower part)) first tags := by
  induction tags generalizing first with
  | nil => rfl
  | cons tag tags ih => rw [lowered, List.map_cons, isFirstOutside, ← lowered, ih, isFirstOutside]

/-- Where a text around the tags is the first with a property, one of them has it. -/
theorem exists_of_isFirstOutside {p : Text → Bool} (hfirst : isFirstOutside p first tags = true) :
    ∃ t ∈ outside first tags, p t = true := by
  induction tags generalizing first with
  | nil => exact ⟨first, List.mem_cons_self, hfirst⟩
  | cons tag tags ih =>
    rw [isFirstOutside, Bool.or_eq_true, Bool.and_eq_true] at hfirst
    rcases hfirst with hhere | ⟨-, hlater⟩
    · exact ⟨first, List.mem_cons_self, hhere⟩
    · obtain ⟨t, ht, hp⟩ := ih hlater
      exact ⟨t, List.mem_cons_of_mem _ ht, hp⟩

/-- Where no tag has a property, the first part with it is a text around them. -/
theorem isFirstOutside_of_tags {p : Text → Bool} (htags : ∀ tag ∈ tags, p tag.1 = false) {t : Text}
    (ht : t ∈ outside first tags) (hp : p t = true) : isFirstOutside p first tags = true := by
  induction tags generalizing first with
  | nil =>
    obtain rfl := List.mem_singleton.mp ht
    exact hp
  | cons tag tags ih =>
    obtain ⟨htag, htags⟩ := List.forall_mem_cons.mp htags
    rw [isFirstOutside, htag]
    rcases List.mem_cons.mp ht with rfl | ht
    · simp [hp]
    · simp [ih htags ht]

/-- What stands in a text around the tags stands in the whole. -/
theorem outside_infix_weave {t : Text} (ht : t ∈ outside first tags) : t <:+: weave first tags := by
  induction tags generalizing first with
  | nil =>
    obtain rfl := List.mem_singleton.mp ht
    exact List.infix_rfl
  | cons tag tags ih =>
    rw [weave_cons]
    rcases List.mem_cons.mp ht with rfl | ht
    · exact ⟨[], tagged tag.1 ++ weave tag.2 tags, by simp⟩
    · exact (ih ht).trans (List.suffix_append _ _).isInfix

/-- What stands inside of a tag stands in the whole. -/
theorem inside_infix_weave {tag : Text × Text} (htag : tag ∈ tags) :
    tag.1 <:+: weave first tags := by
  induction tags generalizing first with
  | nil => cases htag
  | cons other tags ih =>
    rw [weave_cons]
    rcases List.mem_cons.mp htag with rfl | htag
    · exact ⟨first ++ ['\x7b', '\x7b'], ['\x7d', '\x7d'] ++ weave tag.2 tags, by simp [tagged]⟩
    · exact (ih htag).trans (List.suffix_append _ _).isInfix

/-- A woven text in lower case is woven of its parts in lower case. -/
theorem lower_weave (hcase : (weave first tags).HasSimpleCase) :
    lower (weave first tags) = weave (lower first) (lowered tags) := by
  induction tags generalizing first with
  | nil => rfl
  | cons tag tags ih =>
    rw [weave_cons] at hcase ⊢
    obtain ⟨hfront, hrest⟩ := hasSimpleCase_append.mp hcase
    rw [lower_append hcase, lower_append hfront,
      lower_tagged (hasSimpleCase_append.mp hfront).2, ih hrest]
    rfl

/-- A flat text is flat in lower case. -/
theorem IsFlat.lower (hflat : IsFlat first tags) : IsFlat (lower first) (lowered tags) := by
  induction hflat with
  | last ht => exact .last ht.lower
  | tag ht hinside _ ih => exact .tag ht.lower hinside.lower ih

/-- The first place of a pattern is inside of a tag exactly if the first part with the pattern is a
tag. -/
theorem IsFlat.endsInTag_take {pattern : Text} {n : Nat} (hflat : IsFlat first tags)
    (hpattern : pattern.IsBraceless) (hne : pattern ≠ [])
    (hfound : indexOf? pattern (weave first tags) = some n) :
    endsInTag ((weave first tags).take n) = !isFirstOutside (includes · pattern) first tags := by
  induction hflat generalizing n with
  | @last t ht =>
    have hincludes : includes t pattern = true := Option.isSome_of_eq_some hfound
    have hfront := endsInTag_of_isNeutral
      (ht.of_subset (List.take_subset n t)).isNeutral
    rw [isFirstOutside, hincludes]
    exact hfront
  | @tag t inside next tags ht hinside hrest ih =>
    obtain ⟨before, after, hsplit, rfl⟩ := exists_split_of_indexOf? hfound
    have htake : (weave t ((inside, next) :: tags)).take before.length = before := by
      rw [hsplit, List.append_assoc, List.take_left]
    rw [htake, isFirstOutside]
    have hwhole := hfound
    rw [weave_cons, List.append_assoc] at hwhole
    rw [weave_cons] at hsplit
    rcases split_around_tag hpattern hsplit
      with ⟨more, rfl, -⟩ | ⟨start, more, rfl, htag⟩ | ⟨late, rfl, hlast⟩
    · have hhere : includes (before ++ pattern ++ more) pattern = true :=
        includes_eq_true_iff.mpr ⟨before, more, rfl⟩
      rw [hhere, endsInTag_of_isNeutral (ht.of_subset fun c hc => by simp [hc]).isNeutral]
      rfl
    · have hnotHere := includes_eq_false_of_indexOf? hne hwhole (by simp)
      have hinTag : includes inside pattern = true :=
        includes_of_tagged hpattern hne (includes_eq_true_iff.mpr ⟨start, more, htag.symm⟩)
      have hopens := (opensTag_of_tagged hinside hpattern hne htag).append_left ht.isNeutral
      rw [hnotHere, hinTag, endsInTag_of_opensTag hopens]
      rfl
    · -- Neither the text before the tag nor the tag has the pattern, and the text goes on after it.
      have hnotHere := includes_eq_false_of_indexOf? hne hwhole (by simp)
      have hnotTag : includes inside pattern = false := by
        have hnot := includes_eq_false_of_indexOf? hne
          (indexOf?_of_append hwhole (by simp)) (by simp)
        rw [← Bool.not_eq_true, includes_eq_true_iff] at hnot ⊢
        exact fun h => hnot (h.trans ⟨['\x7b', '\x7b'], ['\x7d', '\x7d'], by simp [tagged]⟩)
      rw [weave_cons] at hfound
      have hlate := indexOf?_of_append hfound (by simp)
      rw [List.length_append, Nat.add_sub_cancel_left] at hlate
      have hend := ih hlate
      rw [hlast, List.append_assoc, List.take_left] at hend
      rw [hnotHere, hnotTag, Bool.false_or, Bool.not_false, Bool.true_and, ← hend,
        endsInTag_append (ht.isNeutral.append (isNeutral_tagged hinside))
          (hrest.head?_of_split hlast)]

/-- A pattern without braces stands in a part of the text. -/
theorem IsFlat.exists_includes {pattern : Text} (hflat : IsFlat first tags)
    (hpattern : pattern.IsBraceless) (hne : pattern ≠ [])
    (hincludes : includes (weave first tags) pattern = true) :
    (∃ t ∈ outside first tags, includes t pattern = true) ∨
      ∃ tag ∈ tags, includes tag.1 pattern = true := by
  induction hflat with
  | @last t ht => exact .inl ⟨t, List.mem_cons_self, hincludes⟩
  | @tag t inside next tags ht hinside hrest ih =>
    obtain ⟨before, after, hsplit⟩ := includes_eq_true_iff.mp hincludes
    rw [weave_cons] at hsplit
    rcases split_around_tag hpattern hsplit.symm
      with ⟨more, hhere, -⟩ | ⟨start, more, -, htag⟩ | ⟨late, -, hlast⟩
    · exact .inl ⟨t, List.mem_cons_self, includes_eq_true_iff.mpr ⟨before, more, hhere.symm⟩⟩
    · exact .inr ⟨(inside, next), List.mem_cons_self, includes_of_tagged hpattern hne
        (includes_eq_true_iff.mpr ⟨start, more, htag.symm⟩)⟩
    · rcases ih (includes_eq_true_iff.mpr ⟨late, after, hlast.symm⟩)
        with ⟨u, hu, hthere⟩ | ⟨tag, htag, hthere⟩
      · exact .inl ⟨u, List.mem_cons_of_mem _ hu, hthere⟩
      · exact .inr ⟨tag, List.mem_cons_of_mem _ htag, hthere⟩

/-- A tag that is put in place of a piece outside of the tags is one more tag of the text. -/
theorem IsFlat.insert {before piece after call : Text} (hflat : IsFlat first tags)
    (hpiece : piece.IsBraceless) (hne : piece ≠ []) (hcall : call.IsBraceless)
    (hsplit : weave first tags = before ++ piece ++ after) (houtside : endsInTag before = false) :
    ∃ text others, before ++ tagged call ++ after = weave text others ∧ IsFlat text others ∧
      (others.map (·.1)).Perm (tags.map (·.1) ++ [call]) := by
  induction hflat generalizing before with
  | @last t ht =>
    obtain rfl : t = before ++ piece ++ after := hsplit
    exact ⟨before, [(call, after)], rfl, .tag (ht.of_subset fun c hc => by simp [hc]) hcall
      (.last (ht.of_subset fun c hc => by simp [hc])), .refl _⟩
  | @tag t inside next tags ht hinside hrest ih =>
    rw [weave_cons] at hsplit
    rcases split_around_tag hpiece hsplit
      with ⟨more, rfl, rfl⟩ | ⟨start, more, rfl, htag⟩ | ⟨late, rfl, hlast⟩
    · refine ⟨before, (call, more) :: (inside, next) :: tags, by simp [weave_cons],
        .tag (ht.of_subset fun c hc => by simp [hc]) hcall
          (.tag (ht.of_subset fun c hc => by simp [hc]) hinside hrest), ?_⟩
      exact (List.perm_append_singleton call _).symm
    · have hopens := (opensTag_of_tagged hinside hpiece hne htag).append_left ht.isNeutral
      rw [endsInTag_of_opensTag hopens] at houtside
      cases houtside
    · rw [endsInTag_append (ht.isNeutral.append (isNeutral_tagged hinside))
        (hrest.head?_of_split hlast)] at houtside
      obtain ⟨text, others, hweave, hothers, hperm⟩ := ih hlast houtside
      refine ⟨t, (inside, text) :: others, ?_, .tag ht hinside hothers, ?_⟩
      · rw [weave_cons, ← hweave]
        simp
      · exact hperm.cons inside

end Flat

/-! ## One entry -/

/-- A replacement whose call has no braces and whose macro call is one tag. -/
structure Replacement.IsPlain (entry : Replacement) : Prop where
  nonempty : entry.sql ≠ []
  sql : entry.sql.IsBraceless
  call : ∃ inside : Text, inside.IsBraceless ∧ entry.macroCall = tagged inside
  sqlCase : entry.sql.HasSimpleCase
  callCase : entry.macroCall.HasSimpleCase

/-- A spelling of a call has no braces either. -/
theorem Replacement.IsPlain.spelling {entry : Replacement} (hentry : entry.IsPlain) {piece : Text}
    (hpiece : piece.HasSimpleCase) (hspells : lower piece = lower entry.sql) : piece.IsBraceless :=
  isBraceless_of_lower_eq hpiece hentry.sqlCase hspells hentry.sql

/-- Whether a part of a region spells a call: as it is written, if it is written so anywhere in the
region, or else regardless of case. -/
def spellsIn (region sql part : Text) : Bool :=
  if includes region sql then includes part sql else includes (lower part) (lower sql)

/-- A call that is found regardless of case is found at the same place in the lower case. -/
theorem indexOf?_spelling {sql region spelling : Text} (hsql : sql.HasSimpleCase)
    (hregion : region.HasSimpleCase) (hnot : includes region sql = false)
    (hfound : findSpelling? sql region = some spelling) :
    indexOf? spelling region = indexOf? (lower sql) (lower region) := by
  obtain ⟨hlower, before, after, hsplit, hindex⟩ := findSpelling?_eq_some hsql hregion hfound
  simp only [findSpelling?, hnot, Bool.false_eq_true, if_false] at hfound
  split at hfound
  next start hstart =>
    obtain rfl := Option.some.inj hfound
    rw [hindex, hstart, Option.some.injEq]
    have hnoLater : start ≤ before.length := by
      obtain ⟨n, hn, hearly⟩ := exists_indexOf?_le (lower before) (lower sql) (lower after)
      have hparts := hregion
      rw [hsplit] at hparts
      have hbefore := (hasSimpleCase_append.mp (hasSimpleCase_append.mp hparts).1).1
      rw [← hlower, ← lower_append (hasSimpleCase_append.mp hparts).1, ← lower_append hparts,
        ← hsplit, hlower, hstart, Option.some.injEq] at hearly
      rw [lower_eq_map hbefore, List.length_map] at hn
      omega
    have hnoEarlier : before.length ≤ start := by
      obtain ⟨n, hn, hearly⟩ := exists_indexOf?_le (region.take start)
        ((region.drop start).take sql.length) ((region.drop start).drop sql.length)
      rw [List.append_assoc, List.take_append_drop, List.take_append_drop, hindex,
        Option.some.injEq] at hearly
      rw [List.length_take] at hn
      omega
    omega
  next => cases hfound

/-- A replacement is made exactly if the first part of the region that spells its call is a text
outside of the tags. -/
theorem applies_weave {first : Text} {tags : List (Text × Text)} {entry : Replacement}
    (hflat : IsFlat first tags) (hcase : (weave first tags).HasSimpleCase)
    (hentry : entry.IsPlain) :
    applies (weave first tags) entry =
      isFirstOutside (spellsIn (weave first tags) entry.sql) first tags := by
  have hspells : isFirstOutside (spellsIn (weave first tags) entry.sql) first tags =
      if includes (weave first tags) entry.sql then isFirstOutside (includes · entry.sql) first tags
      else isFirstOutside (includes · (lower entry.sql)) (lower first) (lowered tags) := by
    rw [isFirstOutside_lowered]
    unfold spellsIn
    split <;> rfl
  rw [hspells, applies]
  cases hexact : includes (weave first tags) entry.sql with
  | true =>
    obtain ⟨n, hn⟩ := Option.isSome_iff_exists.mp hexact
    have hempty : entry.sql.isEmpty = false := by simpa using hentry.nonempty
    simp only [findSpelling?, hexact, if_true, hempty, Bool.false_or, isInsideTag, hn,
      hflat.endsInTag_take hentry.sql hentry.nonempty hn, Bool.not_not]
  | false =>
    have hnonempty : lower entry.sql ≠ [] := by
      rw [lower_eq_map hentry.sqlCase]
      simpa using hentry.nonempty
    cases hfound : findSpelling? entry.sql (weave first tags) with
    | none =>
      -- Nothing is found, so no part can spell the call.
      have hnone : indexOf? (lower entry.sql) (lower (weave first tags)) = none := by
        simp only [findSpelling?, hexact, Bool.false_eq_true, if_false] at hfound
        split at hfound
        next => cases hfound
        next hnone => exact hnone
      simp only [Bool.false_eq_true, if_false]
      rw [eq_comm, ← Bool.not_eq_true]
      intro hfirst
      obtain ⟨t, ht, hincludes⟩ := exists_of_isFirstOutside hfirst
      have hwhole := (includes_eq_true_iff.mp hincludes).trans (outside_infix_weave ht)
      rw [← lower_weave hcase, ← includes_eq_true_iff, includes, hnone] at hwhole
      cases hwhole
    | some spelling =>
      have hindex := indexOf?_spelling hentry.sqlCase hcase hexact hfound
      obtain ⟨hlower, before, after, hsplit, hplace⟩ :=
        findSpelling?_eq_some hentry.sqlCase hcase hfound
      have hempty : spelling.isEmpty = false := by
        rw [← Bool.not_eq_true, List.isEmpty_iff]
        rintro rfl
        exact hnonempty hlower.symm
      rw [hplace, lower_weave hcase] at hindex
      have hend := hflat.lower.endsInTag_take hentry.sql.lower hnonempty hindex.symm
      rw [← lower_weave hcase, lower_eq_map hcase, ← List.map_take, endsInTag_map_lowerChar] at hend
      simp only [Bool.false_eq_true, if_false, hempty, Bool.false_or, isInsideTag, hplace, hend,
        Bool.not_not]

/-- Where no tag spells a call, a call that some text spells is not passed over. -/
theorem not_includes_of_tags {first : Text} {tags : List (Text × Text)} {entry : Replacement}
    (hflat : IsFlat first tags) (hcase : (weave first tags).HasSimpleCase)
    (hentry : entry.IsPlain)
    (htags : ∀ tag ∈ tags, includes (lower tag.1) (lower entry.sql) = false)
    (hnot : isFirstOutside (spellsIn (weave first tags) entry.sql) first tags = false) :
    ∀ t ∈ outside first tags, includes (lower t) (lower entry.sql) = false := by
  intro t ht
  rw [← Bool.not_eq_true]
  intro hspells
  rw [← Bool.not_eq_true] at hnot
  unfold spellsIn at hnot
  cases hexact : includes (weave first tags) entry.sql with
  | true =>
    -- The call is written as it is in some part, and in a tag it would be spelled as well.
    have hnoTag : ∀ tag ∈ tags, includes tag.1 entry.sql = false := by
      intro tag htag
      rw [← Bool.not_eq_true]
      intro hincludes
      have hinside := hcase.of_subset (inside_infix_weave htag).subset
      have hlower := htags tag htag
      rw [includes_lower hinside hincludes] at hlower
      cases hlower
    rw [hexact] at hnot
    rcases hflat.exists_includes hentry.sql hentry.nonempty hexact
      with ⟨u, hu, hhere⟩ | ⟨tag, htag, hhere⟩
    · exact hnot (isFirstOutside_of_tags (p := (includes · entry.sql)) hnoTag hu hhere)
    · rw [hnoTag tag htag] at hhere
      cases hhere
  | false =>
    rw [hexact] at hnot
    exact hnot (isFirstOutside_of_tags
      (p := fun part => includes (lower part) (lower entry.sql)) htags ht hspells)

/-! ## Runs -/

/-- Replacing a call leaves case simple. -/
theorem hasSimpleCase_replaceCall {text : Text} {entry : Replacement}
    (hcase : text.HasSimpleCase) (hcall : entry.macroCall.HasSimpleCase) :
    (replaceCall text entry).HasSimpleCase :=
  ⟨fun hmem => (mem_of_mem_replaceCall hmem).elim hcase.1 fun h => hcall.1 h.1,
    fun hmem => (mem_of_mem_replaceCall hmem).elim hcase.2 fun h => hcall.2 h.1⟩

/-- After a replacement the text is again one with tags only. A macro call that is put in is one
more tag. -/
theorem IsFlat.replaceCall {first : Text} {tags : List (Text × Text)} {entry : Replacement}
    (hflat : IsFlat first tags) (hcase : (weave first tags).HasSimpleCase)
    (hentry : entry.IsPlain) :
    ∃ text others, Model.replaceCall (weave first tags) entry = weave text others ∧
      IsFlat text others ∧ (weave text others).HasSimpleCase ∧
      (others.map fun tag => tagged tag.1).Perm ((tags.map fun tag => tagged tag.1) ++
        if applies (weave first tags) entry then [entry.macroCall] else []) := by
  rcases replaceCall_cases hentry.sqlCase hcase
    with ⟨hnot, hsame⟩ | ⟨happlies, before, piece, after, hsplit, hne, hspells, houtside, hmade⟩
  · exact ⟨first, tags, hsame, hflat, hcase, by simp [hnot]⟩
  · have hpiece : piece.HasSimpleCase := hcase.of_subset fun c hc => by simp [hsplit, hc]
    obtain ⟨inside, hinside, hcall⟩ := hentry.call
    obtain ⟨text, others, hweave, hothers, hperm⟩ := hflat.insert
      (hentry.spelling hpiece hspells) hne hinside hsplit houtside
    rw [← hcall, ← hmade] at hweave
    refine ⟨text, others, hweave, hothers, ?_, ?_⟩
    · rw [← hweave]
      exact hasSimpleCase_replaceCall hcase hentry.callCase
    · have htagged := hperm.map tagged
      rw [List.map_append, List.map_map, List.map_map, List.map_singleton, ← hcall] at htagged
      rw [happlies, if_pos rfl]
      exact htagged

/-- After any replacements the text is again one with tags only. Its tags are those that it had and
the macro calls that were put in. -/
theorem IsFlat.replaceCalls {first : Text} {tags : List (Text × Text)} {entries : List Replacement}
    (hflat : IsFlat first tags) (hcase : (weave first tags).HasSimpleCase)
    (hentries : ∀ entry ∈ entries, entry.IsPlain) :
    ∃ text others, Model.replaceCalls (weave first tags) entries = weave text others ∧
      IsFlat text others ∧ (weave text others).HasSimpleCase ∧
      (others.map fun tag => tagged tag.1).Perm ((tags.map fun tag => tagged tag.1) ++
        (applied (weave first tags) entries).map (·.macroCall)) := by
  induction entries generalizing first tags with
  | nil => exact ⟨first, tags, rfl, hflat, hcase, by simp [applied]⟩
  | cons entry entries ih =>
    obtain ⟨hentry, hentries⟩ := List.forall_mem_cons.mp hentries
    obtain ⟨text, others, hmade, hothers, hothersCase, hperm⟩ := hflat.replaceCall hcase hentry
    obtain ⟨last, all, hall, hallFlat, hallCase, hallPerm⟩ := ih hothers hothersCase hentries
    refine ⟨last, all, ?_, hallFlat, hallCase, ?_⟩
    · rw [Model.replaceCalls, List.foldl_cons, hmade]
      exact hall
    · rw [applied, hmade, List.map_append, ← List.append_assoc]
      refine hallPerm.trans (List.Perm.append_right _ (hperm.trans (.of_eq ?_)))
      split <;> rfl

/-- At the moment when an entry is tried, the region consists of texts and tags. The tags are those
that it had at first and the macro calls that were put in. The entry is made exactly if the first
part that spells its call is a text. So if no tag spells the call and still the entry is not made,
then no text spells it either. -/
theorem entry_made_iff_first_spelled_outside {first : Text} {tags : List (Text × Text)}
    {earlier : List Replacement} {entry : Replacement} (hflat : IsFlat first tags)
    (hcase : (weave first tags).HasSimpleCase) (hearlier : ∀ other ∈ earlier, other.IsPlain)
    (hentry : entry.IsPlain) :
    ∃ text others, replaceCalls (weave first tags) earlier = weave text others ∧
      IsFlat text others ∧
      (others.map fun tag => tagged tag.1).Perm ((tags.map fun tag => tagged tag.1) ++
        (applied (weave first tags) earlier).map (·.macroCall)) ∧
      applies (weave text others) entry =
        isFirstOutside (spellsIn (weave text others) entry.sql) text others ∧
      ((∀ tag ∈ others, includes (lower tag.1) (lower entry.sql) = false) →
        applies (weave text others) entry = false →
          ∀ t ∈ outside text others, includes (lower t) (lower entry.sql) = false) := by
  obtain ⟨text, others, hmoment, hothers, hothersCase, hperm⟩ := hflat.replaceCalls hcase hearlier
  have hmade := applies_weave hothers hothersCase hentry
  refine ⟨text, others, hmoment, hothers, hperm, hmade, fun htags hnot => ?_⟩
  rw [hmade] at hnot
  exact not_includes_of_tags hothers hothersCase hentry htags hnot

/-- A call, and a macro call for it that has its arguments. -/
def innerCall : Replacement :=
  ⟨1, "NVL(a, b)".toList, "\x7b\x7b portable_nvl('a, b') \x7d\x7d".toList⟩

/-- A call around another one, which the macro call for it then has inside. -/
def outerCall : Replacement :=
  ⟨1, "NVL(NVL(a, b), c)".toList, "\x7b\x7b portable_nvl('NVL(a, b), c') \x7d\x7d".toList⟩

/-- The inner call of the example is plain SQL. -/
theorem isPlain_innerCall : innerCall.IsPlain :=
  ⟨by decide, by decide, ⟨" portable_nvl('a, b') ".toList, by decide, rfl⟩, by decide, by decide⟩

/-- Once the call as it is written is replaced, the one in lower case is found after the tags, which
do not spell it. -/
theorem entry_made_iff_first_spelled_outside_twice :
    ∃ text others,
      replaceCalls (weave "SELECT NVL(a, b), ".toList [(" c ".toList, ", nvl(a, b)".toList)])
        [innerCall] = weave text others ∧
      IsFlat text others ∧
      (others.map fun tag => tagged tag.1).Perm [tagged " c ".toList, innerCall.macroCall] ∧
      applies (weave text others) innerCall =
        isFirstOutside (spellsIn (weave text others) innerCall.sql) text others ∧
      ((∀ tag ∈ others, includes (lower tag.1) (lower innerCall.sql) = false) →
        applies (weave text others) innerCall = false →
          ∀ t ∈ outside text others, includes (lower t) (lower innerCall.sql) = false) := by
  have hflat : IsFlat "SELECT NVL(a, b), ".toList [(" c ".toList, ", nvl(a, b)".toList)] :=
    .tag (by decide) (by decide) (.last (by decide))
  have hcase : (weave "SELECT NVL(a, b), ".toList
      [(" c ".toList, ", nvl(a, b)".toList)]).HasSimpleCase := by decide +kernel
  have hearlier : ∀ other ∈ [innerCall], other.IsPlain := by simpa using isPlain_innerCall
  obtain ⟨text, others, hmoment, hothers, hperm, hmade⟩ :=
    entry_made_iff_first_spelled_outside hflat hcase hearlier isPlain_innerCall
  exact ⟨text, others, hmoment, hothers, hperm.trans (.of_eq (by decide +kernel)), hmade⟩

/-- The macro call for the outer call hides a call that stands after it, which is passed over. -/
theorem call_hidden_by_macro_argument :
    replaceCalls "SELECT NVL(NVL(a, b), c), NVL(a, b)".toList [outerCall] =
      weave "SELECT ".toList [(" portable_nvl('NVL(a, b), c') ".toList, ", NVL(a, b)".toList)] ∧
    applies (weave "SELECT ".toList
      [(" portable_nvl('NVL(a, b), c') ".toList, ", NVL(a, b)".toList)]) innerCall = false ∧
    includes ", NVL(a, b)".toList innerCall.sql = true := by
  decide +kernel

end Model

end PortableSql
