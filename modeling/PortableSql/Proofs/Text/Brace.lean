import PortableSql.Proofs.Text.Search

/-!
# Braces

Pairs of braces open and close expression tags. Pairs are counted part by part wherever no pair
spans two parts, so a text that is made of texts and whole tags opens as many tags as it closes.
Single braces do not count; they may stand next to a percent sign, as they do in statement tags.
-/

namespace PortableSql.Text

/-- A text without braces. -/
def IsBraceless (t : Text) : Prop :=
  '\x7b' ∉ t ∧ '\x7d' ∉ t

instance (t : Text) : Decidable t.IsBraceless :=
  inferInstanceAs (Decidable (_ ∧ _))

/-- Texts without braces make one without braces. -/
theorem IsBraceless.append {first second : Text} (hfirst : first.IsBraceless)
    (hsecond : second.IsBraceless) : IsBraceless (first ++ second) := by
  simp [IsBraceless, hfirst.1, hfirst.2, hsecond.1, hsecond.2]

/-- A part of a text has no braces if the text has none. -/
theorem IsBraceless.of_subset {part t : Text} (ht : t.IsBraceless) (hsubset : part ⊆ t) :
    part.IsBraceless :=
  ⟨fun hmem => ht.1 (hsubset hmem), fun hmem => ht.2 (hsubset hmem)⟩

/-- A text with marks in it: each mark is followed by more text. -/
def interleave : Text → List (Text × Text) → Text
  | first, [] => first
  | first, (mark, next) :: marks => first ++ mark ++ interleave next marks

/-- An expression tag with the given inside. -/
def tagged (inside : Text) : Text :=
  '\x7b' :: '\x7b' :: (inside ++ ['\x7d', '\x7d'])

/-- A tag starts with an opening brace. -/
@[simp]
theorem head?_tagged (inside : Text) : (tagged inside).head? = some '\x7b' := rfl

/-- A tag ends with a closing brace. -/
@[simp]
theorem getLast?_tagged (inside : Text) : (tagged inside).getLast? = some '\x7d' := by
  simp [tagged, List.getLast?_cons]

/-! ## Pairs -/

/-- Pairs are counted part by part, unless the parts meet with the character. -/
theorem countPairs_append {c : Char} {first second : Text}
    (hapart : first.getLast? ≠ some c ∨ second.head? ≠ some c) :
    countPairs c (first ++ second) = countPairs c first + countPairs c second := by
  fun_induction countPairs c first with
  | case1 a b rest hpair ih =>
    have hrest : rest.getLast? ≠ some c ∨ second.head? ≠ some c := by
      cases rest with
      | nil => exact .inl (by simp)
      | cons d rest => simpa using hapart
    simp only [List.cons_append, countPairs, hpair, if_true, ih hrest]
    omega
  | case2 a b rest hpair ih =>
    simp only [List.cons_append, countPairs, hpair, Bool.false_eq_true, if_false] at ih ⊢
    exact ih (by simpa using hapart)
  | case3 first hshort =>
    match first, second with
    | [], _ => simp
    | [_], [] => simp [countPairs]
    | [a], b :: second =>
      have hpair : (a == c && b == c) = false := by
        rw [← Bool.not_eq_true, Bool.and_eq_true]
        rintro ⟨ha, hb⟩
        simp_all
      simp [countPairs, hpair]
    | a :: b :: rest, _ => exact absurd rfl (hshort a b rest)

/-- A text in which the character never follows itself has no pair. -/
theorem countPairs_eq_zero {c : Char} {t : Text}
    (hapart : ∀ before after, t = before ++ c :: after → after.head? ≠ some c) :
    countPairs c t = 0 := by
  fun_induction countPairs c t with
  | case1 a b rest hpair ih =>
    simp only [Bool.and_eq_true, beq_iff_eq] at hpair
    obtain ⟨rfl, rfl⟩ := hpair
    exact absurd rfl (hapart [] _ rfl)
  | case2 a b rest hpair ih =>
    exact ih fun before after hsplit => hapart (a :: before) after (by rw [hsplit]; rfl)
  | case3 => rfl

/-- A text that closes as many expression tags as it opens, and goes on so wherever it is put
together with others. -/
structure IsNeutral (t : Text) : Prop where
  pairs : countPairs '\x7b' t = countPairs '\x7d' t
  head : t.head? ≠ some '\x7d'
  last : t.getLast? ≠ some '\x7b'

/-- Neutral texts make a neutral one. -/
theorem IsNeutral.append {first second : Text} (hfirst : first.IsNeutral)
    (hsecond : second.IsNeutral) : IsNeutral (first ++ second) where
  pairs := by
    rw [countPairs_append (.inl hfirst.last), countPairs_append (.inr hsecond.head), hfirst.pairs,
      hsecond.pairs]
  head := by
    cases first with
    | nil => exact hsecond.head
    | cons c first => exact hfirst.head
  last := by
    rw [List.getLast?_append, ne_eq, Option.or_eq_some_iff]
    rintro (hlast | ⟨-, hlast⟩)
    · exact hsecond.last hlast
    · exact hfirst.last hlast

/-- A text without braces has no pairs of them. -/
theorem IsBraceless.countPairs_eq {t : Text} (ht : t.IsBraceless) :
    countPairs '\x7b' t = 0 ∧ countPairs '\x7d' t = 0 := by
  refine ⟨countPairs_eq_zero fun before after hsplit => ?_,
    countPairs_eq_zero fun before after hsplit => ?_⟩
  · exact absurd (by simp [hsplit]) ht.1
  · exact absurd (by simp [hsplit]) ht.2

/-- A tag without braces inside is neutral. -/
theorem isNeutral_tagged {inside : Text} (hinside : inside.IsBraceless) :
    IsNeutral (tagged inside) where
  pairs := by
    have hclose : inside.getLast? ≠ some '\x7d' := fun h => hinside.2 (List.mem_of_getLast? h)
    have hopen : countPairs '\x7b' (tagged inside) = countPairs '\x7b' inside + 1 := by
      simp only [tagged, countPairs, beq_self_eq_true, Bool.and_self, if_true]
      rw [countPairs_append (.inr (by simp))]
      simp [countPairs]
    have hclosed : countPairs '\x7d' (tagged inside) = countPairs '\x7d' inside + 1 := by
      rw [show tagged inside = ['\x7b', '\x7b'] ++ (inside ++ ['\x7d', '\x7d']) from rfl,
        countPairs_append (.inl (by simp)), countPairs_append (.inl hclose)]
      simp [countPairs]
    rw [hopen, hclosed, hinside.countPairs_eq.1, hinside.countPairs_eq.2]
  head := by simp
  last := by simp

/-- A text that ends inside of an expression tag, after a neutral text. -/
def OpensTag (t : Text) : Prop :=
  ∃ outside inside : Text, t = outside ++ '\x7b' :: '\x7b' :: inside ∧ outside.IsNeutral ∧
    inside.IsBraceless

/-- A neutral text in front leaves a tag open. -/
theorem OpensTag.append_left {first second : Text} (hfirst : first.IsNeutral)
    (hsecond : second.OpensTag) : OpensTag (first ++ second) := by
  obtain ⟨outside, inside, rfl, houtside, hinside⟩ := hsecond
  exact ⟨first ++ outside, inside, by simp, hfirst.append houtside, hinside⟩

/-- More pairs open than close in a text that ends inside of a tag. -/
theorem OpensTag.countPairs_lt {t : Text} (ht : t.OpensTag) :
    countPairs '\x7d' t < countPairs '\x7b' t := by
  obtain ⟨outside, inside, rfl, houtside, hinside⟩ := ht
  have hopen : countPairs '\x7b' ('\x7b' :: '\x7b' :: inside) = 1 := by
    simp [countPairs, hinside.countPairs_eq.1]
  have hclosed : countPairs '\x7d' ('\x7b' :: '\x7b' :: inside) = 0 := by
    rw [show '\x7b' :: '\x7b' :: inside = ['\x7b', '\x7b'] ++ inside from rfl,
      countPairs_append (.inl (by simp)), hinside.countPairs_eq.2]
    simp [countPairs]
  rw [countPairs_append (.inl houtside.last), countPairs_append (.inr (by simp)), hopen, hclosed,
    houtside.pairs]
  omega

/-- A part of a tag without braces is a part of the tag's inside. -/
theorem split_tagged {inside before piece after : Text} (hpiece : piece.IsBraceless)
    (hne : piece ≠ []) (hsplit : tagged inside = before ++ piece ++ after) :
    ∃ front rest, before = '\x7b' :: '\x7b' :: front ∧ inside = front ++ piece ++ rest := by
  obtain ⟨c, piece, rfl⟩ := List.exists_cons_of_ne_nil hne
  match before with
  | [] =>
    simp only [tagged, List.nil_append, List.cons_append, List.cons.injEq] at hsplit
    exact absurd (hsplit.1 ▸ List.mem_cons_self) hpiece.1
  | [_] =>
    simp only [tagged, List.nil_append, List.cons_append, List.cons.injEq] at hsplit
    exact absurd (hsplit.2.1 ▸ List.mem_cons_self) hpiece.1
  | a :: b :: front =>
    simp only [tagged, List.cons_append, List.cons.injEq] at hsplit
    obtain ⟨rfl, rfl, hrest⟩ := hsplit
    rcases part_of_append hpiece.2 (.inl rfl) hrest with ⟨rest, hpart, -⟩ | ⟨more, -, hclose⟩
    · exact ⟨front, rest, rfl, hpart⟩
    · have hmem : c ∈ (['\x7d', '\x7d'] : Text) := by
        rw [hclose]
        simp
      have hbrace : c = '\x7d' := by simpa using hmem
      exact absurd (hbrace ▸ List.mem_cons_self) hpiece.2

/-- A tag is open before a part of it without braces. -/
theorem opensTag_of_tagged {inside before piece after : Text} (hinside : inside.IsBraceless)
    (hpiece : piece.IsBraceless) (hne : piece ≠ [])
    (hsplit : tagged inside = before ++ piece ++ after) : OpensTag before := by
  obtain ⟨front, rest, rfl, rfl⟩ := split_tagged hpiece hne hsplit
  refine ⟨[], front, rfl, ⟨rfl, by simp, by simp⟩, hinside.of_subset ?_⟩
  exact fun c hc => by simp [hc]

/-! ## Braces of statement tags -/

/-- Every opening brace is followed by a percent sign, and every closing one comes after a percent
sign. -/
structure HasStatementBraces (t : Text) : Prop where
  opening : ∀ before after, t = before ++ '\x7b' :: after → after.head? = some '%'
  closing : ∀ before after, t = before ++ '\x7d' :: after → before.getLast? = some '%'

/-- The check of braces from left to right, after the given character. -/
def checkBraces : Option Char → Text → Bool
  | _, [] => true
  | previous, c :: cs =>
    (c != '\x7b' || cs.head? == some '%') && (c != '\x7d' || previous == some '%') &&
      checkBraces (some c) cs

/-- The check of braces finds whether each of them has its percent sign. -/
theorem checkBraces_iff {previous : Option Char} {t : Text} :
    checkBraces previous t = true ↔
      (∀ before after, t = before ++ '\x7b' :: after → after.head? = some '%') ∧
        ∀ before after, t = before ++ '\x7d' :: after →
          before.getLast?.or previous = some '%' := by
  induction t generalizing previous with
  | nil => simp [checkBraces]
  | cons c t ih =>
    simp only [checkBraces, Bool.and_eq_true, Bool.or_eq_true, bne_iff_ne, beq_iff_eq, ih]
    constructor
    · rintro ⟨⟨hopening, hclosing⟩, hopenings, hclosings⟩
      refine ⟨fun before after hsplit => ?_, fun before after hsplit => ?_⟩
      · cases before with
        | nil =>
          obtain ⟨rfl, rfl⟩ := List.cons.inj hsplit
          simpa using hopening
        | cons d before => exact hopenings before after (List.cons.inj hsplit).2
      · cases before with
        | nil =>
          obtain ⟨rfl, rfl⟩ := List.cons.inj hsplit
          simpa using hclosing
        | cons d before =>
          obtain ⟨rfl, hrest⟩ := List.cons.inj hsplit
          have hlast := hclosings before after hrest
          simpa [List.getLast?_cons] using hlast
    · rintro ⟨hopenings, hclosings⟩
      refine ⟨⟨?_, ?_⟩, fun before after hsplit => ?_, fun before after hsplit => ?_⟩
      · by_cases hc : c = '\x7b'
        · exact .inr (hopenings [] t (by rw [hc]; rfl))
        · exact .inl hc
      · by_cases hc : c = '\x7d'
        · exact .inr (by simpa using hclosings [] t (by rw [hc]; rfl))
        · exact .inl hc
      · exact hopenings (c :: before) after (by rw [hsplit]; rfl)
      · have hlast := hclosings (c :: before) after (by rw [hsplit]; rfl)
        simpa [List.getLast?_cons] using hlast

instance (t : Text) : Decidable t.HasStatementBraces :=
  decidable_of_iff (checkBraces none t = true) <| by
    simp only [checkBraces_iff, Option.or_none]
    exact ⟨fun h => ⟨h.1, h.2⟩, fun h => ⟨h.opening, h.closing⟩⟩

/-- A text whose braces are those of statements is neutral. -/
theorem HasStatementBraces.isNeutral {t : Text} (ht : t.HasStatementBraces) : t.IsNeutral where
  pairs := by
    have hopen : countPairs '\x7b' t = 0 := countPairs_eq_zero fun before after hsplit => by
      rw [ht.opening before after hsplit]
      decide
    have hclosed : countPairs '\x7d' t = 0 := countPairs_eq_zero fun before after hsplit => by
      intro hnext
      obtain ⟨rest, rfl⟩ := List.head?_eq_some_iff.mp hnext
      have hbefore := ht.closing (before ++ ['\x7d']) rest (by simp [hsplit])
      simp at hbefore
    rw [hopen, hclosed]
  head := by
    intro hhead
    obtain ⟨rest, rfl⟩ := List.head?_eq_some_iff.mp hhead
    have hbefore := ht.closing [] rest rfl
    simp at hbefore
  last := by
    intro hlast
    obtain ⟨rest, rfl⟩ := List.getLast?_eq_some_iff.mp hlast
    have hafter := ht.opening rest [] rfl
    simp at hafter

/-- What stands before and after a part without braces and percent signs has such braces too. -/
theorem HasStatementBraces.split {before piece after : Text} (hpiece : '%' ∉ piece)
    (hne : piece ≠ []) (ht : HasStatementBraces (before ++ piece ++ after)) :
    before.HasStatementBraces ∧ after.HasStatementBraces := by
  obtain ⟨c, piece, rfl⟩ := List.exists_cons_of_ne_nil hne
  refine ⟨⟨fun left right hsplit => ?_, fun left right hsplit => ?_⟩,
    ⟨fun left right hsplit => ?_, fun left right hsplit => ?_⟩⟩
  · have hnext := ht.opening left (right ++ (c :: piece) ++ after) (by simp [hsplit])
    cases right with
    | nil =>
      obtain rfl : c = '%' := by simpa using hnext
      exact absurd (by simp) hpiece
    | cons d right => simpa using hnext
  · exact ht.closing left (right ++ (c :: piece) ++ after) (by simp [hsplit])
  · exact ht.opening (before ++ (c :: piece) ++ left) right (by simp [hsplit])
  · have hlast := ht.closing (before ++ (c :: piece) ++ left) right (by simp [hsplit])
    rw [List.getLast?_append, Option.or_eq_some_iff] at hlast
    rcases hlast with hlast | ⟨-, hlast⟩
    · exact hlast
    · rw [List.getLast?_append, Option.or_eq_some_iff] at hlast
      rcases hlast with hlast | ⟨hnone, -⟩
      · exact absurd (List.mem_of_getLast? hlast) hpiece
      · simp at hnone

end PortableSql.Text
