import Mathlib.Data.List.DropRight
import Mathlib.Data.List.Infix
import PortableSql.Text.Blank

/-!
# Finding and replacing parts of a text

A search for a pattern passes over a segment when no occurrence of the pattern starts in it,
whatever follows the segment. Segments that are passed over can be put together, so a search in a
text that is built from known parts can be followed part by part.

Replacing keeps what a search passes over. Where a pattern and its replacement begin and end with
visible characters, replacing and removing the blanks around a text can be done in either order.
-/

namespace PortableSql.Text

/-! ## Searching -/

/-- A pattern occurs in a text when it is a contiguous part of it. -/
theorem includes_eq_true_iff {t pattern : Text} : includes t pattern = true ↔ pattern <:+: t := by
  induction t with
  | nil => cases pattern <;> simp [includes, indexOf?]
  | cons c t ih =>
    rw [List.infix_cons_iff, ← ih]
    by_cases hstart : pattern.isPrefixOf (c :: t) = true
    · simp [includes, indexOf?, hstart, List.isPrefixOf_iff_prefix.mp hstart]
    · have hnot : ¬pattern <+: c :: t := fun h => hstart (List.isPrefixOf_iff_prefix.mpr h)
      simp [includes, indexOf?, hstart, hnot]

/-- A pattern at the start of a text is found there. -/
theorem indexOf?_append_self (pattern rest : Text) :
    indexOf? pattern (pattern ++ rest) = some 0 := by
  cases pattern with
  | nil => cases rest <;> simp [indexOf?]
  | cons c pattern =>
    have hstart : (c :: pattern).isPrefixOf (c :: (pattern ++ rest)) = true :=
      List.isPrefixOf_iff_prefix.mpr (List.prefix_append _ _)
    simp [indexOf?, hstart]

/-- A pattern that is found stands at the place that is returned. -/
theorem exists_split_of_indexOf? {pattern t : Text} {n : Nat}
    (hfound : indexOf? pattern t = some n) :
    ∃ before after, t = before ++ pattern ++ after ∧ before.length = n := by
  induction t generalizing n with
  | nil =>
    simp only [indexOf?, List.isEmpty_iff] at hfound
    split at hfound
    next hempty =>
      obtain rfl := Option.some.inj hfound
      exact ⟨[], [], by simp [hempty], rfl⟩
    next => cases hfound
  | cons c t ih =>
    simp only [indexOf?] at hfound
    split at hfound
    next hstart =>
      obtain rfl := Option.some.inj hfound
      obtain ⟨after, hafter⟩ := List.isPrefixOf_iff_prefix.mp hstart
      exact ⟨[], after, by simp [hafter], rfl⟩
    next =>
      obtain ⟨m, hm, rfl⟩ := Option.map_eq_some_iff.mp hfound
      obtain ⟨before, after, rfl, rfl⟩ := ih hm
      exact ⟨c :: before, after, by simp, rfl⟩

/-- A pattern that occurs is found there or earlier. -/
theorem exists_indexOf?_le (before pattern after : Text) :
    ∃ n ≤ before.length, indexOf? pattern (before ++ pattern ++ after) = some n := by
  induction before with
  | nil => exact ⟨0, le_rfl, by simpa using indexOf?_append_self pattern after⟩
  | cons c before ih =>
    obtain ⟨n, hn, hfound⟩ := ih
    simp only [List.cons_append, indexOf?, hfound]
    split
    · exact ⟨0, by simp, rfl⟩
    · exact ⟨n + 1, by simpa using hn, rfl⟩

/-- A part of a text lies on one side of a boundary or across it. -/
theorem part_cases {first second before piece after : Text}
    (heq : first ++ second = before ++ piece ++ after) :
    (∃ rest, first = before ++ piece ++ rest ∧ after = rest ++ second) ∨
      (∃ rest, before = first ++ rest ∧ second = rest ++ piece ++ after) ∨
      ∃ left right, left ≠ [] ∧ right ≠ [] ∧ piece = left ++ right ∧ first = before ++ left ∧
        second = right ++ after := by
  rcases List.append_eq_append_iff.mp heq with ⟨right, hpart, rfl⟩ | ⟨rest, hfirst, hafter⟩
  · rcases List.append_eq_append_iff.mp hpart with ⟨left, rfl, rfl⟩ | ⟨rest, rfl, rfl⟩
    · by_cases hleft : left = []
      · exact .inr (.inl ⟨[], by simp [hleft], by simp [hleft]⟩)
      · by_cases hright : right = []
        · exact .inl ⟨[], by simp [hright], by simp [hright]⟩
        · exact .inr (.inr ⟨left, right, hleft, hright, rfl, rfl, rfl⟩)
    · exact .inr (.inl ⟨rest, rfl, by simp⟩)
  · exact .inl ⟨rest, hfirst, hafter⟩

/-- A part of a text lies on one side of a boundary, if a character stands next to the boundary
that the part lacks. -/
theorem part_of_append {first second before piece after : Text} {c : Char}
    (hmissing : c ∉ piece) (hboundary : second.head? = some c ∨ first.getLast? = some c)
    (heq : first ++ second = before ++ piece ++ after) :
    (∃ rest, first = before ++ piece ++ rest ∧ after = rest ++ second) ∨
      ∃ rest, before = first ++ rest ∧ second = rest ++ piece ++ after := by
  rcases part_cases heq with hleft | hright | ⟨left, right, hleft, hright, rfl, rfl, rfl⟩
  · exact .inl hleft
  · exact .inr hright
  · refine absurd ?_ hmissing
    rcases hboundary with hhead | hlast
    · rw [List.head?_append_of_ne_nil _ hright] at hhead
      exact List.mem_append_right _ (List.mem_of_mem_head? hhead)
    · rw [List.getLast?_append_of_ne_nil _ hleft] at hlast
      exact List.mem_append_left _ (List.mem_of_getLast? hlast)

/-- No occurrence of a pattern starts in a segment, whatever follows. -/
def Skips (pattern segment : Text) : Prop :=
  ∀ rest, indexOf? pattern (segment ++ rest) = (indexOf? pattern rest).map (· + segment.length)

/-- No occurrence starts in an empty segment. -/
theorem skips_nil (pattern : Text) : Skips pattern [] := by
  intro rest
  simp

/-- A search passes over two segments one after the other. -/
theorem Skips.append {pattern first second : Text} (hfirst : Skips pattern first)
    (hsecond : Skips pattern second) : Skips pattern (first ++ second) := by
  intro rest
  rw [List.append_assoc, hfirst, hsecond, Option.map_map, List.length_append]
  congr 1
  funext n
  simp only [Function.comp_apply]
  omega

/-- A search passes over a character where the pattern does not start. -/
theorem skips_cons {pattern segment : Text} {c : Char}
    (hstart : ∀ rest, ¬pattern <+: c :: (segment ++ rest)) (hsegment : Skips pattern segment) :
    Skips pattern (c :: segment) := by
  intro rest
  have hnot : pattern.isPrefixOf (c :: (segment ++ rest)) = false := by
    rw [← Bool.not_eq_true, List.isPrefixOf_iff_prefix]
    exact hstart rest
  simp only [List.cons_append, indexOf?, hnot, Bool.false_eq_true, if_false, hsegment rest,
    Option.map_map, List.length_cons]
  congr 1

/-- A search passes over a segment that lacks the pattern's first character. -/
theorem skips_of_not_mem {c : Char} {pattern segment : Text} (hmissing : c ∉ segment) :
    Skips (c :: pattern) segment := by
  induction segment with
  | nil => exact skips_nil _
  | cons d segment ih =>
    rw [List.mem_cons, not_or] at hmissing
    refine skips_cons (fun rest hstart => ?_) (ih hmissing.2)
    exact hmissing.1 (List.cons_prefix_cons.mp hstart).1

/-- Every part of a segment up to its end differs from the start of a pattern in some place that
both have. -/
def clashes (start segment : Text) : Bool :=
  segment.tails.all fun part =>
    part.isEmpty || !part.isPrefixOf start && !start.isPrefixOf part

/-- A search passes over a segment that clashes with the start of the pattern. -/
theorem skips_of_clashes {start segment : Text} (pattern : Text)
    (hclash : clashes start segment = true) : Skips (start ++ pattern) segment := by
  induction segment with
  | nil => exact skips_nil _
  | cons c segment ih =>
    simp only [clashes, List.tails_cons, List.all_cons, List.isEmpty_cons, Bool.false_or,
      Bool.and_eq_true, Bool.not_eq_true'] at hclash
    obtain ⟨⟨hshort, hlong⟩, hrest⟩ := hclash
    refine skips_cons (fun rest hstart => ?_) (ih hrest)
    have hpart : start <+: (c :: segment) ++ rest := (List.prefix_append _ _).trans hstart
    rcases List.prefix_or_prefix_of_prefix hpart (List.prefix_append (c :: segment) rest)
      with hstarts | hstarts
    · rw [List.isPrefixOf_iff_prefix.mpr hstarts] at hlong
      cases hlong
    · rw [List.isPrefixOf_iff_prefix.mpr hstarts] at hshort
      cases hshort

/-- A search passes over segments that it passes over one by one. -/
theorem skips_flatten {pattern : Text} {segments : List Text}
    (hall : ∀ segment ∈ segments, Skips pattern segment) : Skips pattern segments.flatten := by
  induction segments with
  | nil => exact skips_nil _
  | cons segment segments ih =>
    rw [List.flatten_cons]
    exact (hall segment (by simp)).append (ih fun s hs => hall s (by simp [hs]))

/-- A pattern occurs after a segment that is passed over, or it does not occur. -/
theorem Skips.includes_append {pattern segment : Text} (hskips : Skips pattern segment)
    (rest : Text) : includes (segment ++ rest) pattern = includes rest pattern := by
  simp [includes, hskips rest]

/-- A non-empty pattern does not occur in a segment that is passed over. -/
theorem Skips.not_includes {pattern segment : Text} (hskips : Skips pattern segment)
    (hpattern : pattern ≠ []) : includes segment pattern = false := by
  have h := hskips.includes_append []
  rw [List.append_nil] at h
  rw [h, includes, indexOf?, if_neg (by simpa using hpattern)]
  rfl

/-- Passing over a segment is passing over its first character and over the rest. -/
theorem Skips.of_cons {pattern segment : Text} {c : Char} (hskips : Skips pattern (c :: segment)) :
    (∀ rest, ¬pattern <+: c :: (segment ++ rest)) ∧ Skips pattern segment := by
  have hstart (rest : Text) : pattern.isPrefixOf (c :: (segment ++ rest)) = false := by
    by_contra hstarts
    rw [Bool.not_eq_false] at hstarts
    have h := hskips rest
    simp only [List.cons_append, indexOf?, hstarts, if_true, List.length_cons] at h
    cases hrest : indexOf? pattern rest <;> simp [hrest] at h
  refine ⟨fun rest hstarts => ?_, fun rest => ?_⟩
  · rw [← List.isPrefixOf_iff_prefix, hstart rest] at hstarts
    cases hstarts
  · have h := hskips rest
    simp only [List.cons_append, indexOf?, hstart rest, Bool.false_eq_true, if_false,
      List.length_cons] at h
    cases hsegment : indexOf? pattern (segment ++ rest) <;>
      cases hrest : indexOf? pattern rest <;> simp_all
    omega

/-- What is passed over in the search for a pattern is passed over for a longer one. -/
theorem Skips.extend {pattern segment : Text} (hskips : Skips pattern segment) (more : Text) :
    Skips (pattern ++ more) segment := by
  induction segment with
  | nil => exact skips_nil _
  | cons c segment ih =>
    obtain ⟨hstart, hsegment⟩ := hskips.of_cons
    exact skips_cons (fun rest hlong => hstart rest ((List.prefix_append _ _).trans hlong))
      (ih hsegment)

/-- The text between the first place of a left end and the next place of a right one. -/
def between? (left right t : Text) : Option Text :=
  match indexOf? left t with
  | none => none
  | some start =>
    let rest := t.drop (start + left.length)
    (indexOf? right rest).map rest.take

/-- A text is found between its ends, if the left end does not occur earlier and the right end does
not occur in it. -/
theorem between?_eq {left right before inside : Text} (hbefore : Skips left before)
    (hinside : Skips right inside) (after : Text) :
    between? left right (before ++ (left ++ (inside ++ (right ++ after)))) = some inside := by
  have hstart : indexOf? left (before ++ (left ++ (inside ++ (right ++ after)))) =
      some before.length := by
    rw [hbefore, indexOf?_append_self]
    simp
  have hrest : (before ++ (left ++ (inside ++ (right ++ after)))).drop
      (before.length + left.length) = inside ++ (right ++ after) := by
    rw [← List.append_assoc, ← List.length_append, List.drop_left]
  simp only [between?, hstart, hrest]
  rw [hinside, indexOf?_append_self]
  simp

/-- A text that the left end starts is found up to the right end. -/
theorem between?_start {left right inside : Text} (hinside : Skips right inside) (after : Text) :
    between? left right (left ++ (inside ++ (right ++ after))) = some inside :=
  between?_eq (skips_nil left) hinside after

/-- A search passes over a text in which the pattern does not occur, if a character follows that
the pattern lacks. -/
theorem skips_append_of_not_includes {pattern t : Text} {c : Char} (hpattern : pattern ≠ [])
    (hmissing : c ∉ pattern) (hnot : includes t pattern = false) :
    Skips pattern (t ++ [c]) := by
  rw [← Bool.not_eq_true, includes_eq_true_iff] at hnot
  induction t with
  | nil =>
    refine skips_cons (fun rest hstart => ?_) (skips_nil _)
    obtain ⟨d, pattern, rfl⟩ := List.exists_cons_of_ne_nil hpattern
    exact hmissing (List.mem_cons.mpr (.inl (List.cons_prefix_cons.mp hstart).1.symm))
  | cons d t ih =>
    rw [List.infix_cons_iff, not_or] at hnot
    refine skips_cons (fun rest hstart => ?_) (ih hnot.2)
    have hwhole : pattern <+: (d :: t) ++ c :: rest := by simpa using hstart
    rcases List.prefix_or_prefix_of_prefix hwhole (List.prefix_append (d :: t) (c :: rest))
      with hstarts | ⟨more, rfl⟩
    · exact hnot.1 hstarts
    · rw [List.prefix_append_right_inj] at hwhole
      cases more with
      | nil => exact hnot.1 (by simp)
      | cons e more =>
        have heq := (List.cons_prefix_cons.mp hwhole).1
        exact hmissing (by simp [heq])

/-- A mark ends two texts without it at the same place. -/
theorem eq_of_marked_start {c : Char} {first second rest : Text} (hfirst : c ∉ first)
    (hsecond : c ∉ second) (hstarts : first ++ [c] <+: second ++ c :: rest) : first = second := by
  induction first generalizing second with
  | nil =>
    cases second with
    | nil => rfl
    | cons d second =>
      have heq := (List.cons_prefix_cons.mp hstarts).1
      exact absurd (by simp [heq]) hsecond
  | cons d first ih =>
    rw [List.mem_cons, not_or] at hfirst
    cases second with
    | nil => exact absurd (List.cons_prefix_cons.mp hstarts).1.symm hfirst.1
    | cons e second =>
      rw [List.mem_cons, not_or] at hsecond
      obtain ⟨rfl, hrest⟩ := List.cons_prefix_cons.mp hstarts
      rw [ih hfirst.2 hsecond.2 hrest]

/-! ## Replacing -/

section Replacing

variable {pattern replacement : Text}

/-- There is nothing to replace in an empty text. -/
@[simp]
theorem replaceAll_nil : replaceAll pattern replacement [] = [] := by
  simp [replaceAll, replaceFrom]

/-- The characters of a match are passed over. -/
theorem replaceFrom_skip (segment rest : Text) :
    replaceFrom pattern replacement segment.length (segment ++ rest) =
      replaceFrom pattern replacement 0 rest := by
  induction segment with
  | nil => rfl
  | cons c segment ih => simpa [replaceFrom] using ih

/-- An occurrence at the start of a text is replaced. -/
theorem replaceAll_append_self (hpattern : pattern ≠ []) (rest : Text) :
    replaceAll pattern replacement (pattern ++ rest) =
      replacement ++ replaceAll pattern replacement rest := by
  obtain ⟨c, pattern, rfl⟩ := List.exists_cons_of_ne_nil hpattern
  have hstart : (c :: pattern).isPrefixOf (c :: (pattern ++ rest)) = true :=
    List.isPrefixOf_iff_prefix.mpr (List.prefix_append _ _)
  simp only [replaceAll, List.isEmpty_cons, Bool.false_eq_true, if_false, List.cons_append,
    replaceFrom, hstart, if_true, List.length_cons, Nat.add_sub_cancel]
  rw [replaceFrom_skip]

/-- A segment that a search passes over is kept. -/
theorem Skips.replaceAll_append {segment : Text} (hskips : Skips pattern segment) (rest : Text) :
    replaceAll pattern replacement (segment ++ rest) =
      segment ++ replaceAll pattern replacement rest := by
  by_cases hempty : pattern = []
  · simp [replaceAll, hempty]
  · simp only [replaceAll, List.isEmpty_iff, hempty, if_false]
    induction segment with
    | nil => rfl
    | cons c segment ih =>
      obtain ⟨hstart, hsegment⟩ := hskips.of_cons
      have hnot : pattern.isPrefixOf (c :: (segment ++ rest)) = false := by
        rw [← Bool.not_eq_true, List.isPrefixOf_iff_prefix]
        exact hstart rest
      simp only [List.cons_append, replaceFrom, hnot, Bool.false_eq_true, if_false, ih hsegment]

/-- Nothing is replaced in a text that lacks the first character of the pattern. -/
theorem replaceAll_eq_self {c : Char} {t : Text} (hmissing : c ∉ t) :
    replaceAll (c :: pattern) replacement t = t := by
  have hskips : Skips (c :: pattern) t := skips_of_not_mem hmissing
  have hstep : replaceAll (c :: pattern) replacement (t ++ []) =
      t ++ replaceAll (c :: pattern) replacement [] := hskips.replaceAll_append []
  simpa only [List.append_nil, replaceAll_nil] using hstep

/-- A mark that stands for the occurrences of a pattern can be replaced in their place, in a text
that lacks the first character of the mark. -/
theorem replaceAll_replaceAll {c : Char} {mark final t : Text} (hpattern : pattern ≠ [])
    (hmissing : c ∉ t) :
    replaceAll (c :: mark) final (replaceAll pattern (c :: mark) t) =
      replaceAll pattern final t := by
  have hstep (skip : Nat) : replaceAll (c :: mark) final (replaceFrom pattern (c :: mark) skip t) =
      replaceFrom pattern final skip t := by
    induction t generalizing skip with
    | nil => simp [replaceFrom, replaceAll]
    | cons d t ih =>
      rw [List.mem_cons, not_or] at hmissing
      cases skip with
      | succ skip => exact ih hmissing.2 skip
      | zero =>
        by_cases hstart : pattern.isPrefixOf (d :: t) = true
        · simp only [replaceFrom, hstart, if_true]
          rw [replaceAll_append_self (List.cons_ne_nil _ _), ih hmissing.2]
        · simp only [replaceFrom, hstart, Bool.false_eq_true, if_false]
          rw [← ih hmissing.2 0]
          have hd : Skips (c :: mark) [d] := skips_of_not_mem (by simpa using hmissing.1)
          exact hd.replaceAll_append _
  have hzero := hstep 0
  simpa only [replaceAll, List.isEmpty_iff, hpattern, if_false] using hzero

/-- A search passes over the result of a replacement, if it passes over what is put in and the
text lacks the first character of the pattern sought. -/
theorem skips_replaceAll {c : Char} {sought t : Text}
    (hreplacement : Skips (c :: sought) replacement) (hmissing : c ∉ t) :
    Skips (c :: sought) (replaceAll pattern replacement t) := by
  have hstep (skip : Nat) : Skips (c :: sought) (replaceFrom pattern replacement skip t) := by
    induction t generalizing skip with
    | nil => cases skip <;> exact skips_nil _
    | cons d t ih =>
      rw [List.mem_cons, not_or] at hmissing
      cases skip with
      | succ skip => exact ih hmissing.2 skip
      | zero =>
        have hd : Skips (c :: sought) [d] := skips_of_not_mem (by simpa using hmissing.1)
        simp only [replaceFrom]
        split
        · exact hreplacement.append (ih hmissing.2 _)
        · exact hd.append (ih hmissing.2 0)
  rw [replaceAll]
  split
  · exact skips_of_not_mem hmissing
  · exact hstep 0

end Replacing

/-! ## Blanks around a text -/

section Blanks

variable {pattern replacement : Text}

/-- A blank after a text is kept by a replacement of a pattern without that blank. -/
theorem replaceAll_concat {b : Char} (hmissing : b ∉ pattern) (t : Text) :
    replaceAll pattern replacement (t ++ [b]) = replaceAll pattern replacement t ++ [b] := by
  by_cases hempty : pattern = []
  · simp [replaceAll, hempty]
  have hstart (u : Text) : pattern.isPrefixOf (u ++ [b]) = pattern.isPrefixOf u := by
    rw [Bool.eq_iff_iff, List.isPrefixOf_iff_prefix, List.isPrefixOf_iff_prefix,
      List.prefix_concat_iff]
    refine ⟨fun h => h.resolve_left fun heq => hmissing (by simp [heq]), .inr⟩
  have hstep (skip : Nat) (hskip : skip ≤ t.length) :
      replaceFrom pattern replacement skip (t ++ [b]) =
        replaceFrom pattern replacement skip t ++ [b] := by
    induction t generalizing skip with
    | nil =>
      have hnot := hstart []
      rw [List.nil_append, show pattern.isPrefixOf ([] : Text) = false by
        cases pattern <;> simp_all] at hnot
      obtain rfl : skip = 0 := by simpa using hskip
      simp [replaceFrom, hnot]
    | cons c t ih =>
      cases skip with
      | succ skip => exact ih skip (by simpa using hskip)
      | zero =>
        simp only [List.cons_append, replaceFrom]
        rw [← List.cons_append, hstart]
        split
        next hstarts =>
          have hlength := (List.isPrefixOf_iff_prefix.mp hstarts).length_le
          rw [ih _ (by simp at hlength; omega), List.append_assoc]
        next => rw [ih 0 (Nat.zero_le _), List.cons_append]
  simpa only [replaceAll, List.isEmpty_iff, hempty, if_false] using hstep 0 (Nat.zero_le _)

/-- A replacement that puts something in gives an empty text for the empty text only. -/
theorem replaceAll_ne_nil (hreplacement : replacement ≠ []) {t : Text} (ht : t ≠ []) :
    replaceAll pattern replacement t ≠ [] := by
  obtain ⟨c, t, rfl⟩ := List.exists_cons_of_ne_nil ht
  rw [replaceAll]
  split
  · exact ht
  · simp only [replaceFrom]
    split <;> simp [hreplacement]

/-- Blanks before a text are removed before or after a replacement. -/
theorem stripLeft_replaceAll {p r : Char} (hp : isBlank p = false) (hr : isBlank r = false)
    (t : Text) : stripLeft (replaceAll (p :: pattern) (r :: replacement) t) =
      replaceAll (p :: pattern) (r :: replacement) (stripLeft t) := by
  induction t with
  | nil => rfl
  | cons c t ih =>
    by_cases hc : isBlank c = true
    · have hskips : Skips (p :: pattern) [c] :=
        skips_of_not_mem (by rintro hmem; simp_all)
      have hstep : replaceAll (p :: pattern) (r :: replacement) (c :: t) =
          c :: replaceAll (p :: pattern) (r :: replacement) t := hskips.replaceAll_append t
      rw [hstep]
      simpa [stripLeft, hc] using ih
    · have hkept : stripLeft (c :: t) = c :: t := by simp [stripLeft, hc]
      rw [hkept]
      simp only [replaceAll, List.isEmpty_cons, Bool.false_eq_true, if_false, replaceFrom]
      split <;> simp [stripLeft, hc, hr]

/-- Stripping drops blanks from the end. -/
theorem stripRight_eq_rdropWhile (t : Text) : stripRight t = List.rdropWhile isBlank t := rfl

/-- Nothing is removed from the end of a text that ends with a visible character. -/
theorem stripRight_eq_self_iff {t : Text} :
    stripRight t = t ↔ ∀ c ∈ t.getLast?, isBlank c = false := by
  rw [stripRight_eq_rdropWhile, List.rdropWhile_eq_self_iff]
  constructor
  · intro hlast c hc
    obtain ⟨hne, rfl⟩ := List.mem_getLast?_eq_getLast hc
    simpa using hlast hne
  · intro hlast hne
    simpa using hlast _ (List.getLast?_eq_some_getLast hne)

/-- A replaced text ends with a visible character if the text and the replacement do. -/
theorem getLast?_replaceAll (hne : replacement ≠ [])
    (hvisible : ∀ c ∈ replacement.getLast?, isBlank c = false) {t : Text}
    (ht : ∀ c ∈ t.getLast?, isBlank c = false) :
    ∀ c ∈ (replaceAll pattern replacement t).getLast?, isBlank c = false := by
  by_cases hempty : pattern = []
  · simpa [replaceAll, hempty] using ht
  have hstep (skip : Nat) :
      ∀ c ∈ (replaceFrom pattern replacement skip t).getLast?, isBlank c = false := by
    induction t generalizing skip with
    | nil => cases skip <;> simp [replaceFrom]
    | cons d t ih =>
      have hrest := ih fun c hc => ht c (by cases t <;> simp_all)
      cases skip with
      | succ skip => exact hrest skip
      | zero =>
        simp only [replaceFrom]
        split
        · intro c hc
          rw [List.getLast?_append, Option.mem_def, Option.or_eq_some_iff] at hc
          rcases hc with hc | ⟨-, hc⟩
          · exact hrest _ c hc
          · exact hvisible c hc
        · intro c hc
          rw [← List.singleton_append, List.getLast?_append, Option.mem_def,
            Option.or_eq_some_iff] at hc
          rcases hc with hc | ⟨hnone, hc⟩
          · exact hrest 0 c hc
          · have hnil : t = [] := by
              by_contra hcons
              have h : replaceAll pattern replacement t ≠ [] := replaceAll_ne_nil hne hcons
              simp_all [replaceAll]
            exact ht c (by simp_all)
  simpa only [replaceAll, List.isEmpty_iff, hempty, if_false] using hstep 0

/-- Blanks after a text are removed before or after a replacement. -/
theorem stripRight_replaceAll (hpattern : ∀ c ∈ pattern, isBlank c = false)
    (hne : replacement ≠ []) (hvisible : ∀ c ∈ replacement.getLast?, isBlank c = false) (t : Text) :
    stripRight (replaceAll pattern replacement t) =
      replaceAll pattern replacement (stripRight t) := by
  induction t using List.reverseRecOn with
  | nil =>
    rw [show stripRight ([] : Text) = [] from rfl, replaceAll_nil]
    rfl
  | append_singleton t b ih =>
    by_cases hb : isBlank b = true
    · have hmissing : b ∉ pattern := fun hmem => by simp [hpattern b hmem] at hb
      rw [replaceAll_concat hmissing, stripRight_eq_rdropWhile, stripRight_eq_rdropWhile,
        List.rdropWhile_concat_pos _ _ _ hb, List.rdropWhile_concat_pos _ _ _ hb]
      exact ih
    · have hlast : ∀ c ∈ (t ++ [b]).getLast?, isBlank c = false := by simpa using hb
      rw [stripRight_eq_self_iff.mpr hlast, stripRight_eq_self_iff]
      exact getLast?_replaceAll hne hvisible hlast

/-- Blanks around a text are removed before or after a replacement. -/
theorem strip_replaceAll (hpattern : ∀ c ∈ pattern, isBlank c = false) (hpne : pattern ≠ [])
    (hne : replacement ≠ []) (hfirst : ∀ c ∈ replacement.head?, isBlank c = false)
    (hlast : ∀ c ∈ replacement.getLast?, isBlank c = false) (t : Text) :
    strip (replaceAll pattern replacement t) = replaceAll pattern replacement (strip t) := by
  obtain ⟨p, pattern, rfl⟩ := List.exists_cons_of_ne_nil hpne
  obtain ⟨r, replacement, rfl⟩ := List.exists_cons_of_ne_nil hne
  rw [strip, strip, stripLeft_replaceAll (hpattern p (by simp)) (hfirst r rfl),
    stripRight_replaceAll hpattern hne hlast]

/-- Blanks that are put around a text are removed with its own. -/
theorem strip_append_blanks {before after : Text} (hbefore : ∀ c ∈ before, isBlank c = true)
    (hafter : ∀ c ∈ after, isBlank c = true) (t : Text) :
    strip (before ++ (t ++ after)) = strip t := by
  have hleft : stripLeft (before ++ (t ++ after)) = stripLeft (t ++ after) :=
    List.dropWhile_append_of_pos hbefore
  have hright (u : Text) : stripRight (u ++ after) = stripRight u := by
    simp only [stripRight, trimEnd, List.reverse_append]
    rw [List.dropWhile_append_of_pos (by simpa using hafter)]
  rw [strip, strip, hleft, stripLeft, stripLeft, List.dropWhile_append]
  split
  next hempty =>
    rw [List.isEmpty_iff.mp hempty, List.dropWhile_eq_nil_iff.mpr hafter]
  next => exact hright _

/-- What is left of a text stands in it. -/
theorem mem_of_mem_strip {t : Text} {c : Char} (hc : c ∈ strip t) : c ∈ t := by
  have hleft : c ∈ stripLeft t := (List.rdropWhile_prefix isBlank _).subset hc
  exact (List.dropWhile_suffix isBlank).subset hleft

/-- A text that stripping leaves as it is starts and ends with visible characters. -/
theorem visible_ends_of_strip_eq_self {t : Text} (hstrip : strip t = t) :
    (∀ c ∈ t.head?, isBlank c = false) ∧ ∀ c ∈ t.getLast?, isBlank c = false := by
  constructor
  · intro c hc
    by_contra hblank
    rw [Bool.not_eq_false] at hblank
    obtain ⟨rest, rfl⟩ : ∃ rest, t = c :: rest := by
      cases t with
      | nil => cases hc
      | cons d rest => exact ⟨rest, by rw [Option.some.inj hc]⟩
    have hlength : (strip (c :: rest)).length ≤ rest.length := by
      refine (List.rdropWhile_prefix isBlank _).length_le.trans ?_
      rw [stripLeft, List.dropWhile_cons_of_pos hblank]
      exact (List.dropWhile_suffix isBlank).length_le
    rw [hstrip, List.length_cons] at hlength
    omega
  · rw [← stripRight_eq_self_iff]
    have hagain : stripRight (strip t) = strip t := List.rdropWhile_idempotent _ _
    rwa [hstrip] at hagain

/-- A text with a visible character is not stripped to nothing. -/
theorem strip_ne_nil {t : Text} {c : Char} (hc : c ∈ t) (hvisible : isBlank c = false) :
    strip t ≠ [] := by
  have hleft : c ∈ stripLeft t := by
    rw [← List.takeWhile_append_dropWhile (p := isBlank) (l := t), List.mem_append] at hc
    rcases hc with hc | hc
    · rw [List.mem_takeWhile_imp hc] at hvisible
      cases hvisible
    · exact hc
  intro hnil
  rw [strip, stripRight_eq_rdropWhile, List.rdropWhile_eq_nil_iff] at hnil
  rw [hnil c hleft] at hvisible
  cases hvisible

end Blanks

end PortableSql.Text
