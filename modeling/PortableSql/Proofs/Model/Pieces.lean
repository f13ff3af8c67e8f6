import Mathlib.Data.List.Perm.Subperm
import PortableSql.Proofs.Model.Spelling
import PortableSql.Proofs.Text.Brace

/-!
# Which pieces of a text are replaced

Macro calls are put in one after the other, each into the text that the earlier ones left. Still
the result can be read off the text as it was at first: pieces of it that do not overlap give way
to macro calls, each for a call of its own, and the expression tags stay as they are. No macro call
is put into a tag or into another macro call, because the braces of these are counted.
-/

namespace PortableSql.Model

open Text

/-- A text with expression tags in it: each tag, given by its inside, is followed by more text. -/
def weave (first : Text) (tags : List (Text × Text)) : Text :=
  interleave first (tags.map fun tag => (tagged tag.1, tag.2))

/-- A woven text starts with its first text and its first tag. -/
theorem weave_cons (first inside next : Text) (tags : List (Text × Text)) :
    weave first ((inside, next) :: tags) = first ++ tagged inside ++ weave next tags := rfl

/-- Pieces of a text that do not overlap are replaced, each by the macro call of one of the listed
replacements, whose call it spells. -/
inductive Replaced : Text → List Replacement → Text → Prop
  | keep (t : Text) : Replaced t [] t
  | replace {kept piece rest result : Text} {entry : Replacement} {used : List Replacement}
      (hpiece : piece ≠ []) (hspells : lower piece = lower entry.sql)
      (hrest : Replaced rest used result) :
      Replaced (kept ++ piece ++ rest) (entry :: used) (kept ++ entry.macroCall ++ result)

/-- Pieces are replaced in the texts around tags, which stay as they are. -/
inductive ReplacedAround :
    Text → List (Text × Text) → List Replacement → Text → List (Text × Text) → Prop
  | last {t result : Text} {used : List Replacement} (hreplaced : Replaced t used result) :
      ReplacedAround t [] used result []
  | tag {t result next nextResult : Text} {tags tagsResult : List (Text × Text)}
      {used more : List Replacement} (inside : Text) (hreplaced : Replaced t used result)
      (hrest : ReplacedAround next tags more nextResult tagsResult) :
      ReplacedAround t ((inside, next) :: tags) (used ++ more) result
        ((inside, nextResult) :: tagsResult)

/-- A replacement whose call has no braces or percent signs and whose macro call is one tag. -/
structure Replacement.IsOrdinary (entry : Replacement) : Prop where
  sql : entry.sql.IsBraceless
  percent : '%' ∉ entry.sql
  call : ∃ inside : Text, inside.IsBraceless ∧ entry.macroCall = tagged inside
  sqlCase : entry.sql.HasSimpleCase
  callCase : entry.macroCall.HasSimpleCase

/-- A spelling of a text without braces has none either. -/
theorem isBraceless_of_lower_eq {piece t : Text} (hpiece : piece.HasSimpleCase)
    (hcase : t.HasSimpleCase) (hspells : lower piece = lower t) (ht : t.IsBraceless) :
    piece.IsBraceless :=
  ⟨not_mem_of_lower_eq hpiece hcase hspells (isCaseless_delimiter (by simp)) ht.1,
    not_mem_of_lower_eq hpiece hcase hspells (isCaseless_delimiter (by simp)) ht.2⟩

/-- A spelling of a call has no braces or percent signs either. -/
theorem Replacement.IsOrdinary.spelling {entry : Replacement} (hentry : entry.IsOrdinary)
    {piece : Text} (hpiece : piece.HasSimpleCase) (hspells : lower piece = lower entry.sql) :
    piece.IsBraceless ∧ '%' ∉ piece :=
  ⟨isBraceless_of_lower_eq hpiece hentry.sqlCase hspells hentry.sql,
    not_mem_of_lower_eq hpiece hentry.sqlCase hspells (isCaseless_delimiter (by simp))
      hentry.percent⟩

/-! ## One text -/

section Text

variable {t result before piece after : Text} {used : List Replacement} {entry : Replacement}

/-- A text whose braces are those of statement tags opens and closes as many tags after pieces of it
were replaced. -/
theorem Replaced.isNeutral (hreplaced : Replaced t used result) (ht : t.HasStatementBraces)
    (hcase : t.HasSimpleCase) (hused : ∀ entry ∈ used, entry.IsOrdinary) : result.IsNeutral := by
  induction hreplaced with
  | keep t => exact ht.isNeutral
  | @replace kept piece rest result entry used hpiece hspells _ ih =>
    obtain ⟨hkeptPiece, hrestCase⟩ := hasSimpleCase_append.mp hcase
    have hentry := hused entry (by simp)
    obtain ⟨-, hpercent⟩ := hentry.spelling (hasSimpleCase_append.mp hkeptPiece).2 hspells
    obtain ⟨hkept, hrest⟩ := ht.split hpercent hpiece
    obtain ⟨inside, hinside, hcall⟩ := hentry.call
    rw [hcall]
    exact (hkept.isNeutral.append (isNeutral_tagged hinside)).append
      (ih hrest hrestCase fun other hother => hused other (by simp [hother]))

/-- A piece that stands in a text after others were replaced stands in what was kept, where it can
be replaced too, or inside of a macro call. -/
theorem Replaced.insert (hreplaced : Replaced t used result) (ht : t.HasStatementBraces)
    (hcase : t.HasSimpleCase) (hused : ∀ entry ∈ used, entry.IsOrdinary)
    (hpiece : piece.IsBraceless) (hne : piece ≠ []) (hspells : lower piece = lower entry.sql)
    (hsplit : result = before ++ piece ++ after) :
    (∃ more, more.Perm (entry :: used) ∧ Replaced t more (before ++ entry.macroCall ++ after)) ∨
      before.OpensTag := by
  induction hreplaced generalizing before with
  | keep t =>
    rw [hsplit]
    exact .inl ⟨[entry], .refl _, .replace hne hspells (.keep after)⟩
  | @replace kept other rest result made used hother hspellsOther hrest ih =>
    obtain ⟨hkeptOther, hrestCase⟩ := hasSimpleCase_append.mp hcase
    have hmade := hused made (by simp)
    obtain ⟨-, hpercent⟩ := hmade.spelling (hasSimpleCase_append.mp hkeptOther).2 hspellsOther
    obtain ⟨hkept, hrestBraces⟩ := ht.split hpercent hother
    obtain ⟨inside, hinside, hcall⟩ := hmade.call
    rw [hcall, List.append_assoc] at hsplit
    rcases part_of_append hpiece.1 (.inl rfl) hsplit with ⟨more, rfl, rfl⟩ | ⟨start, rfl, htail⟩
    · -- The piece stands before the macro call.
      have hinserted : Replaced (before ++ piece ++ (more ++ other ++ rest)) (entry :: made :: used)
          (before ++ entry.macroCall ++ (more ++ made.macroCall ++ result)) :=
        .replace hne hspells (.replace hother hspellsOther hrest)
      exact .inl ⟨entry :: made :: used, .refl _, by simpa [hcall] using hinserted⟩
    · rcases part_of_append hpiece.2 (.inr (getLast?_tagged inside)) htail
        with ⟨more, htag, -⟩ | ⟨start, rfl, hlast⟩
      · exact .inr ((opensTag_of_tagged hinside hpiece hne htag).append_left hkept.isNeutral)
      · -- The piece stands after the macro call.
        rcases ih hrestBraces hrestCase (fun e he => hused e (by simp [he])) hlast
          with ⟨more, hperm, hmore⟩ | hopens
        · have hinserted : Replaced (kept ++ other ++ rest) (made :: more)
              (kept ++ made.macroCall ++ (start ++ entry.macroCall ++ after)) :=
            .replace hother hspellsOther hmore
          refine .inl ⟨made :: more, ?_, by simpa [hcall] using hinserted⟩
          exact (hperm.cons made).trans (.swap entry made used)
        · have hneutral := hkept.isNeutral.append (isNeutral_tagged hinside)
          rw [← List.append_assoc]
          exact .inr (hopens.append_left hneutral)

end Text

/-! ## Texts around tags -/

section Around

variable {first result before piece after : Text} {tags resultTags : List (Text × Text)}
  {used : List Replacement} {entry : Replacement}

/-- Where nothing is replaced, all texts are kept. -/
theorem replacedAround_nil (first : Text) (tags : List (Text × Text)) :
    ReplacedAround first tags [] first tags := by
  induction tags generalizing first with
  | nil => exact .last (.keep first)
  | cons tag tags ih => exact .tag tag.1 (.keep first) (ih tag.2)

/-- The tags stay, in the same order. -/
theorem ReplacedAround.insides_eq (hreplaced : ReplacedAround first tags used result resultTags) :
    resultTags.map (·.1) = tags.map (·.1) := by
  induction hreplaced with
  | last => rfl
  | tag inside _ _ ih => rw [List.map_cons, List.map_cons, ih]

/-- A text with tags whose braces are those of tags: there are none inside of the expression tags,
and around these only such as statement tags have. -/
structure IsWoven (first : Text) (tags : List (Text × Text)) : Prop where
  texts : ∀ t ∈ first :: tags.map (·.2), t.HasStatementBraces
  insides : ∀ inside ∈ tags.map (·.1), inside.IsBraceless
  simpleCase : (weave first tags).HasSimpleCase

/-- What follows the first tag of a woven text is a woven text. -/
theorem IsWoven.tail {inside next : Text} (hwoven : IsWoven first ((inside, next) :: tags)) :
    IsWoven next tags where
  texts t ht := hwoven.texts t (List.mem_cons_of_mem _ ht)
  insides t ht := hwoven.insides t (List.mem_cons_of_mem _ ht)
  simpleCase := (hasSimpleCase_append.mp hwoven.simpleCase).2

/-- The first text of a text with tags has the case of its characters. -/
theorem IsWoven.firstCase (hwoven : IsWoven first tags) : first.HasSimpleCase := by
  have hcase := hwoven.simpleCase
  cases tags with
  | nil => exact hcase
  | cons tag tags => exact (hasSimpleCase_append.mp (hasSimpleCase_append.mp hcase).1).1

/-- A piece that stands in a text with tags after others were replaced stands in a text that was
kept, where it can be replaced too, or inside of a tag. -/
theorem ReplacedAround.insert (hreplaced : ReplacedAround first tags used result resultTags)
    (hwoven : IsWoven first tags) (hused : ∀ entry ∈ used, entry.IsOrdinary)
    (hpiece : piece.IsBraceless) (hne : piece ≠ []) (hspells : lower piece = lower entry.sql)
    (hsplit : weave result resultTags = before ++ piece ++ after) :
    (∃ more next nextTags, more.Perm (entry :: used) ∧
        ReplacedAround first tags more next nextTags ∧
        weave next nextTags = before ++ entry.macroCall ++ after) ∨
      before.OpensTag := by
  induction hreplaced generalizing before with
  | last hreplaced =>
    rcases hreplaced.insert (hwoven.texts _ (by simp)) hwoven.firstCase hused hpiece hne hspells
      hsplit with ⟨more, hperm, hinserted⟩ | hopens
    · exact .inl ⟨more, _, [], hperm, .last hinserted, rfl⟩
    · exact .inr hopens
  | @tag t result next nextResult tags tagsResult used others inside hreplaced hrest ih =>
    have hhere : ∀ entry ∈ used, entry.IsOrdinary := fun e he => hused e (by simp [he])
    have hthere : ∀ entry ∈ others, entry.IsOrdinary := fun e he => hused e (by simp [he])
    have hbraces := hwoven.texts t (by simp)
    have hinside := hwoven.insides inside (by simp)
    have hneutral := hreplaced.isNeutral hbraces hwoven.firstCase hhere
    rw [weave_cons, List.append_assoc] at hsplit
    rcases part_of_append hpiece.1 (.inl rfl) hsplit with ⟨rest, htext, rfl⟩ | ⟨start, rfl, htail⟩
    · -- The piece stands before the tag.
      rcases hreplaced.insert hbraces hwoven.firstCase hhere hpiece hne hspells htext
        with ⟨more, hperm, hinserted⟩ | hopens
      · refine .inl ⟨more ++ others, _, _, hperm.append_right others,
          .tag inside hinserted hrest, ?_⟩
        simp [weave_cons]
      · exact .inr hopens
    · rcases part_of_append hpiece.2 (.inr (getLast?_tagged inside)) htail
        with ⟨rest, htag, -⟩ | ⟨start, rfl, hlast⟩
      · exact .inr ((opensTag_of_tagged hinside hpiece hne htag).append_left hneutral)
      · -- The piece stands after the tag.
        rcases ih hwoven.tail hthere hlast
          with ⟨more, text, rest, hperm, hinserted, hweave⟩ | hopens
        · refine .inl ⟨used ++ more, _, _, ?_, .tag inside hreplaced hinserted, ?_⟩
          · exact (hperm.append_left used).trans List.perm_middle
          · simp [weave_cons, hweave]
        · rw [← List.append_assoc]
          exact .inr (hopens.append_left (hneutral.append (isNeutral_tagged hinside)))

/-- One more replacement, if it is made, replaces one more piece. -/
theorem ReplacedAround.step (hreplaced : ReplacedAround first tags used result resultTags)
    (hwoven : IsWoven first tags) (hused : ∀ entry ∈ used, entry.IsOrdinary)
    (hentry : entry.IsOrdinary) (hcase : (weave result resultTags).HasSimpleCase) :
    ∃ more next nextTags, ReplacedAround first tags more next nextTags ∧
      more.Perm (used ++ if applies (weave result resultTags) entry then [entry] else []) ∧
      replaceCall (weave result resultTags) entry = weave next nextTags ∧
      (weave next nextTags).HasSimpleCase := by
  rcases replaceCall_cases hentry.sqlCase hcase
    with ⟨hnot, hsame⟩ | ⟨happlies, before, piece, after, hsplit, hne, hspells, houtside, hmade⟩
  · exact ⟨used, result, resultTags, hreplaced, by simp [hnot], hsame, hcase⟩
  · have hparts := hcase
    rw [hsplit] at hparts
    obtain ⟨hfront, hafter⟩ := hasSimpleCase_append.mp hparts
    obtain ⟨hbefore, hpiece⟩ := hasSimpleCase_append.mp hfront
    obtain ⟨hbraceless, -⟩ := hentry.spelling hpiece hspells
    rcases hreplaced.insert hwoven hused hbraceless hne hspells hsplit
      with ⟨more, next, nextTags, hperm, hinserted, hweave⟩ | hopens
    · refine ⟨more, next, nextTags, hinserted, ?_, by rw [hmade, hweave], ?_⟩
      · rw [happlies, if_pos rfl]
        exact hperm.trans (List.perm_append_singleton entry used).symm
      · rw [hweave]
        exact hasSimpleCase_append.mpr
          ⟨hasSimpleCase_append.mpr ⟨hbefore, hentry.callCase⟩, hafter⟩
    · -- The search does not make a replacement inside of a tag.
      rw [endsInTag, decide_eq_false_iff_not] at houtside
      exact absurd hopens.countPairs_lt houtside

/-- Replacements one after the other replace pieces of the first text. -/
theorem ReplacedAround.replaceCalls {entries : List Replacement}
    (hreplaced : ReplacedAround first tags used result resultTags)
    (hwoven : IsWoven first tags) (hused : ∀ entry ∈ used, entry.IsOrdinary)
    (hentries : ∀ entry ∈ entries, entry.IsOrdinary)
    (hcase : (weave result resultTags).HasSimpleCase) :
    ∃ more next nextTags, ReplacedAround first tags more next nextTags ∧
      more.Perm (used ++ applied (weave result resultTags) entries) ∧
      Model.replaceCalls (weave result resultTags) entries = weave next nextTags := by
  induction entries generalizing used result resultTags with
  | nil => exact ⟨used, result, resultTags, hreplaced, by simp [applied], rfl⟩
  | cons entry entries ih =>
    have hentry := hentries entry (by simp)
    obtain ⟨more, next, nextTags, hstep, hperm, hmade, hnextCase⟩ :=
      hreplaced.step hwoven hused hentry hcase
    have hmore : ∀ other ∈ more, other.IsOrdinary := by
      intro other hother
      rcases List.mem_append.mp (hperm.mem_iff.mp hother) with hother | hother
      · exact hused other hother
      · split at hother
        · rwa [List.mem_singleton.mp hother]
        · cases hother
    obtain ⟨all, last, lastTags, hall, hallPerm, hlast⟩ :=
      ih hstep hmore (fun e he => hentries e (by simp [he])) hnextCase
    refine ⟨all, last, lastTags, hall, ?_, ?_⟩
    · rw [applied, hmade, ← List.append_assoc]
      exact hallPerm.trans (hperm.append_right _)
    · rw [Model.replaceCalls, List.foldl_cons, hmade]
      exact hlast

end Around

/-- Only whole pieces of the texts around the tags of a text are replaced, each once and by the
macro call of an entry of its own, whose call it spells. These are the entries that are made. All
tags stay as they are. -/
theorem replaceCalls_weave {first : Text} {tags : List (Text × Text)} {entries : List Replacement}
    (hwoven : IsWoven first tags) (hentries : ∀ entry ∈ entries, entry.IsOrdinary) :
    ∃ used result resultTags,
      replaceCalls (weave first tags) entries = weave result resultTags ∧
      ReplacedAround first tags used result resultTags ∧
      resultTags.map (·.1) = tags.map (·.1) ∧
      used.Perm (applied (weave first tags) entries) ∧
      used.Subperm entries := by
  obtain ⟨used, result, resultTags, hreplaced, hperm, hresult⟩ :=
    (replacedAround_nil first tags).replaceCalls hwoven (by simp) hentries hwoven.simpleCase
  rw [List.nil_append] at hperm
  refine ⟨used, result, resultTags, hresult, hreplaced, hreplaced.insides_eq, hperm, ?_⟩
  exact hperm.subperm.trans (applied_sublist _ _).subperm

/-- A tag and, in a condition after it, a call inside of another call. -/
def nestedTags : List (Text × Text) :=
  [(" ref('a') ".toList, "\x7b% if b %\x7d G(F(x)) \x7b% endif %\x7d".toList)]

/-- The outer call, the inner one and one that is only in the tag. -/
def nestedEntries : List Replacement :=
  [⟨1, "g(f(x))".toList, "\x7b\x7b portable_g('f(x)') \x7d\x7d".toList⟩,
    ⟨0, "ref('a')".toList, "\x7b\x7b portable_ref('a') \x7d\x7d".toList⟩,
    ⟨2, "f(x)".toList, "\x7b\x7b portable_f('x') \x7d\x7d".toList⟩]

/-- The outer call is replaced as a whole, and the inner one where it stands alone. -/
theorem replaceCalls_weave_nested :
    ∃ used result resultTags,
      replaceCalls (weave "SELECT f(x), ".toList nestedTags) nestedEntries =
        weave result resultTags ∧
      ReplacedAround "SELECT f(x), ".toList nestedTags used result resultTags ∧
      resultTags.map (·.1) = [" ref('a') ".toList] ∧
      used.Perm [⟨1, "g(f(x))".toList, "\x7b\x7b portable_g('f(x)') \x7d\x7d".toList⟩,
        ⟨2, "f(x)".toList, "\x7b\x7b portable_f('x') \x7d\x7d".toList⟩] ∧
      used.Subperm nestedEntries := by
  have hwoven : IsWoven "SELECT f(x), ".toList nestedTags :=
    ⟨by decide +kernel, by decide +kernel, by decide +kernel⟩
  have hentries : ∀ entry ∈ nestedEntries, entry.IsOrdinary := by
    simp only [nestedEntries, List.forall_mem_cons, List.not_mem_nil, false_implies, implies_true,
      and_true]
    exact ⟨⟨by decide, by decide, ⟨" portable_g('f(x)') ".toList, by decide, rfl⟩, by decide,
        by decide⟩,
      ⟨by decide, by decide, ⟨" portable_ref('a') ".toList, by decide, rfl⟩, by decide, by decide⟩,
      ⟨by decide, by decide, ⟨" portable_f('x') ".toList, by decide, rfl⟩, by decide, by decide⟩⟩
  obtain ⟨used, result, resultTags, hresult, hreplaced, hinsides, hperm, hsub⟩ :=
    replaceCalls_weave hwoven hentries
  exact ⟨used, result, resultTags, hresult, hreplaced, hinsides,
    hperm.trans (.of_eq (by decide +kernel)), hsub⟩

end PortableSql.Model
