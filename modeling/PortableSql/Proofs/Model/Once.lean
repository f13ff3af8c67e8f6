import PortableSql.Proofs.Model.Boundary
import PortableSql.Proofs.Template.FirstTag

/-!
# Models that are converted once

A model without braces is plain SQL. The first replacement that is made in it puts in its first tag,
and this tag calls a macro. Whatever is replaced after that, the first braces of the text still open
a call of a macro: nothing is replaced between the braces of a call and its name. So no conversion,
by whatever engine and for whatever adapters, changes the model again.
-/

namespace PortableSql.Model

open Sql Template Text

/-! ## The first tag -/

/-- A text ends in a tag if it opens one and there is no brace before it and no closing brace
after it. -/
theorem endsInTag_of_open {before inside : Text} (hbefore : before.IsBraceless)
    (hinside : '\x7d' ∉ inside) : endsInTag (before ++ '\x7b' :: '\x7b' :: inside) = true := by
  have hclosed : countPairs '\x7d' (before ++ '\x7b' :: '\x7b' :: inside) = 0 :=
    countPairs_of_not_mem (by simp [hbefore.2, hinside])
  have hopened := countPairs_le_append '\x7b' (before ++ ['\x7b', '\x7b']) inside
  rw [countPairs_pair, List.append_assoc] at hopened
  rw [endsInTag, decide_eq_true_iff, hclosed]
  exact Nat.lt_of_lt_of_le (Nat.succ_pos _) hopened

/-- A call that is put outside of tags is the first call of the text, or it stands after the first
one. -/
theorem callsFirst_insert {before piece after call : Text}
    (hcalls : CallsFirst (before ++ piece ++ after)) (houtside : endsInTag before = false)
    (hcall : callStart <+: call) : CallsFirst (before ++ call ++ after) := by
  obtain ⟨rest, rfl⟩ := hcall
  obtain ⟨front, lead, last, hfront, hlead, hsplit⟩ := hcalls
  obtain ⟨inside, hopening, hinside⟩ : ∃ inside : Text,
      lead ++ callStart = '\x7b' :: '\x7b' :: inside ∧ '\x7d' ∉ inside := by
    rcases hlead with rfl | rfl
    · exact ⟨" portable_".toList, rfl, by decide⟩
    · exact ⟨"\x7b portable_".toList, rfl, by decide⟩
  rw [List.append_assoc, List.append_assoc] at hsplit
  rcases List.append_eq_append_iff.mp hsplit with ⟨more, rfl, -⟩ | ⟨start, rfl, hrest⟩
  · -- the new call comes before the first one
    exact ⟨before, [], rest ++ after, hfront.of_subset (List.subset_append_left ..), .inl rfl,
      by simp⟩
  rcases List.append_eq_append_iff.mp hrest with ⟨more, rfl, -⟩ | ⟨more, hstart, -⟩
  · -- the new call comes after the name of the first one
    exact ⟨front, lead, more ++ callStart ++ rest ++ after, hfront, hlead, by simp⟩
  -- the new call comes inside the start of the first one, where only one brace can stand before it
  rw [hopening] at hstart
  rcases start with - | ⟨a, - | ⟨b, start⟩⟩
  · exact ⟨front, [], rest ++ after, hfront, .inl rfl, by simp⟩
  · obtain ⟨rfl, -⟩ := List.cons.inj hstart
    exact ⟨front, ['\x7b'], rest ++ after, hfront, .inr rfl, by simp⟩
  · rw [List.cons_append, List.cons_append, List.cons.injEq, List.cons.injEq] at hstart
    obtain ⟨rfl, rfl, rfl⟩ := hstart
    rw [endsInTag_of_open hfront fun hmem => hinside (List.mem_append_left _ hmem)] at houtside
    cases houtside

/-- A replacement in a text whose first braces open a call, if there are any, leaves the text as it
is or leaves such a text. -/
theorem callsFirst_replaceCall {t : Text} {replacement : Replacement}
    (ht : t.IsBraceless ∨ CallsFirst t) (hcall : callStart <+: replacement.macroCall) :
    replaceCall t replacement = t ∨ CallsFirst (replaceCall t replacement) := by
  rcases replaceCall_place t replacement with
    ⟨-, hkept⟩ | ⟨-, before, piece, after, rfl, -, -, houtside, hmade⟩
  · exact .inl hkept
  · refine .inr ?_
    rw [hmade]
    rcases ht with hbraceless | hcalls
    · obtain ⟨rest, hrest⟩ := hcall
      exact ⟨before, [], rest ++ after, hbraceless.of_subset fun c hc => by simp [hc], .inl rfl,
        by simp [← hrest]⟩
    · exact callsFirst_insert hcalls houtside hcall

/-- Replacing calls leaves a text as it is or with a macro call as its first tag. -/
theorem callsFirst_replaceCalls {t : Text} {replacements : List Replacement}
    (ht : t.IsBraceless ∨ CallsFirst t)
    (hcalls : ∀ replacement ∈ replacements, callStart <+: replacement.macroCall) :
    replaceCalls t replacements = t ∨ CallsFirst (replaceCalls t replacements) := by
  induction replacements generalizing t with
  | nil => exact .inl rfl
  | cons replacement replacements ih =>
    obtain ⟨hcall, hcalls⟩ := List.forall_mem_cons.mp hcalls
    have hrun : replaceCalls t (replacement :: replacements) =
        replaceCalls (replaceCall t replacement) replacements := rfl
    rw [hrun]
    rcases callsFirst_replaceCall ht hcall with hkept | hfirst
    · rw [hkept]
      exact ih ht hcalls
    · rcases ih (.inr hfirst) hcalls with hkept | hlater
      · exact .inr (by rwa [hkept])
      · exact .inr hlater

/-! ## Conversions -/

/-- A model that no conversion changes, whatever reads it and whatever it is converted for. -/
def IsFixed (model : Text) : Prop :=
  ∀ engine adapters primary converted,
    convert engine adapters primary model = .ok converted → converted = model

/-- A model whose first braces open a call is converted to itself at most. -/
theorem isFixed_of_callsFirst {model : Text} (hcalls : CallsFirst model) : IsFixed model := by
  intro engine adapters primary converted hconvert
  unfold convert at hconvert
  split at hconvert
  · exact (pure_eq_ok.mp hconvert).symm
  · obtain ⟨found, hfound, hconvert⟩ := bind_eq_ok.mp hconvert
    rw [not_isConvertible_of_callsFirst hcalls hfound] at hconvert
    exact (pure_eq_ok.mp hconvert).symm

/-- The macro calls that a model asks for start alike. -/
theorem callStart_prefix_of_mem_wanted {engine : Engine} {adapters : Value} {primary : Dialect}
    {model : Text} {found : List Replacement}
    (hwanted : wanted engine adapters primary model = .ok found) {replacement : Replacement}
    (hmem : replacement ∈ found) : callStart <+: replacement.macroCall := by
  obtain ⟨-, function, -, hcall⟩ := exists_function_of_mem_wanted hwanted hmem
  have hparts (argument : Text) :
      expressionTag (macroName function ++ ['('] ++ argument ++ [')']) =
        callStart ++ (lower function ++ ['('] ++ argument ++ [')'] ++ " \x7d\x7d".toList) := rfl
  rw [hcall, macroCall, hparts]
  exact List.prefix_append _ _

/-- A model without braces is converted to itself, or to a model whose first braces open a call. -/
theorem callsFirst_convert {engine : Engine} {adapters : Value} {primary : Dialect}
    {model converted : Text} (hmodel : model.IsBraceless)
    (hconvert : convert engine adapters primary model = .ok converted) :
    converted = model ∨ CallsFirst converted := by
  rw [convert_eq] at hconvert
  cases hwanted : wanted engine adapters primary model with
  | error fault =>
    rw [hwanted] at hconvert
    cases hconvert
  | ok found =>
    rw [hwanted] at hconvert
    obtain rfl := Except.ok.inj hconvert
    refine callsFirst_replaceCalls (.inl hmodel) fun replacement hmem => ?_
    exact callStart_prefix_of_mem_wanted hwanted ((mem_sortBy _).mp hmem)

end PortableSql.Model
