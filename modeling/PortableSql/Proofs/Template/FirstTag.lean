import PortableSql.Proofs.Template.Tags
import PortableSql.Proofs.Text.Brace
import PortableSql.Proofs.Text.Lines

/-!
# Templates that start with a call of a macro

If the first braces of a template open a call of a macro of the library, the reader comes to the
call in text, so the call is a tag of its own and the template is left alone. One more brace in
front of the call makes no difference: it is read as the first symbol of the tag.
-/

namespace PortableSql.Template

open Text

/-- The first braces of a text open a call of a macro of the library, maybe after one more brace. -/
def CallsFirst (t : Text) : Prop :=
  ∃ before lead rest : Text, before.IsBraceless ∧ (lead = [] ∨ lead = ['\x7b']) ∧
    t = before ++ (lead ++ callStart) ++ rest

/-- Text without opening braces is put aside. -/
theorem lexFrom_text {before : Text} (hbefore : '\x7b' ∉ before) (pending rest : Text) :
    lexFrom 0 (.text pending) (before ++ rest) =
      lexFrom 0 (.text (before.reverse ++ pending)) rest := by
  induction before generalizing pending with
  | nil => rfl
  | cons c before ih =>
    rw [List.mem_cons, not_or] at hbefore
    have hstep : step? (.text pending) c (before ++ rest) = some ⟨[], 1, .text (c :: pending)⟩ := by
      rw [step?, opening?_eq_none (Ne.symm hbefore.1)]
      rfl
    rw [List.cons_append, lexFrom, hstep]
    simpa using ih hbefore.2 (c :: pending)

/-- The tokens of a call with one more brace in front of it. -/
theorem lexFrom_brace_callStart {pending rest : Text} {tokens : List Token}
    (hlex : lexFrom 0 (.text pending) ('\x7b' :: (callStart ++ rest)) = some tokens) :
    ∃ name more, tokens = dataTokens pending none ++ .ofText .variableBegin "\x7b\x7b".toList ::
      .ofText .operator "\x7b".toList :: .ofText .name ('p' :: name) :: more := by
  have hsteps (t : Text) :
      lexFrom 0 (.text pending) ('\x7b' :: '\x7b' :: '\x7b' :: ' ' :: 'p' :: t) =
        (((lexFrom 0 (.tag .expression ['\x7d'] false) ('p' :: t)).map ([] ++ ·)).map
          ([.ofText .operator "\x7b".toList] ++ ·)).map
            ((dataTokens pending none ++ [.ofText .variableBegin "\x7b\x7b".toList]) ++ ·) := rfl
  have hname (t : Text) : step? (.tag .expression ['\x7d'] false) 'p' t =
      if isIdentifier ('p' :: t.takeWhile isNameChar) then
        some ⟨[.ofText .name ('p' :: t.takeWhile isNameChar)],
          ('p' :: t.takeWhile isNameChar).length, .tag .expression ['\x7d'] false⟩
      else none := rfl
  have hshape : '\x7b' :: (callStart ++ rest) =
      '\x7b' :: '\x7b' :: '\x7b' :: ' ' :: 'p' :: ("ortable_".toList ++ rest) := rfl
  rw [hshape, hsteps, Option.map_map, Option.map_map] at hlex
  obtain ⟨inner, hinner, rfl⟩ := Option.map_eq_some_iff.mp hlex
  rw [lexFrom, hname] at hinner
  split at hinner
  next => cases hinner
  next step hstep =>
    split at hstep
    · obtain rfl := Option.some.inj hstep
      obtain ⟨more, -, rfl⟩ := Option.map_eq_some_iff.mp hinner
      exact ⟨("ortable_".toList ++ rest).takeWhile isNameChar, more, by simp⟩
    · cases hstep

/-- A call of a macro is no safe expression, with a brace in front of it or not. -/
theorem classify_brace_call (name : Text) (more : List Token) :
    classify .expression (.ofText .variableBegin "\x7b\x7b".toList ::
      .ofText .operator "\x7b".toList :: .ofText .name ('p' :: name) :: more) = .ok .complex :=
  classify_call name more

/-- The first tag of such a text is complex. -/
theorem CallsFirst.exists_tag {t : Text} (hcalls : CallsFirst t) {tokens : List Token}
    (hlex : lexFrom 0 (.text []) t = some tokens) :
    ∃ kind inside, .tag kind inside ∈ groups tokens ∧ classify kind inside = .ok .complex := by
  obtain ⟨before, lead, rest, hbefore, hlead, rfl⟩ := hcalls
  rw [List.append_assoc, lexFrom_text hbefore.1] at hlex
  rcases hlead with rfl | rfl
  · obtain ⟨name, more, rfl⟩ := lexFrom_callStart hlex
    obtain ⟨others, hothers⟩ := exists_tag_mem_groupsFrom .expression
      [.ofText .name ('p' :: name), .ofText .variableBegin "\x7b\x7b".toList] more
    refine ⟨_, _, ?_, classify_call name others⟩
    rw [groups, groupsFrom_data mem_dataTokens]
    exact List.mem_append_right _ hothers
  · obtain ⟨name, more, rfl⟩ := lexFrom_brace_callStart hlex
    obtain ⟨others, hothers⟩ := exists_tag_mem_groupsFrom .expression
      [.ofText .name ('p' :: name), .ofText .operator "\x7b".toList,
        .ofText .variableBegin "\x7b\x7b".toList] more
    refine ⟨_, _, ?_, classify_brace_call name others⟩
    rw [groups, groupsFrom_data mem_dataTokens]
    exact List.mem_append_right _ hothers

/-- Line ends make no difference to where the call starts. -/
theorem CallsFirst.normalizeNewlines {t : Text} (hcalls : CallsFirst t) :
    CallsFirst (normalizeNewlines t) := by
  obtain ⟨before, lead, rest, hbefore, hlead, rfl⟩ := hcalls
  refine ⟨Text.normalizeNewlines before, lead, Text.normalizeNewlines rest, ?_, hlead, ?_⟩
  · exact ⟨fun hmem => hbefore.1 (mem_of_mem_normalizeNewlines hmem (by decide)),
      fun hmem => hbefore.2 (mem_of_mem_normalizeNewlines hmem (by decide))⟩
  · have hreturn : '\r' ∉ lead ++ callStart := by
      rcases hlead with rfl | rfl <;> decide
    have hhead : (lead ++ callStart ++ rest).head? ≠ some '\n' := by
      rcases hlead with rfl | rfl <;> exact fun h => absurd (Option.some.inj h) (by decide)
    rw [List.append_assoc, normalizeNewlines_append_of_head? before hhead,
      normalizeNewlines_append _ hreturn, ← List.append_assoc]

/-- The call is still there in what the reader is given. -/
theorem CallsFirst.source {t : Text} (hcalls : CallsFirst t) : CallsFirst (source t) := by
  unfold Template.source
  obtain ⟨before, lead, rest, hbefore, hlead, hlines⟩ := hcalls.normalizeNewlines
  simp only [hlines]
  split
  next hlast =>
    -- the call itself does not end with a line feed, so there is something after it
    have hrest : rest ≠ [] := by
      rintro rfl
      have hend : (lead ++ callStart).getLast? = some '_' := by
        rcases hlead with rfl | rfl <;> decide
      rw [List.append_nil, List.getLast?_append, hend, Option.some_or] at hlast
      exact absurd hlast (by decide)
    rw [List.dropLast_append_of_ne_nil hrest]
    exact ⟨before, lead, rest.dropLast, hbefore, hlead, rfl⟩
  next => exact ⟨before, lead, rest, hbefore, hlead, rfl⟩

/-- A template whose first braces open a call is left alone. -/
theorem not_isConvertible_of_callsFirst {template : Text} {found : List Region}
    (hcalls : CallsFirst template) (hregions : regions template = .ok found) :
    isConvertible found = false :=
  not_isConvertible_of_tag hregions fun _ hlex => hcalls.source.exists_tag hlex

end PortableSql.Template
