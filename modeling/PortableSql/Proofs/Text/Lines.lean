import PortableSql.Text.Basic

/-!
# Line ends

Texts are read with line feeds as line ends, whatever they were written with. A text without
carriage returns is read as it is, and nothing but line ends is changed in any other.
-/

namespace PortableSql.Text

/-- No carriage return is left in a text whose line ends are line feeds. -/
theorem not_mem_normalizeNewlines (t : Text) : '\r' ∉ normalizeNewlines t := by
  fun_induction normalizeNewlines t with
  | case1 rest ih => simpa using ih
  | case2 rest _ ih => simpa using ih
  | case3 c rest hpair hreturn ih =>
    rw [List.mem_cons, not_or]
    refine ⟨?_, ih⟩
    rintro rfl
    exact hreturn rfl
  | case4 => simp

/-- A front without carriage returns stays as it is. -/
theorem normalizeNewlines_append (before : Text) (hbefore : '\r' ∉ before) (rest : Text) :
    normalizeNewlines (before ++ rest) = before ++ normalizeNewlines rest := by
  induction before with
  | nil => rfl
  | cons c before ih =>
    rw [List.mem_cons, not_or] at hbefore
    rw [List.cons_append, normalizeNewlines.eq_3 _ _ (fun _ h => absurd h.symm hbefore.1)
      (fun h => absurd h.symm hbefore.1), ih hbefore.2, List.cons_append]

/-- A text without carriage returns has the line ends that it is read with. -/
theorem normalizeNewlines_eq_self {t : Text} (ht : '\r' ∉ t) : normalizeNewlines t = t := by
  have hwhole := normalizeNewlines_append t ht []
  simpa [normalizeNewlines] using hwhole

/-- A carriage return is a line end of its own, unless a line feed follows. -/
theorem normalizeNewlines_return (c : Char) (t : Text) :
    normalizeNewlines ('\r' :: c :: t) =
      if c = '\n' then normalizeNewlines (c :: t) else '\n' :: normalizeNewlines (c :: t) := by
  split
  next hfeed =>
    subst hfeed
    have hone := normalizeNewlines_append ['\n'] (by decide) t
    rw [normalizeNewlines.eq_1]
    exact hone.symm
  next hother => rw [normalizeNewlines.eq_2 _ fun u h => hother (List.cons.inj h).1]

/-- Line ends are changed part by part, unless a line feed might belong to the part before it. -/
theorem normalizeNewlines_append_of_head? (t : Text) {rest : Text}
    (hrest : rest.head? ≠ some '\n') :
    normalizeNewlines (t ++ rest) = normalizeNewlines t ++ normalizeNewlines rest := by
  fun_induction normalizeNewlines t with
  | case1 t ih => rw [List.cons_append, List.cons_append, normalizeNewlines, ih, List.cons_append]
  | case2 t hfeed ih =>
    have hnoFeed : ∀ u, t ++ rest = '\n' :: u → False := by
      intro u hu
      cases t with
      | nil =>
        refine hrest ?_
        rw [← List.nil_append rest, hu]
        rfl
      | cons c t => exact hfeed t (by rw [(List.cons.inj hu).1])
    rw [List.cons_append, normalizeNewlines.eq_2 _ hnoFeed, ih, List.cons_append]
  | case3 c t hpair hreturn ih =>
    rw [List.cons_append, normalizeNewlines.eq_3 _ _ (fun _ h _ => hreturn h) hreturn, ih,
      List.cons_append]
  | case4 => rfl

/-- Apart from line feeds, a text with one kind of line ends holds what the text holds. -/
theorem mem_of_mem_normalizeNewlines {t : Text} {c : Char} (hc : c ∈ normalizeNewlines t)
    (hfeed : c ≠ '\n') : c ∈ t := by
  fun_induction normalizeNewlines t with
  | case1 t ih => simp_all
  | case2 t _ ih => simp_all
  | case3 d t _ _ ih =>
    rcases List.mem_cons.mp hc with rfl | hc
    · exact List.mem_cons_self
    · exact List.mem_cons_of_mem _ (ih hc)
  | case4 => cases hc

/-- Characters other than those of line ends stay as many. -/
theorem count_normalizeNewlines {c : Char} (hfeed : c ≠ '\n') (hreturn : c ≠ '\r') (t : Text) :
    (normalizeNewlines t).count c = t.count c := by
  fun_induction normalizeNewlines t with
  | case1 t ih =>
    rw [List.count_cons_of_ne hfeed.symm, List.count_cons_of_ne hreturn.symm,
      List.count_cons_of_ne hfeed.symm, ih]
  | case2 t _ ih => rw [List.count_cons_of_ne hfeed.symm, List.count_cons_of_ne hreturn.symm, ih]
  | case3 d t _ _ ih => rw [List.count_cons, List.count_cons, ih]
  | case4 => rfl

/-- A text that is read in two parts was written in two parts: no line end is cut in two. -/
theorem exists_append_of_normalizeNewlines {t first second : Text}
    (hread : normalizeNewlines t = first ++ second) :
    ∃ before after, t = before ++ after ∧ normalizeNewlines before = first ∧
      normalizeNewlines after = second := by
  fun_induction normalizeNewlines t generalizing first with
  | case1 t ih =>
    cases first with
    | nil => exact ⟨[], '\r' :: '\n' :: t, rfl, rfl, by rw [normalizeNewlines.eq_1, hread]; rfl⟩
    | cons c first =>
      obtain ⟨rfl, hrest⟩ := List.cons.inj hread
      obtain ⟨before, after, rfl, rfl, rfl⟩ := ih hrest
      exact ⟨'\r' :: '\n' :: before, after, rfl, normalizeNewlines.eq_1 _, rfl⟩
  | case2 t hfeed ih =>
    cases first with
    | nil => exact ⟨[], '\r' :: t, rfl, rfl, by rw [normalizeNewlines.eq_2 _ hfeed, hread]; rfl⟩
    | cons c first =>
      obtain ⟨rfl, hrest⟩ := List.cons.inj hread
      obtain ⟨before, after, rfl, rfl, rfl⟩ := ih hrest
      refine ⟨'\r' :: before, after, rfl, normalizeNewlines.eq_2 _ fun u hu => ?_, rfl⟩
      exact hfeed (u ++ after) (by rw [hu]; rfl)
  | case3 c t hpair hreturn ih =>
    cases first with
    | nil =>
      exact ⟨[], c :: t, rfl, rfl, by rw [normalizeNewlines.eq_3 _ _ hpair hreturn, hread]; rfl⟩
    | cons d first =>
      obtain ⟨rfl, hrest⟩ := List.cons.inj hread
      obtain ⟨before, after, rfl, rfl, rfl⟩ := ih hrest
      exact ⟨c :: before, after, rfl,
        normalizeNewlines.eq_3 _ _ (fun _ h _ => hreturn h) hreturn, rfl⟩
  | case4 =>
    obtain ⟨rfl, rfl⟩ := List.append_eq_nil_iff.mp hread.symm
    exact ⟨[], [], rfl, rfl, rfl⟩

/-- A carriage return is read as a line feed. -/
theorem mem_normalizeNewlines_of_return {t : Text} (hreturn : '\r' ∈ t) :
    '\n' ∈ normalizeNewlines t := by
  fun_induction normalizeNewlines t with
  | case1 | case2 => exact List.mem_cons_self
  | case3 c t _ hother ih =>
    rcases List.mem_cons.mp hreturn with rfl | hreturn
    · exact absurd rfl hother
    · exact List.mem_cons_of_mem _ (ih hreturn)
  | case4 => cases hreturn

/-- What is read within one line stands so in the text. -/
theorem isInfix_of_normalizeNewlines {part t : Text} (hpart : part <:+: normalizeNewlines t)
    (hfeed : '\n' ∉ part) : part <:+: t := by
  obtain ⟨left, right, hread⟩ := hpart
  obtain ⟨front, after, rfl, hfront, -⟩ := exists_append_of_normalizeNewlines hread.symm
  obtain ⟨before, same, rfl, -, hsame⟩ := exists_append_of_normalizeNewlines hfront
  have hreturn : '\r' ∉ same := fun hreturn =>
    hfeed (hsame ▸ mem_normalizeNewlines_of_return hreturn)
  rw [← hsame, normalizeNewlines_eq_self hreturn]
  exact ⟨before, after, rfl⟩

/-- All other characters stay when a last line feed is dropped. -/
theorem mem_withoutFinalBreak {t : Text} {c : Char} (hc : c ∈ t) (hfeed : c ≠ '\n') :
    c ∈ withoutFinalBreak t := by
  unfold withoutFinalBreak
  split
  next hlast =>
    obtain ⟨rest, rfl⟩ := List.getLast?_eq_some_iff.mp (beq_iff_eq.mp hlast)
    rw [List.dropLast_concat]
    rcases List.mem_append.mp hc with hc | hc
    · exact hc
    · exact absurd (List.mem_singleton.mp hc) hfeed
  next => exact hc

/-- Without its final line end a text is a start of itself. -/
theorem withoutFinalBreak_isPrefix (t : Text) : withoutFinalBreak t <+: t := by
  unfold withoutFinalBreak
  split
  · exact List.dropLast_prefix t
  · exact List.prefix_refl t

end PortableSql.Text
