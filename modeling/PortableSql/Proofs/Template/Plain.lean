import PortableSql.Proofs.Template.Tags
import PortableSql.Proofs.Text.Lines
import PortableSql.Proofs.Text.Search

/-!
# Templates without tags

Two characters open a tag, a comment or a raw block: a brace and one of three characters after it.
Where none of these pairs stands, the reader stays in text, whatever other braces, percent signs and
hash signs there are. So plain SQL is one piece of text, and is given to the engine as it is, but
for a line feed at its very end.
-/

namespace PortableSql.Template

open Text

/-- No tag, comment or raw block opens in a text. -/
def HasNoOpening (t : Text) : Prop :=
  ∀ opening ∈ ["\x7b\x7b", "\x7b%", "\x7b#"], ¬opening.toList <:+: t

/-- A part of a text without openings has none. -/
theorem HasNoOpening.of_isInfix {part t : Text} (ht : HasNoOpening t) (hpart : part <:+: t) :
    HasNoOpening part :=
  fun opening hopening hwritten => ht opening hopening (hwritten.trans hpart)

/-- Nothing opens at the start of such a text. -/
theorem HasNoOpening.opening?_eq_none {t : Text} (ht : HasNoOpening t) (pending : Text) :
    opening? pending t = none := by
  have hnone {delimiter : String} (hdelimiter : delimiter ∈ ["\x7b\x7b", "\x7b%", "\x7b#"]) :
      signed? delimiter t = none := by
    have hstart : delimiter.toList.isPrefixOf t = false := by
      rw [← Bool.not_eq_true, List.isPrefixOf_iff_prefix]
      exact fun hstart => ht delimiter hdelimiter hstart.isInfix
    simp [signed?, literal?, hstart]
  have hexpression := hnone (List.mem_cons_self ..)
  have hstatement : signed? "\x7b%" t = none := hnone (by simp)
  have hcomment : signed? "\x7b#" t = none := hnone (by simp)
  -- A raw block starts like a statement.
  have hraw : rawBegin? t = none := by simp [rawBegin?, keywordTag?, hstatement]
  simp [opening?, hraw, hexpression, hstatement, hcomment]

/-- Such a text is put aside to its end. -/
theorem HasNoOpening.lexFrom_eq {t : Text} (ht : HasNoOpening t) (pending : Text) :
    lexFrom 0 (.text pending) t = some (dataTokens (t.reverse ++ pending) none) := by
  induction t generalizing pending with
  | nil => rfl
  | cons c t ih =>
    have hstep : step? (.text pending) c t = some ⟨[], 1, .text (c :: pending)⟩ := by
      rw [step?, ht.opening?_eq_none]
      rfl
    have hrest := ih (ht.of_isInfix (List.suffix_cons c t).isInfix) (c :: pending)
    rw [lexFrom, hstep]
    simpa using hrest

/-- A template without tags is one piece of text. -/
theorem regions_of_hasNoOpening {template : Text} (hplain : HasNoOpening (source template))
    (hne : source template ≠ []) : regions template =
      .ok [⟨0, (source template).length, .static, .text (source template)⟩] := by
  have hlex : lex? template = some [.ofText .data (source template)] := by
    rw [lex?, hplain.lexFrom_eq]
    simp [dataTokens, hne]
  have hfound : regionsOfTokens [.ofText .data (source template)] =
      .ok [⟨0, 0 + (source template).length, .static, .text (source template)⟩] := rfl
  rw [regions, hlex, Nat.zero_add] at *
  simp only [hfound]
  rfl

/-- Without carriage returns a template is read as it is, but for its last line feed. -/
theorem source_eq_withoutFinalBreak {template : Text} (hreturn : '\r' ∉ template) :
    source template = withoutFinalBreak template := by
  rw [source, normalizeNewlines_eq_self hreturn]
  rfl

/-- SQL without carriage returns and without tags, unless it is blank, is one piece of text and may
be changed. The only part of it that is read as SQL is the whole of it, and what is read is the SQL
as it is, without its last line feed if it ends with one. -/
theorem plain_sql_is_read_as_it_is {sql : Text} (hreturn : '\r' ∉ sql) (hplain : HasNoOpening sql)
    (hvisible : ∃ c ∈ sql, isBlank c = false) :
    ∃ region, regions sql = .ok [region] ∧ region.kind = .static ∧
      isConvertible [region] = true ∧
      sqlRegions sql [region] = [⟨0, sql.length, withoutFinalBreak sql⟩] := by
  obtain ⟨c, hc, hblank⟩ := hvisible
  have hfeed : c ≠ '\n' := by
    rintro rfl
    cases hblank
  have hsource := source_eq_withoutFinalBreak hreturn
  have hkept := mem_withoutFinalBreak hc hfeed
  refine ⟨_, regions_of_hasNoOpening ?_ ?_, rfl, rfl, ?_⟩
  · rw [hsource]
    exact hplain.of_isInfix (withoutFinalBreak_isPrefix sql).isInfix
  · rw [hsource]
    exact List.ne_nil_of_mem hkept
  · have hmasked : maskedSql [⟨0, (source sql).length, .static, .text (source sql)⟩] =
        withoutFinalBreak sql := by
      rw [hsource]
      exact List.append_nil _
    have hstrip := strip_ne_nil hkept hblank
    simp [sqlRegions, hmasked, hstrip]

/-- Braces apart, closing delimiters, percent and hash signs, and two line feeds at the end. -/
theorem plain_sql_is_read_as_it_is_braces :
    let sql := "SELECT '\x7b \x7b\n%\x7d \x7d\x7d #\x7d \x7b-' # \x7b\n\n".toList
    '\r' ∉ sql ∧ HasNoOpening sql ∧ ∃ region, regions sql = .ok [region] ∧
      sqlRegions sql [region] =
        [⟨0, 30, "SELECT '\x7b \x7b\n%\x7d \x7d\x7d #\x7d \x7b-' # \x7b\n".toList⟩] := by
  intro sql
  have hreturn : '\r' ∉ sql := by decide
  have hplain : HasNoOpening sql := by
    unfold HasNoOpening
    decide
  obtain ⟨region, hregions, -, -, hsql⟩ :=
    plain_sql_is_read_as_it_is hreturn hplain ⟨'S', by decide, by decide⟩
  exact ⟨hreturn, hplain, region, hregions, hsql⟩

end PortableSql.Template
