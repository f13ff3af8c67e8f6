import Mathlib.Logic.Relation
import PortableSql.Proofs.Model.Boundary
import PortableSql.Proofs.Model.Markup
import PortableSql.Proofs.Model.Outcome
import PortableSql.Proofs.Text.Lines

/-!
# What a conversion leaves of a text

`CallsReplaced` relates a text to what replacements make of it: some places of calls, none of them
overlapping, hold macro calls, and the text between the places is kept. A replacement is made
outside of the macro calls that are there already, so replacements one after the other stay within
the relation. Reading a text changes its line ends, between the places as well as in them.
-/

namespace PortableSql.Model

open Sql Text

/-- The calls that the engine reads in a model have no braces and the case of their characters. -/
def HasPlainCalls (engine : Engine) (dialect : Dialect) (model : Text) : Prop :=
  ∀ sql, HasCall engine dialect model sql → sql.IsBraceless ∧ sql.HasSimpleCase

/-- A model becomes another one when it is converted again and again. -/
def Becomes (engine : Engine) (adapters : Value) (primary : Dialect) : Text → Text → Prop :=
  Relation.ReflTransGen fun model converted =>
    convert engine adapters primary model = .ok converted

/-- A text made of another one: the macro calls of some calls in the place of spellings of them, and
what is kept of the text before, between and after them. -/
inductive CallsReplaced (calls : Replacement → Prop) (keep : Text → Text) : Text → Text → Prop
  /-- There are no more calls in the text. -/
  | rest (t : Text) : CallsReplaced calls keep t (keep t)
  /-- The next call stands after some text. -/
  | call {before piece old new : Text} {entry : Replacement} (hcall : calls entry)
      (hspells : lower (keep piece) = lower entry.sql) (hrest : CallsReplaced calls keep old new) :
      CallsReplaced calls keep (before ++ piece ++ old) (keep before ++ entry.macroCall ++ new)

/-- Calls of one kind are calls of a wider one. -/
theorem CallsReplaced.mono {calls wider : Replacement → Prop} {keep : Text → Text} {old new : Text}
    (hreplaced : CallsReplaced calls keep old new) (hwider : ∀ entry, calls entry → wider entry) :
    CallsReplaced wider keep old new := by
  induction hreplaced with
  | rest t => exact .rest t
  | call hcall hspells _ ih => exact .call (hwider _ hcall) hspells ih

/-! ## Replacements -/

/-- The macro call for a call without braces is a tag without braces inside. -/
theorem exists_tagged_eq_macroCall {sql function : Text} (hsql : sql.IsBraceless)
    (hname : functionName? sql = some function) :
    ∃ inside : Text, inside.IsBraceless ∧ macroCall function sql = tagged inside := by
  obtain ⟨argument, hshape, hargument⟩ := exists_macroCall_eq function sql
  obtain ⟨name, hparts, rfl, -⟩ := functionName?_eq_some hname
  have hargs : argument.IsBraceless := by
    rcases hargument with rfl | ⟨args, hargs, rfl⟩
    · decide
    · have hpassed : (strip args).IsBraceless :=
        hsql.of_subset fun c hc => arguments?_subset hargs (mem_of_mem_strip hc)
      have hout {p : Char} (hquote : p ∉ ['\x27']) (hmissing : p ∉ strip args) :
          p ∉ macroArgument (strip args) :=
        fun hmem => (mem_of_mem_macroArgument hmem).elim hquote hmissing
      exact ⟨hout (by decide) hpassed.1, hout (by decide) hpassed.2⟩
  have hportable : (macroName (upper name)).IsBraceless := by
    have hout {p : Char} (hp : isMark p = true) (hpart : isNamePart p = false)
        (hliteral : p ∉ "portable_".toList) : p ∉ macroName (upper name) := by
      refine not_mem_macroName hp hliteral fun hmem => ?_
      have hhere := hparts p (mem_of_mem_upper hp hmem)
      rw [hpart] at hhere
      cases hhere
    exact ⟨hout (by decide) (by decide) (by decide), hout (by decide) (by decide) (by decide)⟩
  have hparen : IsBraceless [' '] ∧ IsBraceless ['('] ∧ IsBraceless [')', ' '] := by decide
  refine ⟨[' '] ++ (macroName (upper name) ++ (['('] ++ (argument ++ [')', ' ']))), ?_, ?_⟩
  · exact hparen.1.append (hportable.append (hparen.2.1.append (hargs.append hparen.2.2)))
  · rw [hshape]
    simp [tagged]

/-- The replacements that a model with plain calls asks for are plain. -/
theorem isPlain_of_mem_wanted {engine : Engine} {adapters : Value} {primary : Dialect}
    {model : Text} {found : List Replacement} (hmodel : HasPlainCalls engine primary model)
    (hwanted : wanted engine adapters primary model = .ok found) {entry : Replacement}
    (hmem : entry ∈ found) : entry.IsPlain := by
  obtain ⟨hhas, function, hname, hcall⟩ := exists_function_of_mem_wanted hwanted hmem
  obtain ⟨hbraceless, hcase⟩ := hmodel _ hhas
  refine ⟨?_, hbraceless, ?_, hcase, ?_⟩
  · intro hempty
    rw [hempty] at hname
    cases hname
  · rw [hcall]
    exact exists_tagged_eq_macroCall hbraceless hname
  · rw [hcall]
    exact hasSimpleCase_macroCall hcase function

section Runs

variable {calls : Replacement → Prop} (hplain : ∀ entry, calls entry → entry.IsPlain)

include hplain

/-- One more call is replaced outside of the tags of a text in which calls are replaced. -/
theorem CallsReplaced.insert {old new before piece after : Text} {entry : Replacement}
    (hreplaced : CallsReplaced calls id old new) (hcall : calls entry)
    (hsplit : new = before ++ piece ++ after) (hbraceless : piece.IsBraceless) (hne : piece ≠ [])
    (hspells : lower piece = lower entry.sql)
    (houtside : ∀ front inside, before = front ++ '\x7b' :: '\x7b' :: inside →
      ¬IsBraceless inside) :
    CallsReplaced calls id old (before ++ entry.macroCall ++ after) := by
  induction hreplaced generalizing before with
  | rest t =>
    rw [show t = before ++ piece ++ after from hsplit]
    exact .call hcall hspells (.rest after)
  | @call first place late last made hmade hplace hrest ih =>
    obtain ⟨inside, hinside, htag⟩ := (hplain made hmade).call
    rw [id, htag] at hsplit
    rcases split_around_tag hbraceless hsplit
      with ⟨more, rfl, rfl⟩ | ⟨start, more, rfl, hwithin⟩ | ⟨more, rfl, rfl⟩
    · -- The new call stands before the first one that is replaced already.
      have hthen : CallsReplaced calls id (more ++ place ++ late)
          (more ++ made.macroCall ++ last) := .call hmade hplace hrest
      have hboth : CallsReplaced calls id (before ++ piece ++ (more ++ place ++ late))
          (before ++ entry.macroCall ++ (more ++ made.macroCall ++ last)) :=
        .call hcall hspells hthen
      rw [htag] at hboth
      simpa using hboth
    · -- It is not in the macro call, since the tag would be open before it.
      obtain ⟨front, rest, rfl, rfl⟩ := split_tagged hbraceless hne hwithin
      exact absurd (hinside.of_subset fun c hc => by simp [hc]) (houtside first front rfl)
    · -- It stands after the first one, and what is before it there is no open tag either.
      have hlater := ih rfl fun front inner hfront =>
        houtside (first ++ tagged inside ++ front) inner (by simp [hfront])
      have hboth : CallsReplaced calls id (first ++ place ++ late)
          (first ++ made.macroCall ++ (more ++ entry.macroCall ++ after)) :=
        .call hmade hplace hlater
      rw [htag] at hboth
      simpa using hboth

/-- What holds of a text while calls are replaced in it. -/
structure Converts (calls : Replacement → Prop) (old new : Text) : Prop where
  replaced : CallsReplaced calls id old new
  simpleCase : new.HasSimpleCase
  orderly : new.IsOrderly

/-- One replacement keeps to the calls. -/
theorem Converts.replaceCall {old new : Text} {entry : Replacement}
    (hconverts : Converts calls old new) (hcall : calls entry) :
    Converts calls old (Model.replaceCall new entry) := by
  have hentry := hplain entry hcall
  rcases replaceCall_cases hentry.sqlCase hconverts.simpleCase
    with ⟨-, hsame⟩ | ⟨-, before, piece, after, rfl, hne, hspells, houtside, hmade⟩
  · rwa [hsame]
  · obtain ⟨hreplaced, hcase, horderly⟩ := hconverts
    have hpiece : piece.HasSimpleCase := hcase.of_subset fun c hc => by simp [hc]
    have hbraceless := hentry.spelling hpiece hspells
    have hmadeCase := hasSimpleCase_replaceCall hcase hentry.callCase
    obtain ⟨inside, hinside, htag⟩ := hentry.call
    refine ⟨?_, hmadeCase, ?_⟩
    · rw [hmade]
      refine hreplaced.insert hplain hcall rfl hbraceless hne hspells ?_
      rintro front inner rfl hinner
      have hopen : endsInTag (front ++ '\x7b' :: '\x7b' :: inner) = true :=
        endsInTag_of_isOrderly (by simpa using horderly) hinner
      rw [hopen] at houtside
      cases houtside
    · rw [hmade, htag]
      exact horderly.insert hbraceless hne hinside

/-- Replacements one after the other keep to the calls. -/
theorem Converts.replaceCalls {old new : Text} {entries : List Replacement}
    (hconverts : Converts calls old new) (hcalls : ∀ entry ∈ entries, calls entry) :
    Converts calls old (Model.replaceCalls new entries) := by
  induction entries generalizing new with
  | nil => exact hconverts
  | cons entry entries ih =>
    obtain ⟨hcall, hcalls⟩ := List.forall_mem_cons.mp hcalls
    exact ih (hconverts.replaceCall hplain hcall) hcalls

end Runs

/-- A plain replacement of a call that the engine reads. -/
def Replacement.StemsPlainly (entry : Replacement) (engine : Engine) (primary : Dialect) : Prop :=
  entry.StemsFrom engine primary ∧ entry.IsPlain

/-- Converting a model with plain calls keeps to the calls that the engine reads. -/
theorem Converts.convert {engine : Engine} {adapters : Value} {primary : Dialect}
    {old new converted : Text} (hplain : HasPlainCalls engine primary new)
    (hconverts : Converts (·.StemsPlainly engine primary) old new)
    (hconvert : Model.convert engine adapters primary new = .ok converted) :
    Converts (·.StemsPlainly engine primary) old converted := by
  rw [convert_eq] at hconvert
  cases hwanted : wanted engine adapters primary new with
  | error fault =>
    rw [hwanted] at hconvert
    cases hconvert
  | ok found =>
    rw [hwanted] at hconvert
    obtain rfl := Except.ok.inj hconvert
    refine hconverts.replaceCalls (fun entry hentry => hentry.2) fun entry hmem => ?_
    rw [longestFirst, mem_sortBy] at hmem
    exact ⟨stemsFrom_of_mem_wanted hwanted hmem, isPlain_of_mem_wanted hplain hwanted hmem⟩

/-! ## Line ends -/

section LineEnds

variable {calls : Replacement → Prop}

/-- What is made of a text as it is read is made of the text with its line ends changed. -/
theorem CallsReplaced.of_read {t old new : Text} (hreplaced : CallsReplaced calls id old new)
    (hread : normalizeNewlines t = old) : CallsReplaced calls normalizeNewlines t new := by
  induction hreplaced generalizing t with
  | rest old =>
    rw [id, ← hread]
    exact .rest t
  | call hcall hspells hrest ih =>
    obtain ⟨front, late, rfl, hfront, hlate⟩ := exists_append_of_normalizeNewlines hread
    obtain ⟨before, piece, rfl, rfl, rfl⟩ := exists_append_of_normalizeNewlines hfront
    exact .call hcall hspells (ih hlate)

/-- A character that stays out of calls is kept with the rest of the text. -/
theorem CallsReplaced.mem_of_mem {p : Char} (hp : StaysOut p) {old new : Text}
    (hcalls : ∀ entry, calls entry → p ∉ entry.sql) (hreplaced : CallsReplaced calls id old new)
    (hmem : p ∈ old) : p ∈ new := by
  induction hreplaced with
  | rest => exact hmem
  | call hcall hspells hrest ih =>
    rw [List.mem_append, List.mem_append] at hmem ⊢
    rcases hmem with (hmem | hmem) | hmem
    · exact .inl (.inl hmem)
    · refine absurd (mem_of_mem_lower hp.mark (hspells ▸ ?_)) (hcalls _ hcall)
      exact hp.mem_lower hmem
    · exact .inr (ih hmem)

end LineEnds

end PortableSql.Model
