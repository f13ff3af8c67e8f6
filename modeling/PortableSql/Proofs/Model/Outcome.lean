import PortableSql.Proofs.Model.Insertion
import PortableSql.Proofs.Template.Reading

/-!
# When a model can be converted

An engine may fail to read a text, but what it reads can be written. Then a model can be converted
exactly if there is no numeral in its tags. A model that already calls a macro of the library is
left as it is. No carriage return comes into a model that has none.
-/

namespace PortableSql.Sql

/-- A node that can be written in every dialect. -/
structure Node.IsWritable (node : Node) : Prop where
  named : ∀ name, ∃ sql, node.render (.named name) = .ok sql
  unspecified : ∃ sql, node.render .unspecified = .ok sql

/-- An engine that can write whatever it reads. -/
def Engine.IsWriting (engine : Engine) : Prop :=
  ∀ sql dialect tree, engine.parse sql dialect = .ok (some tree) →
    ∀ node ∈ tree.walk, node.IsWritable

end PortableSql.Sql

namespace PortableSql.Model

open Sql Template Text

/-! ## Models with calls of macros -/

/-- The regions of a model that can be converted can be told. -/
theorem hasNumeral_of_convert {engine : Engine} {adapters : Value} {primary : Dialect}
    {model converted : Text} (hconvert : convert engine adapters primary model = .ok converted) :
    hasNumeral model = false := by
  rw [← regions_ok_iff]
  unfold convert at hconvert
  split at hconvert
  next hempty =>
    rw [List.isEmpty_iff.mp hempty]
    exact ⟨_, rfl⟩
  next =>
    obtain ⟨found, hfound, -⟩ := bind_eq_ok.mp hconvert
    exact ⟨found, hfound⟩

/-- A model that calls a macro of the library is left as it is, unless there is a numeral in its
tags. -/
theorem convert_of_opensCall {engine : Engine} {adapters : Value} {primary : Dialect} {model : Text}
    (hopens : opensCall model = true) (hnumeral : hasNumeral model = false) :
    convert engine adapters primary model = .ok model := by
  obtain ⟨found, hfound⟩ := (regions_ok_iff model).mpr hnumeral
  unfold convert
  split
  · rfl
  · refine bind_eq_ok.mpr ⟨found, hfound, ?_⟩
    rw [not_isConvertible_of_opensCall hopens hfound]
    rfl

/-! ## Success -/

section Writing

variable {engine : Engine} {names : List Text} {primary : Text}

/-- Whether dialects with names write a node differently can always be told. -/
theorem differsFrom_ok (seen : List Text) (node : Node) (names : List Text) :
    ∃ answer, differsFrom seen node (names.map .ofText) = .ok answer := by
  induction names generalizing seen with
  | nil => exact ⟨_, rfl⟩
  | cons name names ih =>
    rw [List.map_cons, differsFrom]
    cases hrender : node.render (.named (Dialect.canonicalName name)) with
    | ok sql =>
      obtain ⟨answer, hanswer⟩ := ih (sql :: seen)
      refine ⟨answer, bind_eq_ok.mpr ⟨.named (Dialect.canonicalName name), rfl, ?_⟩⟩
      simpa only [hrender] using hanswer
    | error fault =>
      refine ⟨true, bind_eq_ok.mpr ⟨.named (Dialect.canonicalName name), rfl, ?_⟩⟩
      simp only [hrender]
      rfl

/-- Whether a call is replaced can be told if it can be written. -/
theorem replacement?_ok {call : FoundCall} (hnode : call.node.IsWritable) :
    ∃ answer, replacement? (.list (names.map .ofText)) (.named primary) call = .ok answer := by
  obtain ⟨sql, hsql⟩ := hnode.named primary
  obtain ⟨plain, hplain⟩ := hnode.unspecified
  obtain ⟨different, hdifferent⟩ := differsFrom_ok [] call.node names
  have heligible : ∃ answer, isEligible call.name call.node = .ok answer :=
    ⟨_, bind_eq_ok.mpr ⟨plain, hplain, rfl⟩⟩
  have hdiffers : differs call.node (.list (names.map .ofText)) = .ok different := hdifferent
  obtain ⟨eligible, heligible⟩ := heligible
  unfold replacement?
  rw [heligible, hdiffers, hsql]
  cases eligible <;> cases different <;> exact ⟨_, rfl⟩

/-- The replacements for the SQL of a region can always be told. -/
theorem regionReplacements_ok (hengine : engine.IsWriting) (masked : Text) :
    ∃ found, regionReplacements engine (.list (names.map .ofText)) (.named primary) masked =
      .ok found := by
  unfold regionReplacements
  split
  next tree hparse =>
    have hnodes := hengine masked _ tree hparse
    have hfound : ∃ calls, findCalls tree (.named primary) = .ok calls := by
      rw [findCalls, bind_ok_iff]
      simp only [pure_eq_ok, exists_eq', and_true]
      refine mapM_ok_iff.mpr fun found hbelow => ?_
      have hwalk := (Node.mem_walk_of_mem_callsBelow hbelow).1
      obtain ⟨sql, hsql⟩ := (hnodes found.2 hwalk).named primary
      exact ⟨_, bind_eq_ok.mpr ⟨_, bind_eq_ok.mpr ⟨sql, hsql, rfl⟩, rfl⟩⟩
    obtain ⟨calls, hcalls⟩ := hfound
    have hanswers : ∃ answers,
        calls.mapM (replacement? (.list (names.map .ofText)) (.named primary)) = .ok answers :=
      mapM_ok_iff.mpr fun call hcall =>
        replacement?_ok (hnodes call.node (exists_node_of_mem_findCalls hcalls hcall).1)
    obtain ⟨answers, hanswers⟩ := hanswers
    exact ⟨_, bind_eq_ok.mpr ⟨calls, hcalls, bind_eq_ok.mpr ⟨answers, hanswers, rfl⟩⟩⟩
  next => exact ⟨[], rfl⟩

/-- The replacements that a model asks for can be told exactly if there is no numeral in its
tags. -/
theorem wanted_ok_iff (hengine : engine.IsWriting) (model : Text) :
    (∃ found, wanted engine (.list (names.map .ofText)) (.named primary) model = .ok found) ↔
      hasNumeral model = false := by
  rw [← regions_ok_iff]
  unfold wanted
  split
  next hempty =>
    rw [List.isEmpty_iff.mp hempty]
    exact iff_of_true ⟨[], rfl⟩ ⟨_, rfl⟩
  next =>
    constructor
    · rintro ⟨found, hfound⟩
      obtain ⟨regions, hregions, -⟩ := bind_eq_ok.mp hfound
      exact ⟨regions, hregions⟩
    · rintro ⟨regions, hregions⟩
      rw [hregions]
      change ∃ found, (if !isConvertible regions || (strip (maskedSql regions)).isEmpty then
        return [] else regionReplacements engine (.list (names.map .ofText)) (.named primary)
          (maskedSql regions)) = .ok found
      split
      · exact ⟨[], rfl⟩
      · exact regionReplacements_ok hengine _

/-- A model can be converted exactly if there is no numeral in its tags. -/
theorem convert_ok_iff (hengine : engine.IsWriting) (model : Text) :
    (∃ converted, convert engine (.list (names.map .ofText)) (.named primary) model =
      .ok converted) ↔ hasNumeral model = false := by
  rw [← wanted_ok_iff hengine, convert_eq]
  cases wanted engine (.list (names.map .ofText)) (.named primary) model <;> simp [Except.map]

end Writing

/-! ## Characters that stay out -/

/-- A character that case does not touch, and that neither names nor the marks of macro calls
have. -/
structure StaysOut (p : Char) : Prop where
  mark : isMark p = true
  lower : lowerChar p = p
  part : isNamePart p = false
  call : p ∉ callMarks

/-- Neither names nor macro calls have carriage returns. -/
theorem staysOut_return : StaysOut '\r' :=
  ⟨by decide, by decide +kernel, by decide, by decide⟩

/-- A character that case does not touch is there in lower case too. -/
theorem StaysOut.mem_lower {p : Char} (hp : StaysOut p) {t : Text} (hmem : p ∈ t) :
    p ∈ Text.lower t := by
  have hother {q : Char} (hq : isMark q = false) : p ≠ q := by
    rintro rfl
    rw [hp.mark] at hq
    cases hq
  exact mem_lower_of_mem hp.lower (hother (by decide)) (hother (by decide)) hmem

/-- Such a character is in a macro call only if it is in the call. -/
theorem StaysOut.not_mem_macroCall {p : Char} (hp : StaysOut p) {sql function : Text}
    (hname : functionName? sql = some function) (hsql : p ∉ sql) : p ∉ macroCall function sql := by
  obtain ⟨name, hparts, rfl, -⟩ := functionName?_eq_some hname
  intro hmem
  rcases mem_of_mem_macroCall hmem with hmem | hmem | hmem
  · exact hp.call hmem
  · have hpart := hparts p (mem_of_mem_upper hp.mark (mem_of_mem_lower hp.mark hmem))
    rw [hp.part] at hpart
    cases hpart
  · exact hsql hmem

/-- A call with such a character is not found in a text without it. -/
theorem StaysOut.not_mem_of_findSpelling? {p : Char} (hp : StaysOut p) {sql t : Text} (ht : p ∉ t)
    (hfound : (findSpelling? sql t).isSome = true) : p ∉ sql := by
  intro hmem
  unfold findSpelling? at hfound
  split at hfound
  next hincludes => exact ht ((includes_eq_true_iff.mp hincludes).subset hmem)
  next =>
    split at hfound
    next start hstart =>
      obtain ⟨before, after, hsplit, -⟩ := exists_split_of_indexOf? hstart
      refine ht (mem_of_mem_lower hp.mark (hsplit ▸ ?_))
      simp [hp.mem_lower hmem]
    next => cases hfound

/-- No such character comes into a model that has none, whatever the engine writes. -/
theorem StaysOut.not_mem_convert {p : Char} (hp : StaysOut p) {engine : Engine} {adapters : Value}
    {primary : Dialect} {model converted : Text} (hmodel : p ∉ model)
    (hconvert : convert engine adapters primary model = .ok converted) : p ∉ converted := by
  rw [convert_eq] at hconvert
  cases hwanted : wanted engine adapters primary model with
  | error fault =>
    rw [hwanted] at hconvert
    cases hconvert
  | ok found =>
    rw [hwanted] at hconvert
    obtain rfl := Except.ok.inj hconvert
    refine not_mem_replaceCalls hmodel fun replacement hmem t ht hfound => ?_
    rw [longestFirst, mem_sortBy] at hmem
    obtain ⟨-, _, hname, hcall⟩ := exists_function_of_mem_wanted hwanted hmem
    rw [hcall]
    exact hp.not_mem_macroCall hname (hp.not_mem_of_findSpelling? ht hfound)

/-- No carriage return comes into a model that has none. -/
theorem not_mem_convert {engine : Engine} {adapters : Value} {primary : Dialect}
    {model converted : Text} (hmodel : '\r' ∉ model)
    (hconvert : convert engine adapters primary model = .ok converted) : '\r' ∉ converted :=
  staysOut_return.not_mem_convert hmodel hconvert

end PortableSql.Model
