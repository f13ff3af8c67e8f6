import PortableSql.Model.Replacement
import PortableSql.Proofs.Computation
import PortableSql.Proofs.Model.Call
import PortableSql.Proofs.Sorting
import PortableSql.Proofs.Sql.Traversal

/-!
# The macro calls that are put into a model

Converting a model makes replacements one after the other. Each of them that is made puts a macro
call into the text, and the text changes only if one is made. All of these macro calls stem from
function calls that the engine reads in the model.
-/

namespace PortableSql.Model

open Sql Template

/-! ## What is put in -/

/-- Whether a replacement is made in a region. -/
def applies (region : Text) (replacement : Replacement) : Bool :=
  match findSpelling? replacement.sql region with
  | none => false
  | some spelling => !(spelling.isEmpty || isInsideTag spelling region)

/-- The replacements that are made in a region, of those that are tried one after the other. -/
def applied (region : Text) : List Replacement → List Replacement
  | [] => []
  | replacement :: rest =>
    (if applies region replacement then [replacement] else []) ++
      applied (replaceCall region replacement) rest

/-- The macro calls that are put into one region of a draft. -/
def regionInsertions (engine : Engine) (adapters : Value) (primary : Dialect) (draft : Draft)
    (region : SqlRegion) : List Text :=
  match regionReplacements engine adapters primary region.masked with
  | .error _ => []
  | .ok found =>
    let before :=
      Text.slice draft.content (region.start + draft.offset) (region.stop + draft.offset)
    if replaceCalls before (longestFirst found) == before then []
    else (applied before (longestFirst found)).map (·.macroCall)

/-- The macro calls that are put into the regions of a draft. -/
def draftInsertions (engine : Engine) (adapters : Value) (primary : Dialect) :
    Draft → List SqlRegion → List Text
  | _, [] => []
  | draft, region :: rest =>
    regionInsertions engine adapters primary draft region ++
      match convertRegion engine adapters primary draft region with
      | .error _ => []
      | .ok next => draftInsertions engine adapters primary next rest

/-- The macro calls that converting a model puts into it. -/
def insertions (engine : Engine) (adapters : Value) (primary : Dialect) (model : Text) :
    List Text :=
  match Template.regions model with
  | .error _ => []
  | .ok regions =>
    if isConvertible regions then
      draftInsertions engine adapters primary ⟨model, 0⟩ (sqlRegions model regions)
    else []

/-! ## Changes -/

/-- A text stays as it is if no replacement is made. -/
theorem replaceCalls_of_applied_nil {region : Text} {replacements : List Replacement}
    (hnone : applied region replacements = []) : replaceCalls region replacements = region := by
  induction replacements generalizing region with
  | nil => rfl
  | cons replacement rest ih =>
    simp only [applied, List.append_eq_nil_iff, ite_eq_right_iff, List.cons_ne_nil, imp_false,
      Bool.not_eq_true] at hnone
    have hkept : replaceCall region replacement = region := by
      have hnot := hnone.1
      unfold applies at hnot
      unfold replaceCall
      cases hspelling : findSpelling? replacement.sql region with
      | none => rfl
      | some spelling =>
        simp only [hspelling, Bool.not_eq_false'] at hnot
        simp only [hnot, if_true]
    rw [replaceCalls, List.foldl_cons, hkept]
    exact ih (hkept ▸ hnone.2)

/-- A replacement brings in nothing but its macro call, and only where a spelling of the call is
found. -/
theorem mem_of_mem_replaceCall {region : Text} {replacement : Replacement} {c : Char}
    (hmem : c ∈ replaceCall region replacement) :
    c ∈ region ∨
      c ∈ replacement.macroCall ∧ (findSpelling? replacement.sql region).isSome = true := by
  unfold replaceCall at hmem
  split at hmem
  · exact .inl hmem
  next spelling hfound =>
    split at hmem
    · exact .inl hmem
    · unfold Text.replaceFirst at hmem
      split at hmem
      · exact .inl hmem
      · rw [List.mem_append, List.mem_append] at hmem
        rcases hmem with (hmem | hmem) | hmem
        · exact .inl (List.mem_of_mem_take hmem)
        · exact .inr ⟨hmem, by rw [hfound]; rfl⟩
        · exact .inl (List.mem_of_mem_drop hmem)

/-- A character that is not in a text is not brought in by replacements whose macro calls lack it
wherever a spelling of the call is found in a text without it. -/
theorem not_mem_replaceCalls {region : Text} {replacements : List Replacement} {c : Char}
    (hregion : c ∉ region) (hcalls : ∀ replacement ∈ replacements, ∀ t, c ∉ t →
      (findSpelling? replacement.sql t).isSome = true → c ∉ replacement.macroCall) :
    c ∉ replaceCalls region replacements := by
  induction replacements generalizing region with
  | nil => exact hregion
  | cons replacement replacements ih =>
    obtain ⟨hfirst, hrest⟩ := List.forall_mem_cons.mp hcalls
    refine ih (fun hmem => ?_) hrest
    rcases mem_of_mem_replaceCall hmem with hmem | ⟨hmem, hfound⟩
    · exact hregion hmem
    · exact hfirst region hregion hfound hmem

section Converting

variable {engine : Engine} {adapters : Value} {primary : Dialect}

/-- A draft stays as it is if no macro call is put into the region. -/
theorem convertRegion_of_insertions_nil {draft next : Draft} {region : SqlRegion}
    (hnone : regionInsertions engine adapters primary draft region = [])
    (hnext : convertRegion engine adapters primary draft region = .ok next) : next = draft := by
  simp only [convertRegion, bind_eq_ok] at hnext
  obtain ⟨found, hfound, hnext⟩ := hnext
  simp only [regionInsertions, hfound] at hnone
  split at hnext
  · exact (pure_eq_ok.mp hnext).symm
  · split at hnext
    · exact (pure_eq_ok.mp hnext).symm
    next hchanged =>
      rw [if_neg hchanged, List.map_eq_nil_iff] at hnone
      exact absurd (beq_iff_eq.mpr (replaceCalls_of_applied_nil hnone)) hchanged

/-- A draft stays as it is if no macro call is put into its regions. -/
theorem foldlM_of_draftInsertions_nil {draft last : Draft} {regions : List SqlRegion}
    (hnone : draftInsertions engine adapters primary draft regions = [])
    (hlast : regions.foldlM (convertRegion engine adapters primary) draft = .ok last) :
    last = draft := by
  induction regions generalizing draft with
  | nil => exact (pure_eq_ok.mp hlast).symm
  | cons region rest ih =>
    rw [List.foldlM_cons, bind_eq_ok] at hlast
    obtain ⟨next, hnext, hlast⟩ := hlast
    simp only [draftInsertions, hnext, List.append_eq_nil_iff] at hnone
    obtain rfl := convertRegion_of_insertions_nil hnone.1 hnext
    exact ih hnone.2 hlast

/-- A model stays as it is if no macro call is put into it. -/
theorem convert_of_insertions_nil {model converted : Text}
    (hnone : insertions engine adapters primary model = [])
    (hconvert : convert engine adapters primary model = .ok converted) : converted = model := by
  simp only [convert] at hconvert
  split at hconvert
  · exact (pure_eq_ok.mp hconvert).symm
  · simp only [bind_eq_ok] at hconvert
    obtain ⟨regions, hregions, hconvert⟩ := hconvert
    simp only [insertions, hregions] at hnone
    split at hconvert
    · exact (pure_eq_ok.mp hconvert).symm
    next hconvertible =>
      simp only [Bool.not_eq_true', Bool.not_eq_false] at hconvertible
      rw [if_pos hconvertible] at hnone
      rw [bind_eq_ok] at hconvert
      obtain ⟨last, hlast, hcontent⟩ := hconvert
      rw [← pure_eq_ok.mp hcontent, foldlM_of_draftInsertions_nil hnone hlast]

/-- The replacements that a model asks for. There are none if it has complex tags or no content. -/
def wanted (engine : Engine) (adapters : Value) (primary : Dialect) (model : Text) :
    Except Fault (List Replacement) := do
  if model.isEmpty then return []
  let regions ← Template.regions model
  if !isConvertible regions || (Text.strip (maskedSql regions)).isEmpty then return []
  regionReplacements engine adapters primary (maskedSql regions)

/-- A region that is the whole of a draft becomes the draft with the region's replacements. -/
theorem content_convertRegion (model masked : Text) :
    (convertRegion engine adapters primary ⟨model, 0⟩ ⟨0, model.length, masked⟩).map (·.content) =
      (regionReplacements engine adapters primary masked).map fun found =>
        replaceCalls model (longestFirst found) := by
  have hfirst : Text.position model 0 = 0 := by simp [Text.position]
  have hlast : Text.position model model.length = model.length := by simp [Text.position]
  have hslice : Text.slice model 0 model.length = model := by
    rw [Text.slice, hfirst, hlast, List.take_length, List.drop_zero]
  unfold convertRegion
  cases regionReplacements engine adapters primary masked with
  | error fault => rfl
  | ok found =>
    simp only [bind, Except.bind, pure, Except.pure, Int.add_zero, hslice, hfirst, hlast,
      List.take_zero, List.drop_length, List.nil_append, List.append_nil]
    split
    next hempty =>
      rw [List.isEmpty_iff.mp hempty]
      rfl
    next =>
      split
      next hsame => exact congrArg Except.ok (beq_iff_eq.mp hsame).symm
      next => rfl

/-- Converting a model makes the replacements that it asks for, the longest calls first. -/
theorem convert_eq (engine : Engine) (adapters : Value) (primary : Dialect) (model : Text) :
    convert engine adapters primary model =
      (wanted engine adapters primary model).map fun found =>
        replaceCalls model (longestFirst found) := by
  unfold convert wanted
  split
  · rfl
  · cases Template.regions model with
    | error fault => rfl
    | ok regions =>
      cases hcomplex : !isConvertible regions with
      | true =>
        simp only [bind, Except.bind, hcomplex, Bool.true_or, if_true]
        rfl
      | false =>
        cases hblank : (Text.strip (maskedSql regions)).isEmpty with
        | true =>
          simp only [bind, Except.bind, sqlRegions, hcomplex, hblank, Bool.or_true, if_true,
            Bool.false_eq_true, if_false, List.foldlM_nil]
          rfl
        | false =>
          simp only [bind, Except.bind, sqlRegions, hcomplex, hblank, Bool.or_self,
            Bool.false_eq_true, if_false, List.foldlM_cons, List.foldlM_nil]
          rw [← content_convertRegion]
          cases convertRegion engine adapters primary ⟨model, 0⟩ ⟨0, model.length, _⟩ <;> rfl

/-! ## Where macro calls come from -/

/-- The engine reads a function call in a model, and writes it so. -/
def HasCall (engine : Engine) (dialect : Dialect) (model sql : Text) : Prop :=
  ∃ regions tree node, Template.regions model = .ok regions ∧
    Text.strip (maskedSql regions) ≠ [] ∧
    engine.parse (maskedSql regions) dialect = .ok (some tree) ∧
    node ∈ tree.walk ∧ node.isCall = true ∧ node.render dialect = .ok sql

/-- The replacements that are made are some of those that are tried, in the same order. -/
theorem applied_sublist (region : Text) (replacements : List Replacement) :
    (applied region replacements).Sublist replacements := by
  induction replacements generalizing region with
  | nil => exact .slnil
  | cons replacement replacements ih =>
    rw [applied]
    split
    · exact (ih _).cons_cons replacement
    · exact (ih _).cons replacement

/-- A call that is found is one of the tree, named after its text. -/
theorem exists_node_of_mem_findCalls {tree : Node} {calls : List FoundCall}
    (hcalls : findCalls tree primary = .ok calls) {call : FoundCall} (hmem : call ∈ calls) :
    call.node ∈ tree.walk ∧ call.node.isCall = true ∧
      ∃ sql, call.node.render primary = .ok sql ∧ functionName? sql = some call.name := by
  simp only [findCalls, bind_eq_ok, pure_eq_ok] at hcalls
  obtain ⟨found, hfound, rfl⟩ := hcalls
  obtain ⟨item, hitem, rfl⟩ := List.mem_filterMap.mp hmem
  obtain ⟨⟨depth, node⟩, hbelow, hnamed⟩ := exists_item_of_mapM hfound hitem
  simp only [bind_eq_ok, pure_eq_ok, nodeName?] at hnamed
  obtain ⟨name, ⟨sql, hrender, hname⟩, hcall⟩ := hnamed
  obtain ⟨function, rfl, rfl⟩ := Option.map_eq_some_iff.mp hcall
  obtain ⟨hnode, hisCall⟩ := Node.mem_walk_of_mem_callsBelow hbelow
  exact ⟨hnode, hisCall, sql, hrender, hname⟩

/-- A replacement puts the macro call for the text of the call in its place. -/
theorem replacement?_eq_some {call : FoundCall} {sql : Text} {replacement : Replacement}
    (hrender : call.node.render primary = .ok sql)
    (hreplacement : replacement? adapters primary call = .ok (some replacement)) :
    replacement = ⟨call.depth, sql, macroCall call.name sql⟩ := by
  simp only [replacement?, bind_eq_ok] at hreplacement
  obtain ⟨eligible, -, hreplacement⟩ := hreplacement
  split at hreplacement
  · simp only [bind_eq_ok] at hreplacement
    obtain ⟨different, -, hreplacement⟩ := hreplacement
    split at hreplacement
    · simp only [hrender, bind_eq_ok, Except.ok.injEq, exists_eq_left', pure_eq_ok,
        Option.some.injEq] at hreplacement
      exact hreplacement.symm
    · cases pure_eq_ok.mp hreplacement
  · cases pure_eq_ok.mp hreplacement

/-- A replacement is that of a call which the engine reads and whose name can be told. -/
theorem exists_call_of_mem_regionReplacements {masked : Text} {found : List Replacement}
    (hfound : regionReplacements engine adapters primary masked = .ok found)
    {replacement : Replacement} (hmem : replacement ∈ found) :
    ∃ tree node sql function, engine.parse masked primary = .ok (some tree) ∧
      node ∈ tree.walk ∧ node.isCall = true ∧ node.render primary = .ok sql ∧
      functionName? sql = some function ∧ replacement.sql = sql ∧
      replacement.macroCall = macroCall function sql := by
  simp only [regionReplacements] at hfound
  split at hfound
  next tree hparse =>
    simp only [replacements, bind_eq_ok, pure_eq_ok] at hfound
    obtain ⟨calls, hcalls, answers, hanswers, rfl⟩ := hfound
    obtain ⟨answer, hanswer, rfl⟩ := List.mem_filterMap.mp hmem
    obtain ⟨call, hcall, hreplacement⟩ := exists_item_of_mapM hanswers hanswer
    obtain ⟨hnode, hisCall, sql, hrender, hname⟩ := exists_node_of_mem_findCalls hcalls hcall
    obtain rfl := replacement?_eq_some hrender hreplacement
    exact ⟨tree, call.node, sql, call.name, hparse, hnode, hisCall, hrender, hname, rfl, rfl⟩
  next => cases Except.ok.inj hfound; cases hmem

/-- A replacement of a call that the engine reads in some text by the macro call for it. -/
def Replacement.StemsFrom (entry : Replacement) (engine : Engine) (primary : Dialect) : Prop :=
  ∃ masked tree node function, engine.parse masked primary = .ok (some tree) ∧
    node ∈ tree.walk ∧ node.isCall = true ∧ node.render primary = .ok entry.sql ∧
    functionName? entry.sql = some function ∧ entry.macroCall = Model.macroCall function entry.sql

/-- A replacement that a model asks for puts the macro call for a call of the model in its place. -/
theorem exists_function_of_mem_wanted {model : Text} {found : List Replacement}
    (hwanted : wanted engine adapters primary model = .ok found) {replacement : Replacement}
    (hmem : replacement ∈ found) :
    HasCall engine primary model replacement.sql ∧ ∃ function,
      functionName? replacement.sql = some function ∧
      replacement.macroCall = macroCall function replacement.sql := by
  unfold wanted at hwanted
  split at hwanted
  · obtain rfl := pure_eq_ok.mp hwanted
    cases hmem
  · obtain ⟨regions, hregions, hwanted⟩ := bind_eq_ok.mp hwanted
    split at hwanted
    · obtain rfl := pure_eq_ok.mp hwanted
      cases hmem
    next hasks =>
      have hvisible : Text.strip (maskedSql regions) ≠ [] := by
        rw [Bool.or_eq_true, not_or] at hasks
        simpa using hasks.2
      obtain ⟨tree, node, _, function, hparse, hnode, hisCall, hrender, hname, rfl, hcall⟩ :=
        exists_call_of_mem_regionReplacements hwanted hmem
      exact ⟨⟨regions, tree, node, hregions, hvisible, hparse, hnode, hisCall, hrender⟩, function,
        hname, hcall⟩

/-- The replacements that a model asks for stem from calls. -/
theorem stemsFrom_of_mem_wanted {model : Text} {found : List Replacement}
    (hwanted : wanted engine adapters primary model = .ok found) {replacement : Replacement}
    (hmem : replacement ∈ found) : replacement.StemsFrom engine primary := by
  obtain ⟨⟨regions, tree, node, -, -, hparse, hnode, hisCall, hrender⟩, function, hname, hcall⟩ :=
    exists_function_of_mem_wanted hwanted hmem
  exact ⟨maskedSql regions, tree, node, function, hparse, hnode, hisCall, hrender, hname, hcall⟩

/-- The macro calls that are put into a draft are those of replacements for its regions. -/
theorem exists_replacement_of_mem_draftInsertions {draft : Draft} {regions : List SqlRegion}
    {call : Text} (hmem : call ∈ draftInsertions engine adapters primary draft regions) :
    ∃ region ∈ regions, ∃ found,
      regionReplacements engine adapters primary region.masked = .ok found ∧
      ∃ replacement ∈ found, replacement.macroCall = call := by
  induction regions generalizing draft with
  | nil => cases hmem
  | cons region rest ih =>
    simp only [draftInsertions, List.mem_append] at hmem
    rcases hmem with hmem | hmem
    · refine ⟨region, by simp, ?_⟩
      simp only [regionInsertions] at hmem
      split at hmem
      · cases hmem
      next found hfound =>
        refine ⟨found, hfound, ?_⟩
        split at hmem
        · cases hmem
        · obtain ⟨replacement, hmade, rfl⟩ := List.mem_map.mp hmem
          have htried := (applied_sublist _ _).subset hmade
          rw [longestFirst, mem_sortBy] at htried
          exact ⟨replacement, htried, rfl⟩
    · split at hmem
      · cases hmem
      · obtain ⟨other, hother, hfound⟩ := ih hmem
        exact ⟨other, List.mem_cons_of_mem _ hother, hfound⟩

/-- Every macro call that is put into a model is that of a function call which the engine reads
there. -/
theorem exists_call_of_mem_insertions {model call : Text}
    (hmem : call ∈ insertions engine adapters primary model) :
    ∃ sql function, HasCall engine primary model sql ∧ functionName? sql = some function ∧
      call = macroCall function sql := by
  simp only [insertions] at hmem
  split at hmem
  · cases hmem
  next regions hregions =>
    split at hmem
    next =>
      obtain ⟨region, hregion, found, hfound, replacement, hreplacement, rfl⟩ :=
        exists_replacement_of_mem_draftInsertions hmem
      simp only [sqlRegions] at hregion
      split at hregion
      · cases hregion
      next hvisible =>
        obtain rfl := List.mem_singleton.mp hregion
        obtain ⟨tree, node, sql, function, hparse, hnode, hisCall, hrender, hname, -, hcall⟩ :=
          exists_call_of_mem_regionReplacements hfound hreplacement
        refine ⟨sql, function, ?_, hname, hcall⟩
        exact ⟨regions, tree, node, hregions, by simpa using hvisible, hparse, hnode, hisCall,
          hrender⟩
    next => cases hmem

end Converting

/-- The name of the macro in a macro call: what stands between the opening braces and the
parenthesis. -/
def calledMacro (call : Text) : Text :=
  (call.drop 3).takeWhile (· != '(')

/-- A macro call calls the macro of its function. -/
theorem calledMacro_macroCall {function : Text} (hparen : '(' ∉ function) (sql : Text) :
    calledMacro (macroCall function sql) = macroName function := by
  have hname : ∀ c ∈ macroName function, (c != '(') = true := by
    intro c hc
    rw [bne_iff_ne]
    rintro rfl
    exact not_mem_macroName (by decide) (by decide) hparen hc
  unfold calledMacro macroCall expressionTag
  rw [List.append_assoc, List.drop_left' (by decide), List.append_assoc, List.append_assoc,
    List.append_assoc, List.takeWhile_append_of_pos hname]
  simp

end PortableSql.Model
