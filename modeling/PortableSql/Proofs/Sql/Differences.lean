import PortableSql.Proofs.Computation
import PortableSql.Proofs.Sorting
import PortableSql.Sql.Recording

/-!
# Which functions are reported as different

A function is not portable when one of the adapters lacks it or when two of them implement it
differently. The report counts the distinct implementations of a function and compares the count
with the number of adapters. Functions that all adapters implement alike have one implementation
and at least two adapters, so they are reported as well: the report is the list of all functions
that some table holds, and it errs exactly in the functions on which the adapters agree.
-/

namespace PortableSql.Sql

/-- Erasing repetitions leaves each item once. -/
theorem nodup_eraseDups {α : Type} [BEq α] [LawfulBEq α] (items : List α) :
    items.eraseDups.Nodup := by
  induction hlength : items.length using Nat.strong_induction_on generalizing items with
  | _ n ih =>
    cases items with
    | nil => simp
    | cons a items =>
      rw [List.eraseDups_cons, List.nodup_cons]
      have hshorter := List.length_filter_le (fun b => !b == a) items
      rw [List.length_cons] at hlength
      exact ⟨by simp, ih _ (by omega) _ rfl⟩

namespace Engine

/-! ## What a report should say -/

/-- The function table of an adapter, if the engine knows its dialect and the dialect has one. -/
def table? (engine : Engine) (adapter : Text) : Option FunctionTable :=
  (engine.functions (.named (Dialect.canonicalName adapter))).join

/-- The table of one of the adapters holds a function. -/
def Knows (engine : Engine) (adapters : List Text) (name : Text) : Prop :=
  ∃ adapter ∈ adapters, ∃ table, engine.table? adapter = some table ∧ name ∈ table.map (·.1)

/-- How an adapter implements a function, if it does. -/
def implementedBy? (engine : Engine) (name adapter : Text) : Option Text :=
  ((engine.table? adapter).bind (implementation? name)).map Scalar.shown

/-- One of the adapters lacks a function that is known, or two of them implement it differently. -/
def NotPortable (engine : Engine) (adapters : List Text) (name : Text) : Prop :=
  engine.Knows adapters name ∧
    ((∃ adapter ∈ adapters, engine.implementedBy? name adapter = none) ∨
      ∃ a ∈ adapters, ∃ b ∈ adapters, ∃ s t, engine.implementedBy? name a = some s ∧
        engine.implementedBy? name b = some t ∧ s ≠ t)

/-- All adapters implement a function alike. -/
def AgreesOn (engine : Engine) (adapters : List Text) (name : Text) : Prop :=
  ∃ implementation, ∀ adapter ∈ adapters,
    engine.implementedBy? name adapter = some implementation

/-- A known function is portable exactly when all adapters implement it alike. -/
theorem notPortable_iff_not_agreesOn {engine : Engine} {adapters : List Text} {name : Text}
    (hknown : engine.Knows adapters name) :
    engine.NotPortable adapters name ↔ ¬engine.AgreesOn adapters name := by
  constructor
  · rintro ⟨-, ⟨adapter, hadapter, hnone⟩ | ⟨a, ha, b, hb, s, t, hs, ht, hne⟩⟩
      ⟨implementation, hall⟩
    · rw [hall adapter hadapter] at hnone
      cases hnone
    · rw [hall a ha] at hs
      rw [hall b hb] at ht
      exact hne (Option.some.inj (hs.symm.trans ht))
  · intro hdisagree
    refine ⟨hknown, ?_⟩
    by_contra hneither
    push Not at hneither
    obtain ⟨hall, hequal⟩ := hneither
    obtain ⟨first, hfirst, -⟩ := hknown
    obtain ⟨s, hs⟩ := Option.ne_none_iff_exists'.mp (hall first hfirst)
    refine hdisagree ⟨s, fun adapter hadapter => ?_⟩
    obtain ⟨t, ht⟩ := Option.ne_none_iff_exists'.mp (hall adapter hadapter)
    rw [ht, hequal first hfirst adapter hadapter s t hs ht]

/-! ## What the report says -/

/-- The tables of named adapters are those of their dialects, in order. -/
theorem tables_eq_ok {engine : Engine} {adapters : List Text}
    {tables : List (Option FunctionTable)} :
    engine.tables (adapters.map .ofText) = .ok tables ↔
      List.Forall₂ (fun adapter table =>
        engine.functions (.named (Dialect.canonicalName adapter)) = some table)
        adapters tables := by
  unfold Engine.tables
  rw [mapM_eq_ok, List.forall₂_map_left_iff]
  refine iff_of_eq (congrArg (fun R => List.Forall₂ R adapters tables) ?_)
  funext adapter table
  simp only [Value.ofText, Dialect.canonical, bind_eq_ok, Except.ok.injEq, exists_eq_left',
    eq_iff_iff]
  cases engine.functions (.named (Dialect.canonicalName adapter)) with
  | none => simp [throw, throwThe, MonadExceptOf.throw]
  | some found => simp [pure_eq_ok]

/-- Adapters whose dialects the engine knows get a report. -/
theorem differences_ok {engine : Engine} {adapters : List Text}
    (hknown : ∀ adapter ∈ adapters,
      (engine.functions (.named (Dialect.canonicalName adapter))).isSome = true) :
    ∃ reported, engine.differences (.list (adapters.map .ofText)) = .ok reported := by
  have htables : ∃ tables, engine.tables (adapters.map .ofText) = .ok tables := by
    refine mapM_ok_iff.mpr fun value hvalue => ?_
    obtain ⟨adapter, hadapter, rfl⟩ := List.mem_map.mp hvalue
    obtain ⟨table, htable⟩ := Option.isSome_iff_exists.mp (hknown adapter hadapter)
    refine ⟨table, bind_eq_ok.mpr ⟨.named (Dialect.canonicalName adapter), rfl, ?_⟩⟩
    rw [htable]
    rfl
  obtain ⟨tables, htables⟩ := htables
  exact ⟨_, bind_eq_ok.mpr ⟨_, rfl, bind_eq_ok.mpr ⟨tables, htables, rfl⟩⟩⟩

/-- The names in the tables of adapters are the known functions. -/
theorem mem_functionNames {engine : Engine} {adapters : List Text}
    {tables : List (Option FunctionTable)}
    (htables : engine.tables (adapters.map .ofText) = .ok tables) {name : Text} :
    name ∈ functionNames tables ↔ engine.Knows adapters name := by
  rw [functionNames, List.mem_eraseDups, List.mem_flatMap]
  have hall := tables_eq_ok.mp htables
  have hlength := hall.length_eq
  constructor
  · rintro ⟨table, htable, hname⟩
    obtain ⟨i, hi, rfl⟩ := List.mem_iff_getElem.mp htable
    have hfunctions := List.Forall₂.get hall (by omega) hi
    simp only [List.get_eq_getElem] at hfunctions
    cases hfound : tables[i] with
    | none => simp [hfound] at hname
    | some found =>
      refine ⟨adapters[i], List.getElem_mem _, found, ?_, by simpa [hfound] using hname⟩
      rw [table?, hfunctions, hfound]
      rfl
  · rintro ⟨adapter, hadapter, table, htable, hname⟩
    obtain ⟨i, hi, rfl⟩ := List.mem_iff_getElem.mp hadapter
    have hfunctions := List.Forall₂.get hall hi (by omega)
    simp only [List.get_eq_getElem] at hfunctions
    rw [table?, hfunctions, Option.join_some] at htable
    exact ⟨tables[i], List.getElem_mem _, by simpa [htable] using hname⟩

/-- With two adapters or more, every function passes the test for a difference: if it has at most
one implementation, that is fewer than there are adapters. -/
theorem differs_of_two_le {tables : List (Option FunctionTable)} (htwo : 2 ≤ tables.length)
    (name : Text) : differs tables name = true := by
  simp only [differs, Bool.or_eq_true, decide_eq_true_eq]
  omega

/-- A report is the sorted list of the names in the tables. -/
theorem differences_eq_ok {engine : Engine} {adapters reported : List Text}
    (htwo : 2 ≤ adapters.length) :
    engine.differences (.list (adapters.map .ofText)) = .ok reported ↔
      ∃ tables, engine.tables (adapters.map .ofText) = .ok tables ∧
        reported = sortBy Text.le (functionNames tables) := by
  simp only [differences, Value.items, bind_eq_ok, Except.ok.injEq, exists_eq_left', pure_eq_ok]
  refine exists_congr fun tables => and_congr_right fun htables => ?_
  have hlength : 2 ≤ tables.length := (tables_eq_ok.mp htables).length_eq ▸ htwo
  have hall : (functionNames tables).filter (differs tables) = functionNames tables :=
    List.filter_eq_self.mpr fun name _ => differs_of_two_le hlength name
  rw [hall]
  exact eq_comm

/-- Two adapters or more are reported to differ in every function that one of them knows. -/
theorem mem_differences_iff {engine : Engine} {adapters reported : List Text}
    (htwo : 2 ≤ adapters.length)
    (hreported : engine.differences (.list (adapters.map .ofText)) = .ok reported) {name : Text} :
    name ∈ reported ↔ engine.Knows adapters name := by
  obtain ⟨tables, htables, rfl⟩ := (differences_eq_ok htwo).mp hreported
  rw [mem_sortBy, mem_functionNames htables]

/-- Adapters whose dialects have tables get a report, which is increasing. It holds every known
function, and so it is right about a function exactly when the function is unknown or the adapters
do not agree on it. -/
theorem differences_right_iff_not_agreed {engine : Engine} {adapters : List Text}
    (htwo : 2 ≤ adapters.length)
    (htables : ∀ adapter ∈ adapters, (engine.table? adapter).isSome) :
    ∃ reported, engine.differences (.list (adapters.map .ofText)) = .ok reported ∧
      reported.Pairwise (· < ·) ∧
      (∀ name, name ∈ reported ↔ engine.Knows adapters name) ∧
      ∀ name, (name ∈ reported ↔ engine.NotPortable adapters name) ↔
        ¬(engine.Knows adapters name ∧ engine.AgreesOn adapters name) := by
  obtain ⟨tables, hfound⟩ : ∃ tables, engine.tables (adapters.map .ofText) = .ok tables := by
    refine ⟨adapters.map fun adapter => engine.table? adapter, tables_eq_ok.mpr ?_⟩
    rw [List.forall₂_map_right_iff, List.forall₂_same]
    intro adapter hadapter
    have hsome := htables adapter hadapter
    rw [table?] at hsome ⊢
    cases hfunctions : engine.functions (.named (Dialect.canonicalName adapter)) with
    | none => simp [hfunctions] at hsome
    | some table => rfl
  have hreported := (differences_eq_ok htwo).mpr ⟨tables, hfound, rfl⟩
  refine ⟨_, hreported, Text.sortBy_le_pairwise_lt (nodup_eraseDups _),
    fun name => mem_differences_iff htwo hreported, fun name => ?_⟩
  rw [mem_differences_iff htwo hreported]
  by_cases hknown : engine.Knows adapters name
  · rw [notPortable_iff_not_agreesOn hknown]
    simp [hknown]
  · have hnot : ¬engine.NotPortable adapters name := fun h => hknown h.1
    simp [hknown, hnot]

/-- Two dialects that agree on one function; each of them has another one for itself, and one of
these is a false implementation. -/
def sharedFunctionEngine : Engine :=
  Recording.engine
    { parses := []
      transpiles := []
      dialects :=
        [("postgres".toList,
          some [("ABS".toList, .text "abs".toList), ("NVL".toList, .text "coalesce".toList)]),
        ("snowflake".toList,
          some [("ABS".toList, .text "abs".toList), ("LEN".toList, .int 0)])] }

/-- Two adapters that have a function alike. -/
theorem differences_right_iff_not_agreed_shared :
    (∀ adapter ∈ ["postgres".toList, "snowflake".toList],
      (sharedFunctionEngine.table? adapter).isSome) ∧
    ∃ reported,
      sharedFunctionEngine.differences
        (.list (["postgres".toList, "snowflake".toList].map .ofText)) = .ok reported ∧
      reported.Pairwise (· < ·) ∧
      (∀ name, name ∈ reported ↔
        sharedFunctionEngine.Knows ["postgres".toList, "snowflake".toList] name) ∧
      ∀ name, (name ∈ reported ↔
          sharedFunctionEngine.NotPortable ["postgres".toList, "snowflake".toList] name) ↔
        ¬(sharedFunctionEngine.Knows ["postgres".toList, "snowflake".toList] name ∧
          sharedFunctionEngine.AgreesOn ["postgres".toList, "snowflake".toList] name) :=
  ⟨by decide +kernel, differences_right_iff_not_agreed (by decide) (by decide +kernel)⟩

/-- Both dialects implement `ABS` in the same way, and it is reported all the same. -/
theorem agreed_function_is_reported :
    sharedFunctionEngine.differences
        (.list (["postgres".toList, "snowflake".toList].map .ofText)) =
      .ok ["ABS".toList, "LEN".toList, "NVL".toList] ∧
    sharedFunctionEngine.AgreesOn ["postgres".toList, "snowflake".toList] "ABS".toList ∧
    ¬sharedFunctionEngine.NotPortable ["postgres".toList, "snowflake".toList] "ABS".toList := by
  have hagrees :
      sharedFunctionEngine.AgreesOn ["postgres".toList, "snowflake".toList] "ABS".toList :=
    ⟨"abs".toList, by decide +kernel⟩
  refine ⟨by rfl, hagrees, ?_⟩
  rintro hdifferent
  exact (notPortable_iff_not_agreesOn hdifferent.1).mp hdifferent hagrees

end Engine

end PortableSql.Sql
