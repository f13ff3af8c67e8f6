import PortableSql.Proofs.Computation
import PortableSql.Proofs.Model.Call

/-!
# Parentheses of calls

The arguments of a call are taken to be all that stands between the first parenthesis of a text and
the last one. That is right if these two belong together. In a text that only starts with a call,
the parenthesis after the name is closed earlier, and what is passed on then closes a parenthesis
that it does not open.
-/

namespace PortableSql

namespace Text

/-! ## Well nested texts -/

/-- A text whose parentheses are well nested. -/
inductive IsNested : Text → Prop
  | nil : IsNested []
  | plain {c : Char} {rest : Text} (hopen : c ≠ '(') (hclose : c ≠ ')') (hrest : IsNested rest) :
      IsNested (c :: rest)
  | group {inner rest : Text} (hinner : IsNested inner) (hrest : IsNested rest) :
      IsNested ('(' :: (inner ++ ')' :: rest))

/-- The number of parentheses that are open after a text, given those before it. There is none if
the text closes a parenthesis that is not open. -/
def openParens? (n : Nat) : Text → Option Nat
  | [] => some n
  | c :: cs =>
    if c == '(' then openParens? (n + 1) cs
    else if c == ')' then if n == 0 then none else openParens? (n - 1) cs
    else openParens? n cs

/-- An opening parenthesis is one more that is open. -/
theorem openParens?_open (n : Nat) (t : Text) :
    openParens? n ('(' :: t) = openParens? (n + 1) t := rfl

/-- A closing parenthesis closes one that is open. -/
theorem openParens?_close (n : Nat) (t : Text) :
    openParens? (n + 1) (')' :: t) = openParens? n t := rfl

/-- Other characters leave the parentheses as they are. -/
theorem openParens?_plain {c : Char} (hopen : c ≠ '(') (hclose : c ≠ ')') (n : Nat) (t : Text) :
    openParens? n (c :: t) = openParens? n t := by
  simp [openParens?, hopen, hclose]

/-- Parentheses are counted part by part. -/
theorem openParens?_append (n : Nat) (first second : Text) :
    openParens? n (first ++ second) = (openParens? n first).bind (openParens? · second) := by
  induction first generalizing n with
  | nil => rfl
  | cons c first ih =>
    rw [List.cons_append]
    simp only [openParens?]
    split
    · exact ih (n + 1)
    · split
      · split
        · rfl
        · exact ih (n - 1)
      · exact ih n

/-- A well nested text leaves as many parentheses open as before. -/
theorem IsNested.openParens? {t : Text} (ht : t.IsNested) (n : Nat) :
    t.openParens? n = some n := by
  induction ht generalizing n with
  | nil => rfl
  | plain hopen hclose _ ih => rw [openParens?_plain hopen hclose, ih]
  | group _ _ ihInner ihRest =>
    rw [openParens?_open, openParens?_append, ihInner, Option.bind_some, openParens?_close, ihRest]

/-- A text that leaves nothing open is well nested up to the parenthesis that closes the last one
which was open before it. -/
theorem nested_of_openParens? {n : Nat} {t : Text} (hclosed : openParens? n t = some 0) :
    (n = 0 ∧ t.IsNested) ∨ ∃ m inner rest, n = m + 1 ∧ t = inner ++ ')' :: rest ∧
      IsNested inner ∧ openParens? m rest = some 0 := by
  match t with
  | [] => exact .inl ⟨Option.some.inj hclosed, .nil⟩
  | c :: cs =>
    by_cases hopen : c = '('
    · -- The parenthesis is closed in the rest, and the text goes on after that as it began.
      subst hopen
      rw [openParens?_open] at hclosed
      rcases nested_of_openParens? hclosed
        with ⟨hzero, -⟩ | ⟨m, inner, rest, hm, rfl, hinner, hrest⟩
      · cases hzero
      · obtain rfl : n = m := Nat.succ.inj hm
        rcases nested_of_openParens? hrest
          with ⟨rfl, hnested⟩ | ⟨k, next, last, rfl, rfl, hnext, hlast⟩
        · exact .inl ⟨rfl, .group hinner hnested⟩
        · exact .inr ⟨k, '(' :: (inner ++ ')' :: next), last, rfl, by simp, .group hinner hnext,
            hlast⟩
    · by_cases hclose : c = ')'
      · subst hclose
        cases n with
        | zero => cases hclosed
        | succ n => exact .inr ⟨n, [], cs, rfl, rfl, .nil, by rwa [openParens?_close] at hclosed⟩
      · rw [openParens?_plain hopen hclose] at hclosed
        rcases nested_of_openParens? hclosed
          with ⟨hzero, hnested⟩ | ⟨m, inner, rest, hm, rfl, hinner, hrest⟩
        · exact .inl ⟨hzero, .plain hopen hclose hnested⟩
        · exact .inr ⟨m, c :: inner, rest, hm, rfl, .plain hopen hclose hinner, hrest⟩
termination_by t.length
decreasing_by all_goals simp_all <;> omega

/-- Parentheses are nested exactly if none is left open or closed too early. -/
theorem isNested_iff {t : Text} : t.IsNested ↔ openParens? 0 t = some 0 := by
  refine ⟨fun ht => ht.openParens? 0, fun hclosed => ?_⟩
  rcases nested_of_openParens? hclosed with ⟨-, hnested⟩ | ⟨m, inner, rest, hm, -⟩
  · exact hnested
  · cases hm

instance (t : Text) : Decidable t.IsNested :=
  decidable_of_iff _ isNested_iff.symm

/-- The parenthesis that closes an open one is found at one place only. -/
theorem IsNested.closed_once {first second rest more : Text} (hfirst : first.IsNested)
    (hsecond : second.IsNested) (heq : first ++ ')' :: rest = second ++ ')' :: more) :
    first = second ∧ rest = more := by
  induction hfirst generalizing second rest more with
  | nil =>
    cases hsecond with
    | nil => exact ⟨rfl, (List.cons.inj heq).2⟩
    | plain _ hclose => exact absurd (List.cons.inj heq).1.symm hclose
    | group => cases (List.cons.inj heq).1
  | plain hopen hclose _ ih =>
    cases hsecond with
    | nil => exact absurd (List.cons.inj heq).1 hclose
    | plain _ _ hother =>
      obtain ⟨rfl, htail⟩ := List.cons.inj heq
      obtain ⟨rfl, hrest⟩ := ih hother htail
      exact ⟨rfl, hrest⟩
    | group => exact absurd (List.cons.inj heq).1 hopen
  | group _ _ ihInner ihRest =>
    cases hsecond with
    | nil => cases (List.cons.inj heq).1
    | plain hopen => exact absurd (List.cons.inj heq).1.symm hopen
    | group hinner hother =>
      simp only [List.cons_append, List.append_assoc, List.cons.injEq, true_and] at heq
      obtain ⟨rfl, hlater⟩ := ihInner hinner heq
      obtain ⟨rfl, hrest⟩ := ihRest hother hlater
      exact ⟨rfl, hrest⟩

/-- The first parenthesis that a well nested text opens is closed in it. -/
theorem IsNested.exists_closed {front inside : Text} (hopen : '(' ∉ front) (hclose : ')' ∉ front)
    (hnested : IsNested (front ++ '(' :: inside)) :
    ∃ inner rest, inside = inner ++ ')' :: rest ∧ IsNested inner ∧ IsNested rest := by
  induction front with
  | nil =>
    cases hnested with
    | plain hno => exact absurd rfl hno
    | group hinner hrest => exact ⟨_, _, rfl, hinner, hrest⟩
  | cons c front ih =>
    rw [List.mem_cons, not_or] at hopen hclose
    rw [isNested_iff, List.cons_append, openParens?_plain (Ne.symm hopen.1) (Ne.symm hclose.1),
      ← isNested_iff] at hnested
    exact ih hopen.2 hclose.2 hnested

/-- A text is what is left of it between blanks. -/
theorem exists_blanks_around (t : Text) : ∃ before after, t = before ++ (strip t ++ after) ∧
    (∀ c ∈ before, isBlank c = true) ∧ ∀ c ∈ after, isBlank c = true := by
  refine ⟨t.takeWhile isBlank, ((stripLeft t).reverse.takeWhile isBlank).reverse, ?_,
    fun c hc => List.mem_takeWhile_imp hc,
    fun c hc => List.mem_takeWhile_imp (List.mem_reverse.mp hc)⟩
  rw [strip, stripRight, trimEnd, ← List.reverse_append, List.takeWhile_append_dropWhile,
    List.reverse_reverse, stripLeft, List.takeWhile_append_dropWhile]

/-- Blanks around a text do not matter to its parentheses. -/
theorem isNested_strip {t : Text} : (strip t).IsNested ↔ t.IsNested := by
  have hblanks {blanks : Text} (hall : ∀ c ∈ blanks, isBlank c = true) (n : Nat) :
      openParens? n blanks = some n := by
    induction blanks with
    | nil => rfl
    | cons c blanks ih =>
      obtain ⟨hc, hall⟩ := List.forall_mem_cons.mp hall
      have hopen : c ≠ '(' := fun h => absurd (h ▸ hc) (by decide)
      have hclose : c ≠ ')' := fun h => absurd (h ▸ hc) (by decide)
      rw [openParens?_plain hopen hclose, ih hall]
  obtain ⟨before, after, hsplit, hbefore, hafter⟩ := exists_blanks_around t
  have hcount : openParens? 0 t = openParens? 0 (strip t) := by
    conv_lhs => rw [hsplit]
    rw [openParens?_append, hblanks hbefore, Option.bind_some, openParens?_append]
    cases openParens? 0 (strip t) with
    | none => rfl
    | some n => exact hblanks hafter n
  rw [isNested_iff, isNested_iff, hcount]

end Text

namespace Model

open Sql Text

/-! ## What is passed on -/

/-- The text that a macro call passes on for a call, before it is made a string. -/
def passed (sql : Text) : Text :=
  match arguments? sql with
  | some args => strip args
  | none => []

/-- A macro call passes on what stands between the parentheses of the call. -/
theorem macroCall_eq_passed (function sql : Text) :
    macroCall function sql =
      expressionTag (macroName function ++ ['('] ++ macroArgument (passed sql) ++ [')']) := by
  unfold macroCall passed
  cases arguments? sql <;> rfl

/-- What may follow the last parenthesis of a call. -/
def isEnding (t : Text) : Bool :=
  t == [] || t == ['\n']

/-- A text that starts with a call: the arguments reach up to the parenthesis that closes the one
after the name, and the rest follows. -/
inductive StartsWithCall : (sql arguments rest : Text) → Prop
  | call {name blanks inner rest : Text} (hname : isName name = true)
      (hblanks : ∀ c ∈ blanks, isBlank c = true) (hinner : IsNested inner)
      (hrest : IsNested rest) :
      StartsWithCall (name ++ (blanks ++ '(' :: (inner ++ ')' :: rest))) inner rest

/-- The arguments of a call end before the last parenthesis of the text. -/
theorem beforeClose?_eq_some {inside args : Text} (hargs : beforeClose? inside = some args) :
    ∃ ending, inside = args ++ ')' :: ending ∧ isEnding ending = true := by
  unfold beforeClose? at hargs
  split at hargs
  next rest hrest =>
    obtain rfl := Option.some.inj hargs
    refine ⟨[], ?_, rfl⟩
    rw [← List.reverse_reverse inside, hrest]
    simp
  next rest hrest =>
    obtain rfl := Option.some.inj hargs
    refine ⟨['\n'], ?_, rfl⟩
    rw [← List.reverse_reverse inside, hrest]
    simp
  next => cases hargs

/-- The last parenthesis of a text is found at one place only. -/
theorem eq_of_isEnding {first second rest more : Text} (hrest : isEnding rest = true)
    (hmore : isEnding more = true) (heq : first ++ ')' :: rest = second ++ ')' :: more) :
    first = second := by
  simp only [isEnding, Bool.or_eq_true, beq_iff_eq] at hrest hmore
  have hlast := congrArg List.getLast? heq
  rcases hrest with rfl | rfl <;> rcases hmore with rfl | rfl
  · exact List.append_cancel_right heq
  · simp at hlast
  · simp at hlast
  · exact List.append_cancel_right heq

/-- A parenthesis is no part of a name and no blank. -/
theorem not_mem_front {name blanks : Text} (hname : isName name = true)
    (hblanks : ∀ c ∈ blanks, isBlank c = true) {p : Char} (hp : p = '(' ∨ p = ')') :
    p ∉ name ++ blanks := by
  intro hmem
  rcases List.mem_append.mp hmem with hmem | hmem
  · have hpart := isNamePart_of_mem hname p hmem
    rcases hp with rfl | rfl <;> exact absurd hpart (by decide)
  · have hblank := hblanks p hmem
    rcases hp with rfl | rfl <;> exact absurd hblank (by decide)

/-- A well nested text for which something is passed on starts with a call. What is passed on is
well nested exactly if the text ends with that call, and then it is the arguments of the call. -/
theorem passed_nested_iff_call_is_whole {node : Node} {primary : Dialect} {sql : Text}
    (function : Text) (hsql : node.render primary = .ok sql) (hnested : sql.IsNested)
    (hpassed : passed sql ≠ []) :
    ∃ inner rest, StartsWithCall sql inner rest ∧
      nodeMacroCall function node primary = .ok
        (expressionTag (macroName function ++ ['('] ++ macroArgument (passed sql) ++ [')'])) ∧
      ((passed sql).IsNested ↔ isEnding rest = true) ∧
      ((passed sql).IsNested → passed sql = strip inner) := by
  obtain ⟨args, hargs⟩ : ∃ args, arguments? sql = some args := by
    cases hargs : arguments? sql with
    | none => exact absurd (by rw [passed, hargs]) hpassed
    | some args => exact ⟨args, rfl⟩
  have hstrip : passed sql = strip args := by rw [passed, hargs]
  unfold arguments? at hargs
  split at hargs
  next name inside hcall =>
    obtain ⟨blanks, rfl, hname, hblanks⟩ := splitCall?_eq_some hcall
    obtain ⟨ending, hinside, hending⟩ := beforeClose?_eq_some hargs
    rw [← List.append_assoc] at hnested
    obtain ⟨inner, rest, rfl, hinner, hrest⟩ := hnested.exists_closed
      (not_mem_front hname hblanks (.inl rfl)) (not_mem_front hname hblanks (.inr rfl))
    have hmade : nodeMacroCall function node primary = .ok (macroCall function
        (name ++ (blanks ++ '(' :: (inner ++ ')' :: rest)))) :=
      bind_eq_ok.mpr ⟨_, hsql, rfl⟩
    rw [macroCall_eq_passed] at hmade
    rw [hstrip] at hmade ⊢
    rw [isNested_strip]
    refine ⟨inner, rest, .call hname hblanks hinner hrest, hmade, ⟨fun hargs => ?_, fun hend => ?_⟩,
      fun hargs => ?_⟩
    · -- Both parentheses close the one after the name, so they are the same.
      obtain ⟨-, rfl⟩ := hinner.closed_once hargs hinside
      exact hending
    · rwa [← eq_of_isEnding hend hending hinside]
    · rw [(hinner.closed_once hargs hinside).1]
  next => cases hargs

/-- A node that is written in the same way in all dialects. -/
def uniformCall (sql : Text) : Node :=
  ⟨true, none, .uniform sql, [], []⟩

/-- A call with calls and groups among its arguments is passed on as a whole. -/
theorem passed_nested_iff_call_is_whole_groups :
    ∃ inner rest, StartsWithCall "NVL (IF(a, (b), c()), (d))".toList inner rest ∧
      nodeMacroCall "NVL".toList (uniformCall "NVL (IF(a, (b), c()), (d))".toList) .unspecified =
        .ok "\x7b\x7b portable_nvl('IF(a, (b), c()), (d)') \x7d\x7d".toList ∧
      (IsNested "IF(a, (b), c()), (d)".toList ↔ isEnding rest = true) ∧
      (IsNested "IF(a, (b), c()), (d)".toList → "IF(a, (b), c()), (d)".toList = strip inner) :=
  passed_nested_iff_call_is_whole "NVL".toList rfl (by decide) (by decide)

/-- Two calls that are joined are taken for one, and what is passed on closes a parenthesis that it
does not open. -/
theorem joined_calls_are_passed_as_one :
    IsNested "REGEXP_LIKE(a, b) AND STARTSWITH(c, d)".toList ∧
      nodeMacroCall "REGEXP_LIKE".toList
          (uniformCall "REGEXP_LIKE(a, b) AND STARTSWITH(c, d)".toList) (.named "spark".toList) =
        .ok "\x7b\x7b portable_regexp_like('a, b) AND STARTSWITH(c, d') \x7d\x7d".toList ∧
      passed "REGEXP_LIKE(a, b) AND STARTSWITH(c, d)".toList = "a, b) AND STARTSWITH(c, d".toList ∧
      ¬IsNested "a, b) AND STARTSWITH(c, d".toList := by
  refine ⟨by decide, ?_, ?_, by decide⟩
  · rfl
  · rfl

end Model

end PortableSql
