import Mathlib.Data.List.Perm.Basic
import PortableSql.Fault

/-!
# Successful computations

Answers that may fail and work on a state that may fail are taken apart here. A computation of
several steps succeeds exactly when each of its steps does, so a successful run of a command gives
back what every step of it was given and what it returned.
-/

namespace PortableSql

/-! ## Answers -/

/-- Two steps succeed when the first does and the second does with what the first returned. -/
theorem bind_eq_ok {ε α β : Type} {first : Except ε α} {next : α → Except ε β} {b : β} :
    (first >>= next) = .ok b ↔ ∃ a, first = .ok a ∧ next a = .ok b := by
  cases first <;> simp [Bind.bind, Except.bind]

/-- Work in two steps succeeds exactly if both of them do. -/
theorem bind_ok_iff {ε α β : Type} {first : Except ε α} {next : α → Except ε β} :
    (∃ b, (first >>= next) = .ok b) ↔ ∃ a, first = .ok a ∧ ∃ b, next a = .ok b := by
  cases first <;> simp [Bind.bind, Except.bind]

/-- A step that only computes returns what it computes. -/
theorem pure_eq_ok {ε α : Type} {a b : α} : (pure a : Except ε α) = .ok b ↔ a = b := by
  simp [Pure.pure, Except.pure]

/-- A check is passed when its fault does not apply. -/
theorem guard_eq_ok {ε α : Type} {c : Prop} [Decidable c] {fault : ε} {next : Except ε α} {a : α} :
    (if c then throw fault else next) = .ok a ↔ ¬c ∧ next = .ok a := by
  split <;> simp [*, throw, throwThe, MonadExceptOf.throw]

/-- A list of answers succeeds when all of them do, with what they return in the same order. -/
theorem mapM_eq_ok {ε α β : Type} {f : α → Except ε β} {items : List α} {results : List β} :
    items.mapM f = .ok results ↔ List.Forall₂ (fun a b => f a = .ok b) items results := by
  induction items generalizing results with
  | nil =>
    rw [List.mapM_nil, pure_eq_ok, List.forall₂_nil_left_iff]
    exact eq_comm
  | cons a items ih =>
    simp only [List.mapM_cons, bind_eq_ok, pure_eq_ok, List.forall₂_cons_left_iff, ih]
    constructor
    · rintro ⟨b, hb, rest, hrest, rfl⟩
      exact ⟨b, rest, hb, hrest, rfl⟩
    · rintro ⟨b, rest, hb, hrest, rfl⟩
      exact ⟨b, hb, rest, hrest, rfl⟩

/-- A result of a list of answers is that of one of the items. -/
theorem exists_item_of_mapM {ε α β : Type} {f : α → Except ε β} {items : List α}
    {results : List β} (hok : items.mapM f = .ok results) {b : β} (hb : b ∈ results) :
    ∃ a ∈ items, f a = .ok b := by
  obtain ⟨i, hi, rfl⟩ := List.mem_iff_getElem.mp hb
  have hall := mapM_eq_ok.mp hok
  have hlength := hall.length_eq
  exact ⟨items[i], List.getElem_mem _, List.Forall₂.get hall (by omega) hi⟩

/-- An item of a list of answers has a result. -/
theorem exists_result_of_mapM {ε α β : Type} {f : α → Except ε β} {items : List α}
    {results : List β} (hok : items.mapM f = .ok results) {a : α} (ha : a ∈ items) :
    ∃ b ∈ results, f a = .ok b := by
  obtain ⟨i, hi, rfl⟩ := List.mem_iff_getElem.mp ha
  have hall := mapM_eq_ok.mp hok
  have hlength := hall.length_eq
  exact ⟨results[i], List.getElem_mem _, List.Forall₂.get hall hi (by omega)⟩

/-- A list of answers succeeds when all of them do. -/
theorem mapM_ok_iff {ε α β : Type} {f : α → Except ε β} {items : List α} :
    (∃ results, items.mapM f = .ok results) ↔ ∀ a ∈ items, ∃ b, f a = .ok b := by
  constructor
  · rintro ⟨results, hok⟩ a ha
    obtain ⟨b, -, hb⟩ := exists_result_of_mapM hok ha
    exact ⟨b, hb⟩
  · intro hall
    induction items with
    | nil => exact ⟨[], rfl⟩
    | cons a items ih =>
      obtain ⟨⟨b, hb⟩, hrest⟩ := List.forall_mem_cons.mp hall
      obtain ⟨results, hresults⟩ := ih hrest
      exact ⟨b :: results, mapM_eq_ok.mpr (.cons hb (mapM_eq_ok.mp hresults))⟩

/-- An answer is found by a check on it. -/
theorem exists_ok_of_any {ε α : Type} {answer : Except ε α} {p : α → Bool}
    (hany : answer.toOption.any p = true) : ∃ a, answer = .ok a ∧ p a = true := by
  cases answer with
  | error fault => cases hany
  | ok a => exact ⟨a, rfl, hany⟩

/-- An answer is a fault exactly if it is no result. -/
theorem error_iff_not_ok {ε α : Type} {answer : Except ε α} :
    (∃ fault, answer = .error fault) ↔ ¬∃ a, answer = .ok a := by
  cases answer <;> simp

/-- A list of answers fails when one of them does. -/
theorem mapM_error_iff {ε α β : Type} {f : α → Except ε β} {items : List α} :
    (∃ fault, items.mapM f = .error fault) ↔ ∃ a ∈ items, ∃ fault, f a = .error fault := by
  simp only [error_iff_not_ok, mapM_ok_iff, not_forall, exists_prop]

/-- Work on all items of a list succeeds when it does on each of them. -/
theorem forM_eq_ok {ε α : Type} {f : α → Except ε Unit} {items : List α} :
    items.forM f = .ok () ↔ ∀ a ∈ items, f a = .ok () := by
  induction items with
  | nil => simp [pure_eq_ok]
  | cons a items ih =>
    rw [List.forall_mem_cons, ← ih]
    exact bind_eq_ok.trans ⟨fun ⟨_, hfirst, hrest⟩ => ⟨hfirst, hrest⟩,
      fun ⟨hfirst, hrest⟩ => ⟨(), hfirst, hrest⟩⟩

/-- Answers that are all known to succeed. -/
theorem mapM_eq_map {ε α β : Type} {f : α → Except ε β} {g : α → β} {items : List α}
    (hall : ∀ a ∈ items, f a = .ok (g a)) : items.mapM f = .ok (items.map g) := by
  rw [mapM_eq_ok, List.forall₂_map_right_iff, List.forall₂_same]
  exact hall

/-- Answers that agree on a list give the same results for it. -/
theorem mapM_congr {ε α β : Type} {f g : α → Except ε β} {items : List α}
    (hsame : ∀ a ∈ items, f a = g a) : items.mapM f = items.mapM g := by
  induction items with
  | nil => rfl
  | cons a items ih =>
    obtain ⟨ha, hitems⟩ := List.forall_mem_cons.mp hsame
    rw [List.mapM_cons, List.mapM_cons, ha, ih hitems]

/-- Lists of answers one after the other. -/
theorem mapM_append_eq_ok {ε α β : Type} {f : α → Except ε β} {first second : List α}
    {results : List β} :
    (first ++ second).mapM f = .ok results ↔ ∃ earlier later, first.mapM f = .ok earlier ∧
      second.mapM f = .ok later ∧ results = earlier ++ later := by
  rw [List.mapM_append, bind_eq_ok]
  refine exists_congr fun earlier => ?_
  rw [bind_eq_ok]
  constructor
  · rintro ⟨hfirst, later, hsecond, hresults⟩
    exact ⟨later, hfirst, hsecond, (pure_eq_ok.mp hresults).symm⟩
  · rintro ⟨later, hfirst, hsecond, rfl⟩
    exact ⟨hfirst, later, hsecond, pure_eq_ok.mpr rfl⟩

/-- Answers for items in another order are the same answers in another order. -/
theorem mapM_perm {ε α β : Type} {f : α → Except ε β} {items others : List α} {results : List β}
    (hperm : items.Perm others) (hok : items.mapM f = .ok results) :
    ∃ again, others.mapM f = .ok again ∧ results.Perm again := by
  obtain ⟨again, hagain, hsame⟩ := List.perm_comp_forall₂ hperm.symm (mapM_eq_ok.mp hok)
  exact ⟨again, mapM_eq_ok.mpr hagain, hsame.symm⟩

/-! ## Work on a state -/

/-- Work on a state returns `a` and leaves the state `after`. -/
def Yields {σ α : Type} (work : ExceptT Fault (StateM σ) α) (before : σ) (a : α) (after : σ) :
    Prop :=
  work.run.run before = (.ok a, after)

instance {σ α : Type} [DecidableEq σ] [DecidableEq α] (work : ExceptT Fault (StateM σ) α)
    (before : σ) (a : α) (after : σ) : Decidable (Yields work before a after) :=
  inferInstanceAs (Decidable ((show Except Fault α × σ from work.run.run before) = (.ok a, after)))

section Yields

variable {σ α β : Type} {before after : σ}

/-- Two steps succeed when the first does and the second does in the state that the first left. -/
theorem yields_bind {first : ExceptT Fault (StateM σ) α} {next : α → ExceptT Fault (StateM σ) β}
    {b : β} : Yields (first >>= next) before b after ↔
      ∃ a between, Yields first before a between ∧ Yields (next a) between b after := by
  unfold Yields
  rw [ExceptT.run_bind, StateT.run_bind]
  rcases first.run.run before with ⟨fault | a, between⟩
  · constructor
    · intro h
      cases h
    · rintro ⟨a, between, h, -⟩
      cases h
  · constructor
    · intro h
      exact ⟨a, between, rfl, h⟩
    · rintro ⟨a, between, h, hnext⟩
      cases h
      exact hnext

/-- A step that only computes leaves the state as it is. -/
theorem yields_pure {a b : α} :
    Yields (pure a : ExceptT Fault (StateM σ) α) before b after ↔ a = b ∧ before = after := by
  constructor
  · intro h
    cases h
    exact ⟨rfl, rfl⟩
  · rintro ⟨rfl, rfl⟩
    rfl

/-- Looking at the state returns it. -/
theorem yields_get {s : σ} :
    Yields (get : ExceptT Fault (StateM σ) σ) before s after ↔ before = s ∧ before = after := by
  constructor
  · intro h
    cases h
    exact ⟨rfl, rfl⟩
  · rintro ⟨rfl, rfl⟩
    rfl

/-- Changing the state succeeds. -/
theorem yields_modify {f : σ → σ} {u : PUnit} :
    Yields (modify f : ExceptT Fault (StateM σ) PUnit) before u after ↔ f before = after := by
  constructor
  · intro h
    cases h
    rfl
  · rintro rfl
    rfl

/-- A fault is no success. -/
theorem not_yields_throw {fault : Fault} {a : α} :
    ¬Yields (throw fault : ExceptT Fault (StateM σ) α) before a after := by
  intro h
  cases h

/-- An answer that does not look at the state leaves it as it is. -/
theorem yields_answer {answer : Except Fault α} {a : α} :
    Yields (ExceptT.mk (pure answer) : ExceptT Fault (StateM σ) α) before a after ↔
      answer = .ok a ∧ before = after := by
  constructor
  · intro h
    cases h
    exact ⟨rfl, rfl⟩
  · rintro ⟨rfl, rfl⟩
    rfl

end Yields

end PortableSql
