import PortableSql.Proofs.Model.Masking
import PortableSql.Proofs.Project.Attempt

/-!
# Masks do not come into files

A file whose text is in ASCII and names no mask never names one, whatever is converted and whatever
the engines write in the place of the tags that they are not shown.
-/

namespace PortableSql.Project

open Sql

/-- A path leads to a file whose text names no mask. -/
structure HoldsMaskFree (tree : Tree) (path : Path) (location : Location) : Prop where
  locate : tree.locate path = .ok location
  lookup : ∃ chars, tree.lookup location = some (.file (.text chars)) ∧ Model.IsMaskFree chars

section HoldsMaskFree

variable {tree : Tree} {path : Path} {location : Location}

/-- It still does when a file has been converted. -/
theorem HoldsMaskFree.attempt (hholds : HoldsMaskFree tree path location) (attempt : Attempt) :
    HoldsMaskFree (attempt.run.treeAfter tree) path location := by
  obtain ⟨hlocate, chars, hlookup, hfree⟩ := hholds
  refine ⟨(attempt.sameFolders tree).locate_iff.mp hlocate, ?_⟩
  obtain ⟨text, htext, hcase⟩ := attempt.file_after hlookup
  refine ⟨text, htext, ?_⟩
  rcases hcase with rfl | ⟨hconvert, -⟩
  · exact hfree
  · exact hfree.normalizeNewlines.convert hconvert

/-- It still does when several files have been converted. -/
theorem HoldsMaskFree.afterAll (hholds : HoldsMaskFree tree path location)
    (attempts : List Attempt) : HoldsMaskFree (afterAll tree attempts) path location :=
  afterAll_keeps (HoldsMaskFree · path location) (fun attempt _ htree => htree.attempt attempt)
    attempts hholds

end HoldsMaskFree

/-- A file in ASCII that names no mask names none after any conversions, by whatever engines and for
whatever adapters, of this file and of others. -/
theorem masks_never_come_into_files {tree : Tree} {path : Path} {chars : Text}
    (hread : tree.read path = .ok (.text chars)) (hascii : ∀ c ∈ chars, c.toNat < 128)
    (hnames : Model.namesMask chars = false) (attempts : List Attempt) :
    ∃ after, (afterAll tree attempts).read path = .ok (.text after) ∧
      Model.namesMask after = false := by
  obtain ⟨location, hlocate, hlookup⟩ := Tree.read_eq_ok.mp hread
  have hchars : chars.IsNearAscii :=
    List.all_eq_true.mpr fun c hc => by simp [Text.isNearAscii, hascii c hc]
  have hholds : HoldsMaskFree tree path location := ⟨hlocate, chars, hlookup, hchars, hnames⟩
  obtain ⟨hlater, after, hafter, hfree⟩ := hholds.afterAll attempts
  exact ⟨after, Tree.read_eq_ok.mpr ⟨location, hlater, hafter⟩, hfree.names⟩

/-- An engine that reads two calls in every text, one of them with a mask as its argument. -/
def maskedEngine : Engine :=
  let call (argument : String) : Node := ⟨true, none, .byDialect
    [("postgres".toList, some ("ARRAY_AGG(" ++ argument ++ ")").toList),
      ("*".toList, some ("COLLECT_LIST(" ++ argument ++ ")").toList)], [], []⟩
  Recording.engine
    { parses := [⟨none, none,
        .ok (some ⟨false, none, .uniform [], [], [call "__PLACEHOLDER__", call "x"]⟩)⟩]
      transpiles := []
      dialects := [] }

/-- A conversion of a model with this engine. -/
def maskedAttempt : Attempt :=
  ⟨maskedEngine, Model.twoAdapters, .named "spark".toList, false, folderedPath "models" "m.sql"⟩

/-- A model with both of these calls, in which the argument of the first is a tag. -/
def taggedModel : Text :=
  "SELECT COLLECT_LIST(\x7b\x7b var('c') \x7d\x7d), COLLECT_LIST(x)".toList

/-- The model with a macro call for the second call. -/
def taggedMade : Text :=
  "SELECT COLLECT_LIST(\x7b\x7b var('c') \x7d\x7d), ".toList ++ collectCall

/-- The call with a tag stays, and the other one is replaced. -/
theorem masks_never_come_into_files_tagged :
    ∃ after, (afterAll (folderedTree [("models", "m.sql", taggedModel)]) [maskedAttempt]).read
        maskedAttempt.path = .ok (.text after) ∧
      after = taggedMade ∧ Model.namesMask after = false := by
  have hread : (folderedTree [("models", "m.sql", taggedModel)]).read maskedAttempt.path =
      .ok (.text taggedModel) := by
    decide +kernel
  have hascii : ∀ c ∈ taggedModel, c.toNat < 128 := by
    have hall : (taggedModel.all fun c => c.toNat < 128) = true := by decide +kernel
    exact fun c hc => of_decide_eq_true (List.all_eq_true.mp hall c hc)
  obtain ⟨after, hafter, hnames⟩ :=
    masks_never_come_into_files hread hascii (by decide +kernel) [maskedAttempt]
  refine ⟨after, hafter, ?_, hnames⟩
  have hstored : (afterAll (folderedTree [("models", "m.sql", taggedModel)]) [maskedAttempt]).read
      maskedAttempt.path = .ok (.text taggedMade) := by
    decide +kernel
  rw [hafter, Except.ok.injEq, Content.text.injEq] at hstored
  exact hstored

end PortableSql.Project
