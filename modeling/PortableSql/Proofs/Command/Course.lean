import PortableSql.Command.Run
import PortableSql.Proofs.Project.Places
import PortableSql.Proofs.Report.Printing

/-!
# How commands end

What a command does to the tree of a project, and whether it fails, does not depend on what was
printed before. Each step of a command is followed here on the tree alone, through success and
through failure.
-/

namespace PortableSql

open Sql

namespace Console

variable {α β : Type} {tree : Tree}

/-- Work with a report ends with an answer and leaves a tree, whatever was printed before. -/
def Ends (work : Console α) (before : Tree) (answer : Except Fault α) (after : Tree) : Prop :=
  ∀ output, ∃ printed, work.run.run ⟨before, output⟩ = (answer, ⟨after, printed⟩)

/-- After work that succeeds the rest goes on in the tree that it leaves. -/
theorem Ends.bind_ok {first : Console α} {next : α → Console β} {before between after : Tree}
    {a : α} {answer : Except Fault β} (hfirst : Ends first before (.ok a) between)
    (hnext : Ends (next a) between answer after) : Ends (first >>= next) before answer after := by
  intro output
  obtain ⟨printed, hfirst⟩ := hfirst output
  obtain ⟨more, hnext⟩ := hnext printed
  refine ⟨more, ?_⟩
  rw [ExceptT.run_bind, StateT.run_bind, hfirst]
  exact hnext

/-- Work that fails ends the whole. -/
theorem Ends.bind_error {first : Console α} {before after : Tree} {fault : Fault}
    (hfirst : Ends first before (.error fault) after) (next : α → Console β) :
    Ends (first >>= next) before (.error fault) after := by
  intro output
  obtain ⟨printed, hfirst⟩ := hfirst output
  refine ⟨printed, ?_⟩
  rw [ExceptT.run_bind, StateT.run_bind, hfirst]
  rfl

/-- An answer leaves the tree as it is. -/
theorem ends_ofAnswer (answer : Except Fault α) (tree : Tree) :
    Ends (ofAnswer answer) tree answer tree :=
  fun output => ⟨output, rfl⟩

/-- Printing a text as it is always succeeds. -/
theorem ends_write (t : Text) (tree : Tree) : Ends (write t) tree (.ok ()) tree :=
  fun output => ⟨output ++ t, rfl⟩

/-- An answer about the tree leaves it as it is. -/
theorem ends_question (question : Tree → Except Fault α) (tree : Tree) :
    Ends (do ofAnswer (question (← get).tree)) tree (question tree) tree :=
  fun output => ⟨output, rfl⟩

/-- Work on the tree ends as it does without a report. -/
theorem ends_ofAction (action : Action α) (tree : Tree) :
    Ends (ofAction action) tree (action.answer tree) (action.treeAfter tree) :=
  fun output => ⟨output, rfl⟩

/-- Printing leaves the tree as it is, and fails if the message cannot be printed. -/
theorem ends_print (message : Text) (tree : Tree) :
    Ends (print message) tree ((Report.printed message).map fun _ => ()) tree := by
  unfold print
  cases Report.printed message with
  | error fault => exact (ends_ofAnswer (.error fault) tree).bind_error write
  | ok printed => exact (ends_ofAnswer (.ok printed) tree).bind_ok (ends_write printed tree)

/-- A message that can be printed leaves the tree as it is. -/
theorem ends_print_ok {message : Text} (hprintable : Report.IsPrintable message) (tree : Tree) :
    Ends (print message) tree (.ok ()) tree := by
  obtain ⟨printed, hprinted⟩ := hprintable
  have hprint := ends_print message tree
  rw [hprinted] at hprint
  exact hprint

/-- What comes of a message that names a path. -/
def namingAnswer (path : Path) (message : Text) : Except Fault Unit := do
  let _ ← Report.printed message
  if path.isWhole then .ok () else .error .unencodable

/-- Printing a message that names a path leaves the tree as it is. -/
theorem ends_printNaming (path : Path) (message : Text) (tree : Tree) :
    Ends (printNaming path message) tree (namingAnswer path message) tree := by
  unfold printNaming namingAnswer
  cases Report.printed message with
  | error fault => exact (ends_ofAnswer (.error fault) tree).bind_error _
  | ok printed =>
    refine (ends_ofAnswer (.ok printed) tree).bind_ok ?_
    cases path.isWhole with
    | true => exact ends_write printed tree
    | false => exact fun output => ⟨output, rfl⟩

/-- Work that starts with a message that can be printed. -/
theorem Ends.print_bind {message : Text} (hprintable : Report.IsPrintable message)
    {next : Unit → Console β} {answer : Except Fault β} {after : Tree}
    (hnext : Ends (next ()) tree answer after) : Ends (print message >>= next) tree answer after :=
  (ends_print_ok hprintable tree).bind_ok hnext

/-- Work that starts with an answer about the tree. -/
theorem Ends.question_bind (question : Tree → Except Fault α) {a : α}
    (hquestion : question tree = .ok a) {next : α → Console β} {answer : Except Fault β}
    {after : Tree} (hnext : Ends (next a) tree answer after) :
    Ends ((do ofAnswer (question (← get).tree)) >>= next) tree answer after :=
  (hquestion ▸ ends_question question tree).bind_ok hnext

/-- Work on the tree with reports after it that can be printed ends as the work does. -/
theorem Ends.ofAction_bind (action : Action α) {next : α → Console Unit}
    (hnext : ∀ a, Ends (next a) (action.treeAfter tree) (.ok ()) (action.treeAfter tree)) :
    Ends (ofAction action >>= next) tree ((action.answer tree).map fun _ => ())
      (action.treeAfter tree) := by
  have hfirst := ends_ofAction action tree
  cases hanswer : action.answer tree with
  | error fault => exact (hanswer ▸ hfirst).bind_error next
  | ok a => exact (hanswer ▸ hfirst).bind_ok (hnext a)

/-! ## What is left of the tree -/

/-- However work with a report ends, it leaves a tree as stated. -/
def EndsIn (post : Tree → Prop) (work : Console α) (tree : Tree) : Prop :=
  ∃ answer after, Ends work tree answer after ∧ post after

variable {post : Tree → Prop}

/-- Work that is known to end in a tree as stated. -/
theorem Ends.endsIn {work : Console α} {answer : Except Fault α} {after : Tree}
    (hends : Ends work tree answer after) (hpost : post after) : EndsIn post work tree :=
  ⟨answer, after, hends, hpost⟩

/-- Work after an answer, which leaves the tree as it is whether or not it is a fault. -/
theorem EndsIn.ofAnswer_bind (hpost : post tree) {answer : Except Fault α} {next : α → Console β}
    (hnext : ∀ a, answer = .ok a → EndsIn post (next a) tree) :
    EndsIn post (ofAnswer answer >>= next) tree := by
  have hfirst := ends_ofAnswer answer tree
  cases answer with
  | error fault => exact ⟨_, _, hfirst.bind_error next, hpost⟩
  | ok a =>
    obtain ⟨last, after, hends, hafter⟩ := hnext a rfl
    exact ⟨last, after, hfirst.bind_ok hends, hafter⟩

/-- Work after a report, which leaves the tree as it is whether or not it can be printed. -/
theorem EndsIn.report_bind {report : Console Unit} {printed : Except Fault Unit}
    (hreport : Ends report tree printed tree) (hpost : post tree) {next : Unit → Console β}
    (hnext : EndsIn post (next ()) tree) : EndsIn post (report >>= next) tree := by
  cases printed with
  | error fault => exact ⟨_, _, hreport.bind_error next, hpost⟩
  | ok u =>
    obtain ⟨last, after, hends, hafter⟩ := hnext
    exact ⟨last, after, hreport.bind_ok hends, hafter⟩

/-- Work after a message. -/
theorem EndsIn.print_bind (hpost : post tree) {message : Text} {next : Unit → Console β}
    (hnext : EndsIn post (next ()) tree) : EndsIn post (print message >>= next) tree :=
  .report_bind (ends_print message tree) hpost hnext

/-- Work after a text that is printed as it is. -/
theorem EndsIn.write_bind {t : Text} {next : Unit → Console β}
    (hnext : EndsIn post (next ()) tree) : EndsIn post (write t >>= next) tree := by
  obtain ⟨last, after, hends, hafter⟩ := hnext
  exact ⟨last, after, (ends_write t tree).bind_ok hends, hafter⟩

/-- Work after an answer about the tree. -/
theorem EndsIn.question_bind (question : Tree → Except Fault α) (hpost : post tree)
    {next : α → Console β} (hnext : ∀ a, question tree = .ok a → EndsIn post (next a) tree) :
    EndsIn post ((do ofAnswer (question (← get).tree)) >>= next) tree := by
  have hfirst := ends_question question tree
  cases hanswer : question tree with
  | error fault => exact ⟨_, _, (hanswer ▸ hfirst).bind_error next, hpost⟩
  | ok a =>
    obtain ⟨last, after, hends, hafter⟩ := hnext a hanswer
    exact ⟨last, after, (hanswer ▸ hfirst).bind_ok hends, hafter⟩

/-- Work after other work on the tree, which must leave the tree as stated in any case. -/
theorem EndsIn.ofAction_bind {action : Action α} (hpost : post (action.treeAfter tree))
    {next : α → Console β} (hnext : ∀ a, action.answer tree = .ok a →
      EndsIn post (next a) (action.treeAfter tree)) :
    EndsIn post (ofAction action >>= next) tree := by
  have hfirst := ends_ofAction action tree
  cases hanswer : action.answer tree with
  | error fault => exact ⟨_, _, (hanswer ▸ hfirst).bind_error next, hpost⟩
  | ok a =>
    obtain ⟨last, after, hends, hafter⟩ := hnext a hanswer
    exact ⟨last, after, (hanswer ▸ hfirst).bind_ok hends, hafter⟩

end Console

namespace Command

open Console

/-- Loading the settings leaves the tree as it is. -/
theorem endsIn_loadSettings_bind {α : Type} {post : Tree → Prop} {tree : Tree} (hpost : post tree)
    {path : Path} {next : Settings → Console α} (hnext : ∀ settings,
      Settings.load tree path = .ok settings → EndsIn post (next settings) tree) :
    EndsIn post (loadSettings path >>= next) tree :=
  .question_bind (Settings.load · path) hpost hnext

/-- Scanning leaves the tree as it is. -/
theorem endsIn_scanProject_bind {α : Type} {post : Tree → Prop} {tree : Tree} (hpost : post tree)
    {engine : Engine} {settings : Settings} {next : List (Text × Nat) → Console α}
    (hnext : ∀ counts, EndsIn post (next counts) tree) :
    EndsIn post (scanProject engine settings >>= next) tree :=
  .question_bind (Project.scan engine · settings) hpost fun counts _ => hnext counts

/-- Work with settings that can be loaded. -/
theorem ends_loadSettings_bind {α : Type} {tree after : Tree} {path : Path} {settings : Settings}
    (hload : Settings.load tree path = .ok settings) {next : Settings → Console α}
    {answer : Except Fault α} (hnext : Ends (next settings) tree answer after) :
    Ends (loadSettings path >>= next) tree answer after :=
  .question_bind (Settings.load · path) hload hnext

/-- Work with the functions that a scan finds. -/
theorem ends_scanProject_bind {α : Type} {tree after : Tree} {engine : Engine}
    {settings : Settings} {counts : List (Text × Nat)}
    (hscan : Project.scan engine tree settings = .ok counts)
    {next : List (Text × Nat) → Console α} {answer : Except Fault α}
    (hnext : Ends (next counts) tree answer after) :
    Ends (scanProject engine settings >>= next) tree answer after :=
  .question_bind (Project.scan engine · settings) hscan hnext

/-- Why an answer is none. -/
def faultOf {α : Type} : Except Fault α → Option Fault
  | .ok _ => none
  | .error fault => some fault

/-- The outcome of a command is how it ends. -/
theorem runOn_of_ends (engine : Engine) (now : Macro.Moment) (command : Command)
    {tree after : Tree} {answer : Except Fault Unit}
    (hends : Ends (command.run engine now) tree answer after) :
    (runOn engine now tree command).tree = after ∧
      (runOn engine now tree command).fault = faultOf answer := by
  obtain ⟨printed, hrun⟩ := hends []
  unfold runOn
  rw [hrun]
  cases answer with
  | error fault => exact ⟨rfl, rfl⟩
  | ok u => exact ⟨rfl, rfl⟩

/-- What holds of a tree however a command ends holds after it was run. -/
theorem runOn_of_endsIn {engine : Engine} {now : Macro.Moment} {tree : Tree} {command : Command}
    (post : Tree → Prop) (hends : EndsIn post (command.run engine now) tree) :
    post (runOn engine now tree command).tree := by
  obtain ⟨answer, after, hends, hpost⟩ := hends
  rw [(runOn_of_ends engine now command hends).1]
  exact hpost

end Command

end PortableSql
