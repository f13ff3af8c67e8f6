import PortableSql.Proofs.Computation
import PortableSql.Report.Wrap

/-!
# Which messages can be printed

A message can be printed if its tags can be read and the styles that are left in its lines as well.
Breaking a message into lines adds no style, so a message whose styles can all be read is printed,
wherever its lines are broken. A message without brackets has no styles at all.
-/

namespace PortableSql.Report

/-- A message with tags can be printed. -/
def IsPrintable (markup : Text) : Prop :=
  ∃ shown, printed markup = .ok shown

instance (markup : Text) : Decidable (IsPrintable markup) :=
  match hprinted : printed markup with
  | .ok shown => isTrue ⟨shown, hprinted⟩
  | .error fault => isFalse (by simp [IsPrintable, hprinted])

/-! ## Styles of lines -/

/-- A part of a span has the style of the span. -/
theorem Span.style_of_within? {first last : Nat} {span part : Span}
    (hwithin : span.within? first last = some part) : part.style = span.style := by
  simp only [within?, Option.ite_none_right_eq_some, Option.some.injEq] at hwithin
  rw [← hwithin.2]

namespace Message

/-- All styles of a message can be read. -/
def IsReadable (message : Message) : Prop :=
  ∀ span ∈ message.spans, ∃ style, Style.ofText span.style = .ok style

/-- A message without spans can be read. -/
theorem isReadable_ofText (t : Text) : (ofText t).IsReadable := by
  intro span hspan
  cases hspan

variable {message : Message}

/-- The parts of a readable message from a position on are readable. -/
theorem IsReadable.partsFrom (hreadable : message.IsReadable) {gap first : Nat}
    {texts : List Text} {part : Message} (hpart : part ∈ message.partsFrom gap first texts) :
    part.IsReadable := by
  induction texts generalizing first with
  | nil => cases hpart
  | cons t texts ih =>
    rcases List.mem_cons.mp hpart with rfl | hpart
    · intro span hspan
      obtain ⟨whole, hwhole, hwithin⟩ := List.mem_filterMap.mp hspan
      exact Span.style_of_within? hwithin ▸ hreadable whole hwhole
    · exact ih hpart

/-- The parts into which a readable message is cut are readable. -/
theorem IsReadable.cut (hreadable : message.IsReadable) {gap : Nat} {texts : List Text}
    {part : Message} (hpart : part ∈ message.cut gap texts) : part.IsReadable := by
  unfold Message.cut at hpart
  split at hpart
  · exact List.mem_singleton.mp hpart ▸ hreadable
  · exact hreadable.partsFrom hpart

/-- The text of a message does not matter to its styles. -/
theorem IsReadable.withText (hreadable : message.IsReadable) (t : Text) :
    (message.withText t).IsReadable := by
  unfold Message.withText
  split
  · intro span hspan
    obtain ⟨whole, hwhole, rfl⟩ := List.mem_map.mp hspan
    exact hreadable whole (List.mem_of_mem_filter hwhole)
  · exact hreadable

/-- A readable message is readable without its tabs. -/
theorem IsReadable.withoutTabs (hreadable : message.IsReadable) :
    message.withoutTabs.IsReadable := by
  unfold Message.withoutTabs
  split
  · intro span hspan
    obtain ⟨whole, hwhole, rfl⟩ := List.mem_map.mp hspan
    exact hreadable whole (List.mem_of_mem_filter hwhole)
  · exact hreadable

/-- The lines into which a readable message is broken are readable. -/
theorem IsReadable.breakLine (hreadable : message.IsReadable) {width : Nat} {overflow : Overflow}
    {line : Message} (hline : line ∈ message.breakLine width overflow) : line.IsReadable := by
  obtain ⟨whole, hwhole, rfl⟩ := List.mem_map.mp hline
  refine IsReadable.withText ?_ _
  split at hwhole
  · exact List.mem_singleton.mp hwhole ▸ hreadable.withoutTabs
  · exact hreadable.withoutTabs.cut hwhole

/-- Every style in the lines of a message is one of the message. -/
theorem IsReadable.wrap (hreadable : message.IsReadable) {width : Nat} {overflow : Overflow}
    {line : Message} (hline : line ∈ message.wrap width overflow) : line.IsReadable := by
  obtain ⟨broken, hbroken, rfl⟩ := List.mem_map.mp hline
  obtain ⟨part, hpart, hbroken⟩ := List.mem_flatMap.mp hbroken
  exact ((hreadable.cut hpart).breakLine hbroken).withText _

end Message

/-- The styles of readable lines are found to be good. -/
theorem checkStyles_eq_ok {lines : List Message} (hlines : ∀ line ∈ lines, line.IsReadable) :
    checkStyles lines = .ok () := by
  refine forM_eq_ok.mpr fun line hline => forM_eq_ok.mpr fun span hspan => ?_
  obtain ⟨style, hstyle⟩ := hlines line hline span hspan
  rw [hstyle]
  rfl

/-- A message whose styles can all be read is printed. -/
theorem isPrintable_of_isReadable {markup : Text} {message : Message}
    (hmessage : Message.ofMarkup markup = .ok message) (hreadable : message.IsReadable) :
    IsPrintable markup := by
  unfold IsPrintable printed
  refine bind_ok_iff.mpr ⟨message, hmessage, bind_ok_iff.mpr ⟨(), ?_, _, rfl⟩⟩
  exact checkStyles_eq_ok fun line hline => hreadable.wrap hline

/-! ## Tags and plain text -/

/-- No tag starts in a text without brackets. -/
theorem tagContent?_eq_none {t : Text} (ht : '[' ∉ t) : tagContent? t = none := by
  unfold tagContent?
  split
  · exact absurd List.mem_cons_self ht
  · rfl

/-- A text without brackets is one piece. -/
theorem piecesFrom_eq_plainPiece {t : Text} (ht : '[' ∉ t) (position : Nat) (pending : Text) :
    piecesFrom 0 position pending t = plainPiece (t.reverse ++ pending) := by
  induction t generalizing position pending with
  | nil => rfl
  | cons c cs ih =>
    have hrest : '[' ∉ cs := fun hmem => ht (List.mem_cons_of_mem c hmem)
    have hnone : tagContent? ((c :: cs).drop ((c :: cs).takeWhile (· == '\\')).length) = none :=
      tagContent?_eq_none fun hmem => ht (List.mem_of_mem_drop hmem)
    have hstep : piecesFrom 0 position pending (c :: cs) =
        piecesFrom 0 (position + 1) (c :: pending) cs := by
      rw [piecesFrom]
      simp only [hnone]
    rw [hstep, ih hrest, List.reverse_cons, List.append_assoc, List.singleton_append]

/-- Characters that belong to a piece are passed over. -/
theorem piecesFrom_skip (lead rest : Text) (position : Nat) (pending : Text) :
    piecesFrom lead.length position pending (lead ++ rest) =
      piecesFrom 0 (position + lead.length) pending rest := by
  induction lead generalizing position with
  | nil => rfl
  | cons c lead ih =>
    rw [List.length_cons, List.cons_append, piecesFrom, ih]
    congr 1
    omega

/-- A text can stand between the brackets of a tag. -/
def IsTagContent (content : Text) : Prop :=
  content.head?.any startsTag = true ∧ '[' ∉ content ∧ ']' ∉ content

instance (content : Text) : Decidable (IsTagContent content) :=
  inferInstanceAs (Decidable (_ ∧ _ ∧ _))

/-- The content of a tag is what stands between its brackets. -/
theorem tagContent?_tag {content : Text} (hcontent : IsTagContent content) (rest : Text) :
    tagContent? ('[' :: (content ++ ']' :: rest)) = some content := by
  obtain ⟨hstart, hopen, hclose⟩ := hcontent
  have hinside : ∀ d ∈ content, (d != '[' && d != ']') = true := by
    intro d hd
    have hnotOpen : d ≠ '[' := fun h => hopen (h ▸ hd)
    have hnotClose : d ≠ ']' := fun h => hclose (h ▸ hd)
    simp [hnotOpen, hnotClose]
  cases content with
  | nil => cases hstart
  | cons c content =>
    have hstart : startsTag c = true := hstart
    simp [tagContent?, hstart, List.takeWhile_append_of_pos (List.forall_mem_cons.mp hinside).2]

/-- A tag is a piece of its own. -/
theorem piecesFrom_tag {content : Text} (hcontent : IsTagContent content) (position : Nat)
    (pending rest : Text) :
    piecesFrom 0 position pending ('[' :: (content ++ ']' :: rest)) =
      plainPiece pending ++ .tag position (.ofText content) ::
        piecesFrom 0 (position + content.length + 2) [] rest := by
  have hskip : piecesFrom (content.length + 1) (position + 1) [] (content ++ ']' :: rest) =
      piecesFrom 0 (position + content.length + 2) [] rest := by
    have hwhole := piecesFrom_skip (content ++ [']']) rest (position + 1) []
    rw [List.length_append, List.append_assoc, List.length_singleton, List.singleton_append]
      at hwhole
    rw [hwhole]
    congr 1
    omega
  rw [piecesFrom]
  simp only [List.takeWhile_cons, Char.reduceBEq, Bool.false_eq_true, if_false, List.length_nil,
    List.drop_zero, tagContent?_tag hcontent rest]
  simp [hskip]

/-- A text without brackets is added to the text of a message. -/
theorem readPieces_of_not_mem {t : Text} (ht : '[' ∉ t) (draft : Draft) (position : Nat) :
    (piecesFrom 0 position [] t).foldlM Draft.readPiece draft =
      .ok { draft with text := draft.text ++ shownText t } := by
  rw [piecesFrom_eq_plainPiece ht, List.append_nil]
  unfold plainPiece
  split
  next hempty =>
    obtain rfl := List.reverse_eq_nil_iff.mp (List.isEmpty_iff.mp hempty)
    have hnone : shownText [] = [] := rfl
    rw [hnone, List.append_nil]
    rfl
  next =>
    rw [List.reverse_reverse]
    rfl

/-- A text without brackets is a message without spans. -/
theorem ofMarkup_of_not_mem {t : Text} (ht : '[' ∉ t) :
    Message.ofMarkup t = .ok (.ofText (shownText t)) := by
  unfold Message.ofMarkup pieces
  rw [readPieces_of_not_mem ht]
  rfl

/-- A text without brackets is printed. -/
theorem isPrintable_of_not_mem {t : Text} (ht : '[' ∉ t) : IsPrintable t :=
  isPrintable_of_isReadable (ofMarkup_of_not_mem ht) (Message.isReadable_ofText _)

end PortableSql.Report
