import PortableSql.Text.Case

/-!
# Marks, case and names

A mark is a character that no change of case leads to, such as a digit or a brace. It occurs in the
lower or upper case of a text only if it occurs in the text. So changing the case of a name does not
bring in anything that could end it. The case of most characters does not depend on those around
them, so the lower case of most texts is that of their characters.
-/

namespace PortableSql.Text

/-- What a change of case may lead to: the letters of ASCII and the characters beyond it, of which
those of the higher planes have no case. -/
def caseBlocks : List CodeRange :=
  [(0x41, 0x5a), (0x61, 0x7a), (0x80, 0xd7ff), (0xe000, 0x1ffff)]

/-- Whether a code point is one that a change of case may lead to. -/
def isCaseImage (n : Nat) : Bool :=
  caseBlocks.any fun block => block.1 ≤ n && n ≤ block.2

/-- A character that no change of case leads to. -/
def isMark (c : Char) : Bool :=
  !isCaseImage c.toNat

/-- Whether a run is mapped into one of the blocks. -/
def CaseRun.isSound (run : CaseRun) : Bool :=
  caseBlocks.any fun block => block.1 ≤ run.image && run.image + (run.last - run.first) ≤ block.2

/-- Runs that are mapped into the blocks map every character into them. -/
theorem CaseRun.isCaseImage_of_image? {runs : List CaseRun} (hsound : runs.all isSound = true)
    {n m : Nat} (himage : image? runs n = some m) : isCaseImage m = true := by
  induction runs with
  | nil => cases himage
  | cons run runs ih =>
    rw [List.all_cons, Bool.and_eq_true] at hsound
    simp only [image?] at himage
    split at himage
    · cases himage
    · split at himage
      next hinside =>
        simp only [Bool.and_eq_true, decide_eq_true_eq] at hinside
        obtain ⟨block, hblock, hbounds⟩ := List.any_eq_true.mp hsound.1
        refine List.any_eq_true.mpr ⟨block, hblock, ?_⟩
        simp only [Option.some.injEq, Bool.and_eq_true, decide_eq_true_eq] at himage hbounds ⊢
        omega
      next => exact ih hsound.2 himage

/-- A code point in the blocks is that of a character. -/
theorem toNat_ofNat_of_isCaseImage {n : Nat} (himage : isCaseImage n = true) :
    (Char.ofNat n).toNat = n := by
  have hvalid : n.isValidChar := by
    obtain ⟨block, hblock, hbounds⟩ := List.any_eq_true.mp himage
    simp only [caseBlocks, List.mem_cons, List.not_mem_nil, or_false] at hblock
    simp only [Bool.and_eq_true, decide_eq_true_eq] at hbounds
    rcases hblock with rfl | rfl | rfl | rfl <;> simp only [Nat.isValidChar] at hbounds ⊢ <;> omega
  rw [Char.ofNat, dif_pos hvalid]
  rfl

/-- The character of a code point in the blocks is no mark. -/
theorem isMark_ofNat {n : Nat} (himage : isCaseImage n = true) : isMark (Char.ofNat n) = false := by
  rw [isMark, toNat_ofNat_of_isCaseImage himage, himage]
  rfl

/-- No change of case leads to a mark. -/
theorem isMark_lowerChar {c : Char} (hmark : isMark (lowerChar c) = true) : lowerChar c = c := by
  have hsound : lowerRuns.all CaseRun.isSound = true := by decide +kernel
  rw [lowerChar] at hmark ⊢
  split at hmark
  next n himage =>
    rw [isMark_ofNat (CaseRun.isCaseImage_of_image? hsound himage)] at hmark
    cases hmark
  next => rfl

/-- A mark in the lower case of a text is in the text. -/
theorem mem_of_mem_lower {p : Char} (hp : isMark p = true) {t : Text} (hmem : p ∈ lower t) :
    p ∈ t := by
  rw [lower] at hmem
  generalize ([] : Text) = before at hmem
  induction t generalizing before with
  | nil => simp [lowerAfter] at hmem
  | cons c t ih =>
    simp only [lowerAfter, List.mem_append] at hmem
    rcases hmem with himage | hrest
    · split at himage
      · split at himage <;> rw [List.mem_singleton] at himage <;> rw [himage] at hp <;> cases hp
      · split at himage
        · simp only [List.mem_cons, List.not_mem_nil, or_false] at himage
          rcases himage with rfl | rfl <;> cases hp
        · rw [List.mem_singleton] at himage
          rw [himage] at hp
          simp [himage, isMark_lowerChar hp]
    · exact List.mem_cons_of_mem c (ih _ hrest)

/-- A character that is its own lower case stays in a text. -/
theorem mem_lower_of_mem {p : Char} (hp : lowerChar p = p) (hsigma : p ≠ 'Σ') (hdot : p ≠ 'İ')
    {t : Text} (hmem : p ∈ t) : p ∈ lower t := by
  rw [lower]
  generalize ([] : Text) = before
  induction t generalizing before with
  | nil => cases hmem
  | cons c t ih =>
    rw [lowerAfter, List.mem_append]
    rcases List.mem_cons.mp hmem with rfl | hmem
    · exact .inl (by simp [hp, hsigma, hdot])
    · exact .inr (ih hmem _)

/-- A mark in the upper case of a text is in the text. -/
theorem mem_of_mem_upper {p : Char} (hp : isMark p = true) {t : Text} (hmem : p ∈ upper t) :
    p ∈ t := by
  have hlong : (longUppers.all fun entry => entry.2.all isCaseImage) = true := by decide +kernel
  have hsound : upperRuns.all CaseRun.isSound = true := by decide +kernel
  obtain ⟨c, hc, hchar⟩ := List.mem_flatMap.mp hmem
  rw [upperChar] at hchar
  split at hchar
  next image hlookup =>
    obtain ⟨n, hn, rfl⟩ := List.mem_map.mp hchar
    obtain ⟨before, after, hsplit, -⟩ := List.lookup_eq_some_iff.mp hlookup
    have himages := List.all_eq_true.mp hlong (c.toNat, image) (by simp [hsplit])
    rw [isMark_ofNat (List.all_eq_true.mp himages n hn)] at hp
    cases hp
  next =>
    split at hchar
    next n himage =>
      rw [List.mem_singleton] at hchar
      rw [hchar, isMark_ofNat (CaseRun.isCaseImage_of_image? hsound himage)] at hp
      cases hp
    next =>
      rw [List.mem_singleton] at hchar
      exact hchar ▸ hc

/-! ## Texts whose case is that of their characters -/

/-- A text without the characters whose lower case is longer or depends on what stands around
them. -/
def HasSimpleCase (t : Text) : Prop :=
  'İ' ∉ t ∧ 'Σ' ∉ t

instance (t : Text) : Decidable t.HasSimpleCase :=
  inferInstanceAs (Decidable (_ ∧ _))

/-- A text has simple case if both its parts have. -/
theorem hasSimpleCase_append {first second : Text} :
    HasSimpleCase (first ++ second) ↔ first.HasSimpleCase ∧ second.HasSimpleCase := by
  simp only [HasSimpleCase, List.mem_append, not_or]
  exact and_and_and_comm

/-- A part of such a text is one too. -/
theorem HasSimpleCase.of_subset {part t : Text} (ht : t.HasSimpleCase) (hsubset : part ⊆ t) :
    part.HasSimpleCase :=
  ⟨fun hmem => ht.1 (hsubset hmem), fun hmem => ht.2 (hsubset hmem)⟩

/-- The lower case of such a text is taken character by character. -/
theorem lower_eq_map {t : Text} (ht : t.HasSimpleCase) : lower t = t.map lowerChar := by
  have hstep (before : Text) : lowerAfter before t = t.map lowerChar := by
    induction t generalizing before with
    | nil => rfl
    | cons c t ih =>
      simp only [HasSimpleCase, List.mem_cons, not_or] at ht
      have hsigma : (c == 'Σ') = false := by simpa using Ne.symm ht.2.1
      have hdot : (c == 'İ') = false := by simpa using Ne.symm ht.1.1
      simp only [lowerAfter, hsigma, hdot, Bool.false_eq_true, if_false, List.map_cons,
        ih ⟨ht.1.2, ht.2.2⟩, List.singleton_append]
  exact hstep []

/-- Whether nothing in a run is mapped to a code point. -/
def CaseRun.misses (n : Nat) (run : CaseRun) : Bool :=
  n < run.image || run.image + (run.last - run.first) < n

/-- A code point that all runs miss is no image. -/
theorem CaseRun.image?_ne {runs : List CaseRun} {m : Nat} (hmisses : runs.all (misses m) = true)
    (n : Nat) : image? runs n ≠ some m := by
  induction runs with
  | nil => simp [image?]
  | cons run runs ih =>
    rw [List.all_cons, Bool.and_eq_true] at hmisses
    simp only [image?]
    split
    · simp
    · split
      next hinside =>
        have hmiss := hmisses.1
        simp only [misses, Bool.or_eq_true, Bool.and_eq_true, decide_eq_true_eq] at hmiss hinside
        simp only [ne_eq, Option.some.injEq]
        omega
      next => exact ih hmisses.2

/-- The lower case of a character is one that the runs miss only if it is the character itself. -/
theorem lowerChar_eq_self {c p : Char} (hmisses : lowerRuns.all (CaseRun.misses p.toNat) = true)
    (hvalid : p.toNat ≠ 0) (hlower : lowerChar c = p) : c = p := by
  rw [lowerChar] at hlower
  split at hlower
  next n himage =>
    refine absurd himage ?_
    have hcode : p.toNat = n := by
      by_cases hchar : n.isValidChar
      · rw [← hlower, Char.ofNat, dif_pos hchar]
        rfl
      · refine absurd ?_ hvalid
        rw [← hlower, Char.ofNat, dif_neg hchar]
        rfl
    rw [← hcode]
    exact CaseRun.image?_ne hmisses _
  next => exact hlower

/-- The lower case of any text is such a text. -/
theorem hasSimpleCase_lower (t : Text) : (lower t).HasSimpleCase := by
  have hstep (p : Char) (hmisses : lowerRuns.all (CaseRun.misses p.toNat) = true)
      (hp : p = 'İ' ∨ p = 'Σ') (before : Text) : p ∉ lowerAfter before t := by
    induction t generalizing before with
    | nil => simp [lowerAfter]
    | cons c t ih =>
      simp only [lowerAfter, List.mem_append, not_or]
      refine ⟨?_, ih _⟩
      split
      · rcases hp with rfl | rfl <;> split <;> decide
      · split
        · rcases hp with rfl | rfl <;> decide
        next hsigma hdot =>
          rw [List.mem_singleton]
          intro himage
          have hvalid : p.toNat ≠ 0 := by rcases hp with rfl | rfl <;> decide
          have hself := lowerChar_eq_self hmisses hvalid himage.symm
          rcases hp with rfl | rfl <;> simp_all
  exact ⟨hstep _ (by decide +kernel) (.inl rfl) [], hstep _ (by decide +kernel) (.inr rfl) []⟩

/-! ## Characters without case -/

/-- A character that is its own lower case and that of no other character. -/
def IsCaseless (p : Char) : Prop :=
  lowerChar p = p ∧ ∀ c, lowerChar c = p → c = p

/-- The characters of the delimiters of tags and parentheses are such characters. -/
theorem isCaseless_delimiter {p : Char} (hp : p ∈ ['\x7b', '\x7d', '%', '#', '(', ')']) :
    IsCaseless p := by
  have hsound : (['\x7b', '\x7d', '%', '#', '(', ')'].all fun p => lowerChar p == p &&
      p.toNat != 0 && lowerRuns.all (CaseRun.misses p.toNat)) = true := by decide +kernel
  have hchecks := List.all_eq_true.mp hsound p hp
  simp only [Bool.and_eq_true, beq_iff_eq, bne_iff_ne] at hchecks
  exact ⟨hchecks.1.1, fun c => lowerChar_eq_self hchecks.2 hchecks.1.2⟩

/-- A text that is like one without case in lower case is that text. -/
theorem eq_of_map_lowerChar {t other : Text} (hother : ∀ p ∈ other, IsCaseless p)
    (hmap : t.map lowerChar = other.map lowerChar) : t = other := by
  induction other generalizing t with
  | nil => simpa using hmap
  | cons p other ih =>
    obtain ⟨q, t, rfl, hq, hmap⟩ := List.map_eq_cons_iff.mp hmap
    obtain ⟨hp, hother⟩ := List.forall_mem_cons.mp hother
    rw [ih hother hmap, hp.2 q (hq.trans hp.1)]

/-- A part of such characters stands in every text with the same lower case, at the same place. -/
theorem exists_part_of_lower_eq {t other left part right : Text} (ht : t.HasSimpleCase)
    (hother : other.HasSimpleCase) (hlower : lower t = lower other)
    (hpart : ∀ p ∈ part, IsCaseless p) (hsplit : t = left ++ part ++ right) :
    ∃ start rest, other = start ++ part ++ rest ∧ start.length = left.length ∧
      rest.length = right.length := by
  rw [lower_eq_map ht, lower_eq_map hother, hsplit, List.map_append, List.map_append] at hlower
  obtain ⟨front, rest, rfl, hfront, hrest⟩ := List.map_eq_append_iff.mp hlower.symm
  obtain ⟨start, same, rfl, hstart, hsame⟩ := List.map_eq_append_iff.mp hfront
  rw [eq_of_map_lowerChar hpart hsame]
  exact ⟨start, rest, rfl, by simpa using congrArg List.length hstart,
    by simpa using congrArg List.length hrest⟩

/-- Such a character is in no text with the lower case of one that lacks it. -/
theorem not_mem_of_lower_eq {t other : Text} {p : Char} (ht : t.HasSimpleCase)
    (hother : other.HasSimpleCase) (hlower : lower t = lower other) (hp : IsCaseless p)
    (hmissing : p ∉ other) : p ∉ t := by
  intro hmem
  obtain ⟨left, right, hsplit⟩ := List.append_of_mem hmem
  rw [List.append_cons] at hsplit
  obtain ⟨start, rest, rfl, -⟩ :=
    exists_part_of_lower_eq ht hother hlower (by simpa using hp) hsplit
  exact hmissing (by simp)

/-! ## Names in ASCII -/

/-- A character of an ASCII identifier. -/
def isWordChar (c : Char) : Bool :=
  c.isAlphanum || c == '_'

/-- The classes of word characters. -/
theorem isWordChar_eq (c : Char) : isWordChar c =
    ((decide ('A' ≤ c ∧ c ≤ 'Z') || 'a' ≤ c && c ≤ 'z') || c.isDigit || c == '_') := rfl

/-- An ASCII letter or underscore, followed by letters, digits and underscores. -/
def isAsciiName : Text → Bool
  | [] => false
  | c :: cs => isWordChar c && !c.isDigit && cs.all isWordChar

/-- Only word characters stand in an identifier. -/
theorem isWordChar_of_mem {t : Text} (hword : isAsciiName t = true) {c : Char}
    (hc : c ∈ t) : isWordChar c = true := by
  cases t with
  | nil => cases hc
  | cons d t =>
    simp only [isAsciiName, Bool.and_eq_true, List.all_eq_true] at hword
    rcases List.mem_cons.mp hc with rfl | hc
    · exact hword.1.1
    · exact hword.2 c hc

/-- A name holds letters, digits and underscores only. -/
theorem not_mem_of_isAsciiName {t : Text} (hword : isAsciiName t = true) {c : Char}
    (hc : isWordChar c = false) : c ∉ t := by
  intro hmem
  rw [isWordChar_of_mem hword hmem] at hc
  cases hc

end PortableSql.Text
