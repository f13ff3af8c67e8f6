import PortableSql.Proofs.Text.Case

/-!
# Texts whose lower case is in ASCII

The lower case of a character is in ASCII only if the character is, with one exception: the sign for
kelvin has the lower case of the letter. So a text that is found in ASCII regardless of case is
itself in ASCII, up to this sign, and its case is that of its characters.
-/

namespace PortableSql.Text

/-- What holds of each ASCII character holds of all of them. -/
theorem forall_ascii {p : Char → Bool}
    (hall : (List.range 128).all (fun n => p (Char.ofNat n)) = true) {c : Char}
    (hc : c.toNat < 128) : p c = true := by
  have hcode := List.all_eq_true.mp hall c.toNat (List.mem_range.mpr hc)
  rwa [Char.ofNat_toNat] at hcode

/-- A character of ASCII or the sign for kelvin. -/
def isNearAscii (c : Char) : Bool :=
  c.toNat < 128 || c == '\u212a'

/-- What holds of ASCII and of the Kelvin sign holds of all characters that count as near ASCII. -/
theorem forall_nearAscii {p : Char → Bool}
    (hall : (List.range 128).all (fun n => p (Char.ofNat n)) = true) (hkelvin : p '\u212a' = true)
    {c : Char} (hc : isNearAscii c = true) : p c = true := by
  rw [isNearAscii, Bool.or_eq_true, decide_eq_true_iff, beq_iff_eq] at hc
  rcases hc with hc | rfl
  · exact forall_ascii hall hc
  · exact hkelvin

/-- Whether a run that leads to ASCII starts there, or is that of the sign for kelvin. -/
def CaseRun.isNear (run : CaseRun) : Bool :=
  128 ≤ run.image || run.last < 128 || run.first == 0x212a && run.last == 0x212a

/-- Such runs lead to ASCII from the characters of ASCII and the sign for kelvin only. -/
theorem CaseRun.code_of_image? {runs : List CaseRun} (hnear : runs.all isNear = true) {n m : Nat}
    (himage : image? runs n = some m) (hm : m < 128) : n < 128 ∨ n = 0x212a := by
  induction runs with
  | nil => cases himage
  | cons run runs ih =>
    rw [List.all_cons, Bool.and_eq_true] at hnear
    simp only [image?] at himage
    split at himage
    · cases himage
    · split at himage
      next hfirst hinside =>
        have hrun := hnear.1
        simp only [isNear, Bool.or_eq_true, Bool.and_eq_true, decide_eq_true_eq, beq_iff_eq]
          at hrun hinside
        obtain rfl := Option.some.inj himage
        omega
      next => exact ih hnear.2 himage

/-- The lower case of a character is in ASCII only if the character is, up to the sign for
kelvin. -/
theorem isNearAscii_of_lowerChar {c : Char} (hlower : (lowerChar c).toNat < 128) :
    isNearAscii c = true := by
  have hnear : lowerRuns.all CaseRun.isNear = true := by decide +kernel
  have hsound : lowerRuns.all CaseRun.isSound = true := by decide +kernel
  rw [isNearAscii, Bool.or_eq_true, decide_eq_true_iff, beq_iff_eq]
  rw [lowerChar] at hlower
  split at hlower
  next n himage =>
    rw [toNat_ofNat_of_isCaseImage (CaseRun.isCaseImage_of_image? hsound himage)] at hlower
    refine (CaseRun.code_of_image? hnear himage hlower).imp_right fun hcode => ?_
    rw [← Char.ofNat_toNat c, hcode]
  next => exact .inl hlower

/-! ## Texts -/

/-- A text of such characters. -/
def IsNearAscii (t : Text) : Prop :=
  t.all isNearAscii = true

instance (t : Text) : Decidable t.IsNearAscii :=
  inferInstanceAs (Decidable (_ = true))

/-- A text is near ASCII if both its parts are. -/
theorem isNearAscii_append {first second : Text} :
    IsNearAscii (first ++ second) ↔ first.IsNearAscii ∧ second.IsNearAscii := by
  rw [IsNearAscii, List.all_append, Bool.and_eq_true]
  exact Iff.rfl

/-- Characters of a text that is near ASCII make such a text. -/
theorem IsNearAscii.of_subset {part t : Text} (ht : t.IsNearAscii) (hsubset : part ⊆ t) :
    part.IsNearAscii :=
  List.all_eq_true.mpr fun c hc => List.all_eq_true.mp ht c (hsubset hc)

/-- A text that is near ASCII has simple case. -/
theorem IsNearAscii.hasSimpleCase {t : Text} (ht : t.IsNearAscii) : t.HasSimpleCase :=
  ⟨fun hmem => absurd (List.all_eq_true.mp ht _ hmem) (by decide),
    fun hmem => absurd (List.all_eq_true.mp ht _ hmem) (by decide)⟩

/-- A text that is near ASCII is put in lower case letter by letter. -/
theorem IsNearAscii.lower_eq {t : Text} (ht : t.IsNearAscii) : lower t = t.map lowerChar :=
  lower_eq_map ht.hasSimpleCase

/-- The lower case of such a text is in ASCII. -/
theorem IsNearAscii.toNat_lt {t : Text} (ht : t.IsNearAscii) : ∀ c ∈ lower t, c.toNat < 128 := by
  intro c hc
  rw [ht.lower_eq] at hc
  obtain ⟨d, hd, rfl⟩ := List.mem_map.mp hc
  have hone := forall_nearAscii (p := fun c => decide ((lowerChar c).toNat < 128))
    (by decide +kernel) (by decide +kernel) (List.all_eq_true.mp ht d hd)
  exact of_decide_eq_true hone

/-- A text whose lower case is in ASCII is such a text. -/
theorem isNearAscii_of_lower {t : Text} (ht : ∀ c ∈ lower t, c.toNat < 128) : t.IsNearAscii := by
  rw [lower] at ht
  generalize ([] : Text) = before at ht
  induction t generalizing before with
  | nil => rfl
  | cons c t ih =>
    simp only [lowerAfter, List.forall_mem_append] at ht
    refine List.all_eq_true.mpr (List.forall_mem_cons.mpr ⟨?_, List.all_eq_true.mp (ih _ ht.2)⟩)
    have hhere := ht.1
    split at hhere
    · split at hhere <;> exact absurd (hhere _ (List.mem_singleton.mpr rfl)) (by decide)
    · split at hhere
      · exact absurd (hhere '\u0307' (by simp)) (by decide)
      · exact isNearAscii_of_lowerChar (hhere _ (List.mem_singleton.mpr rfl))

/-- A text that is near ASCII is so in lower case. -/
theorem IsNearAscii.lower {t : Text} (ht : t.IsNearAscii) : IsNearAscii (lower t) :=
  List.all_eq_true.mpr fun c hc => by simp [isNearAscii, ht.toNat_lt c hc]

/-- The lower case of such a text is its own lower case. -/
theorem IsNearAscii.lower_lower {t : Text} (ht : t.IsNearAscii) :
    Text.lower (Text.lower t) = Text.lower t := by
  rw [ht.lower.lower_eq, ht.lower_eq, List.map_map]
  refine List.map_congr_left fun c hc => ?_
  have hone := forall_nearAscii (p := fun c => lowerChar (lowerChar c) == lowerChar c)
    (by decide +kernel) (by decide +kernel) (List.all_eq_true.mp ht c hc)
  exact beq_iff_eq.mp hone

/-- Such a text and its upper case have the same lower case. -/
theorem IsNearAscii.lower_upper {t : Text} (ht : t.IsNearAscii) :
    Text.lower (upper t) = Text.lower t := by
  have hone {c : Char} (hc : c ∈ t) :
      (upperChar c).all isNearAscii = true ∧ (upperChar c).map lowerChar = [lowerChar c] := by
    have hcase := forall_nearAscii
      (p := fun c => (upperChar c).all isNearAscii && (upperChar c).map lowerChar == [lowerChar c])
      (by decide +kernel) (by decide +kernel) (List.all_eq_true.mp ht c hc)
    rwa [Bool.and_eq_true, beq_iff_eq] at hcase
  have hupper : IsNearAscii (upper t) := by
    refine List.all_eq_true.mpr fun d hd => ?_
    obtain ⟨c, hc, hd⟩ := List.mem_flatMap.mp hd
    exact List.all_eq_true.mp (hone hc).1 d hd
  rw [hupper.lower_eq, ht.lower_eq, upper, List.map_flatMap, List.map_eq_flatMap,
    List.flatMap_def, List.flatMap_def, List.map_congr_left fun c hc => (hone hc).2]

end PortableSql.Text
