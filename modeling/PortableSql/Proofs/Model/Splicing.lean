import PortableSql.Proofs.Model.Insertion
import PortableSql.Proofs.Model.Markup

/-!
# Regions that are replaced one after the other

A draft is converted region by region, and the place of a region is shifted by what the regions
before it have gained. If the regions lie one after the other, this is the same as converting each
region on its own and putting the results back between the gaps.
-/

namespace PortableSql

/-! ## Positions -/

namespace Text

/-- A position that is not counted from the end. -/
theorem position_natCast (t : Text) (n : Nat) : position t n = min n t.length := by
  rw [position, if_neg (by omega), Int.toNat_natCast]

/-- A position between two parts is the length of the first. -/
theorem position_append (before after : Text) :
    position (before ++ after) before.length = before.length := by
  rw [position_natCast, Nat.min_eq_left (by simp)]

/-- The part of a text that two positions mark off. -/
theorem slice_append (before part after : Text) :
    slice (before ++ part ++ after) before.length (before ++ part).length = part := by
  rw [slice, position_append, List.take_left, List.append_assoc, position_append, List.drop_left]

/-- The rest of a text, cut at a position. -/
theorem drop_eq_slice_append {t : Text} {first last : Nat} (hfirst : first ≤ last)
    (hlast : last ≤ t.length) : t.drop first = slice t first last ++ t.drop last := by
  rw [slice, position_natCast, position_natCast, Nat.min_eq_left hlast,
    Nat.min_eq_left (by omega)]
  conv_lhs => rw [← List.take_append_drop last t]
  rw [List.drop_append_of_le_length (by rw [List.length_take]; omega)]

/-- A slice has as many characters as there are positions in it. -/
theorem length_slice {t : Text} {first last : Nat} (hfirst : first ≤ last)
    (hlast : last ≤ t.length) : (slice t first last).length = last - first := by
  rw [slice, position_natCast, position_natCast, Nat.min_eq_left hlast,
    Nat.min_eq_left (by omega), List.length_drop, List.length_take, Nat.min_eq_left hlast]

end Text

namespace Model

open Sql Template

/-! ## Regions on their own -/

/-- Regions that lie one after the other between two positions. -/
def AscendFrom (first last : Int) : List SqlRegion → Prop
  | [] => first ≤ last
  | region :: rest =>
    first ≤ region.start ∧ region.start ≤ region.stop ∧ AscendFrom region.stop last rest

instance decidableAscendFrom (first last : Int) (regions : List SqlRegion) :
    Decidable (AscendFrom first last regions) :=
  match regions with
  | [] => inferInstanceAs (Decidable (first ≤ last))
  | region :: rest =>
    have := decidableAscendFrom region.stop last rest
    inferInstanceAs (Decidable (_ ∧ _ ∧ _))

/-- Between regions that ascend, the first position is not behind the last. -/
theorem AscendFrom.le {first last : Int} {regions : List SqlRegion}
    (hregions : AscendFrom first last regions) : first ≤ last := by
  induction regions generalizing first with
  | nil => exact hregions
  | cons region regions ih =>
    obtain ⟨hfirst, hstart, hrest⟩ := hregions
    have hstop := ih hrest
    omega

/-- What the text of a region becomes, whatever stands around it. It stays as it is if its SQL
cannot be read or asks for no replacement. -/
def convertPart (engine : Engine) (adapters : Value) (primary : Dialect) (content : Text)
    (region : SqlRegion) : Except Fault Text :=
  let part := Text.slice content region.start region.stop
  match engine.parse region.masked primary with
  | .ok (some tree) => do
    let found ← replacements adapters primary (← findCalls tree primary)
    return if found.isEmpty then part else replaceCalls part (longestFirst found)
  | _ => .ok part

/-- A text from a position on, with other texts in place of its regions and the gaps between the
regions as they are. -/
def spliced (content : Text) (first : Int) : List SqlRegion → List Text → Text
  | region :: regions, part :: parts =>
    Text.slice content first region.start ++ part ++ spliced content region.stop regions parts
  | _, _ => Text.slice content first content.length

section Splicing

variable {engine : Engine} {adapters : Value} {primary : Dialect}

/-- The text of a region becomes what the region's replacements make of it. -/
theorem convertPart_eq (content : Text) (region : SqlRegion) :
    convertPart engine adapters primary content region =
      (regionReplacements engine adapters primary region.masked).map fun found =>
        replaceCalls (Text.slice content region.start region.stop) (longestFirst found) := by
  unfold convertPart regionReplacements
  rcases engine.parse region.masked primary with fault | _ | tree
  · rfl
  · rfl
  · cases hcalls : findCalls tree primary with
    | error fault => simp only [hcalls, bind, Except.bind, Except.map]
    | ok calls =>
      cases hfound : replacements adapters primary calls with
      | error fault => simp only [hcalls, hfound, bind, Except.bind, Except.map]
      | ok found =>
        simp only [hcalls, hfound, bind, Except.bind, Except.map, pure, Except.pure]
        split
        next hempty =>
          rw [List.isEmpty_iff.mp hempty]
          rfl
        next => rfl

/-- Converting the text of a region fails when converting the region in the untouched text does. -/
theorem convertPart_error_iff (content : Text) (region : SqlRegion) :
    (∃ fault, convertPart engine adapters primary content region = .error fault) ↔
      ∃ fault, convertRegion engine adapters primary ⟨content, 0⟩ region = .error fault := by
  rw [convertPart_eq, convertRegion]
  cases regionReplacements engine adapters primary region.masked with
  | error fault => exact ⟨fun _ => ⟨fault, rfl⟩, fun _ => ⟨fault, rfl⟩⟩
  | ok found =>
    simp only [bind, Except.bind, Except.map, pure, Except.pure]
    constructor
    · rintro ⟨fault, hfault⟩
      cases hfault
    · rintro ⟨fault, hfault⟩
      split at hfault
      · cases hfault
      · split at hfault <;> cases hfault

/-! ## One region after the other -/

/-- The draft in which what stands before a position has become `done`. -/
def draftAt (content done : Text) (first : Nat) : Draft :=
  ⟨done ++ content.drop first, (done.length : Int) - first⟩

/-- A draft is the same draft at a later position, if what is passed over stays as it is. -/
theorem draftAt_advance {content : Text} (done : Text) {first last : Nat} (hfirst : first ≤ last)
    (hlast : last ≤ content.length) :
    draftAt content (done ++ Text.slice content first last) last = draftAt content done first := by
  unfold draftAt
  rw [List.append_assoc, ← Text.drop_eq_slice_append hfirst hlast, List.length_append,
    Text.length_slice hfirst hlast, Draft.mk.injEq]
  refine ⟨rfl, ?_⟩
  omega

/-- Converting a region in a draft converts the text that the region had from the start, and leaves
alone what stands before it and after it. -/
theorem convertRegion_draftAt {content masked : Text} (done : Text) {first start stop : Nat}
    (hfirst : first ≤ start) (hstart : start ≤ stop) (hstop : stop ≤ content.length) :
    convertRegion engine adapters primary (draftAt content done first) ⟨start, stop, masked⟩ =
      (convertPart engine adapters primary content ⟨start, stop, masked⟩).map fun part =>
        draftAt content (done ++ Text.slice content first start ++ part) stop := by
  rw [convertPart_eq, ← draftAt_advance done hfirst (by omega)]
  generalize done ++ Text.slice content first start = before
  have hbegin : (start : Int) + (draftAt content before start).offset = before.length := by
    show (start : Int) + (before.length - start) = before.length
    omega
  have hend : (stop : Int) + (draftAt content before start).offset =
      (before ++ Text.slice content start stop).length := by
    rw [List.length_append, Text.length_slice hstart hstop]
    show (stop : Int) + (before.length - start) = _
    omega
  have hkept := draftAt_advance before hstart hstop
  have hcontent : (draftAt content before start).content =
      before ++ Text.slice content start stop ++ content.drop stop := by
    rw [draftAt, List.append_assoc, ← Text.drop_eq_slice_append hstart hstop]
  unfold convertRegion
  cases regionReplacements engine adapters primary masked with
  | error fault => rfl
  | ok found =>
    simp only [bind, Except.bind, Except.map, pure, Except.pure, hbegin, hend, hcontent,
      Text.slice_append]
    -- a region that stays as it is leaves the draft alone, which is the draft at the region's end
    split
    next hempty =>
      rw [List.isEmpty_iff.mp hempty, ← hkept]
      rfl
    next =>
      split
      next hsame => rw [beq_iff_eq.mp hsame, hkept]
      next =>
        rw [Text.position_append, List.drop_left, List.append_assoc before,
          Text.position_append, List.take_left]
        refine congrArg Except.ok ((Draft.mk.injEq ..).mpr ⟨rfl, ?_⟩)
        have hlength := Text.length_slice hstart hstop
        rw [List.length_append]
        show (before.length - start : Int) + _ = _
        omega

/-- Converting the regions of a draft converts each of them on its own, and the draft has gained
what its text has. -/
theorem foldlM_convertRegion {content : Text} {regions : List SqlRegion} (done : Text) {first : Nat}
    (hregions : AscendFrom first content.length regions) :
    regions.foldlM (convertRegion engine adapters primary) (draftAt content done first) =
      (regions.mapM (convertPart engine adapters primary content)).map fun parts =>
        draftAt content (done ++ spliced content first regions parts) content.length := by
  induction regions generalizing done first with
  | nil =>
    have hfirst : first ≤ content.length := by
      have hle : (first : Int) ≤ content.length := hregions
      omega
    exact congrArg Except.ok (draftAt_advance done hfirst (Nat.le_refl _)).symm
  | cons region regions ih =>
    obtain ⟨start, stop, masked⟩ := region
    obtain ⟨hfirst, hstart, hrest⟩ := hregions
    have hstop := hrest.le
    dsimp only at hfirst hstart hstop hrest
    obtain ⟨start, rfl⟩ := Int.eq_ofNat_of_zero_le (a := start) (by omega)
    obtain ⟨stop, rfl⟩ := Int.eq_ofNat_of_zero_le (a := stop) (by omega)
    rw [List.foldlM_cons, List.mapM_cons,
      convertRegion_draftAt done (by omega) (by omega) (by omega)]
    cases convertPart engine adapters primary content ⟨start, stop, masked⟩ with
    | error fault => rfl
    | ok part =>
      refine (ih _ hrest).trans ?_
      simp only [bind, Except.bind, pure, Except.pure]
      cases regions.mapM (convertPart engine adapters primary content) with
      | error fault => rfl
      | ok parts => simp only [Except.map, spliced, List.append_assoc]

end Splicing

/-- Two calls in regions of their own, and a region that is not SQL. -/
def threeRegions : List SqlRegion :=
  [⟨7, 22, "COLLECT_LIST(x)".toList⟩, ⟨24, 39, "collect_list(x)".toList⟩,
    ⟨40, 48, "FROM a, ".toList⟩]

end Model

end PortableSql
