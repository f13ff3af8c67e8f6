import Mathlib.Data.List.Infix
import PortableSql.Template.Region

/-!
# The groups of tokens and their regions

Tokens of whatever kinds, in whatever order, split into groups in exactly one way: a piece of text,
a token that belongs to nothing, or a tag, which goes on until the next token that closes any tag or
until the last token. The regions are those of the texts and tags. A region starts where the values
of all tokens before its group end, so what is said here of one group holds of a whole list by
adding up lengths. The only thing that can go wrong is a value without a length, wherever it stands.
-/

namespace PortableSql.Template

open Text

/-! ## Splitting -/

/-- The tokens of a group. -/
def Group.tokens : Group → List Token
  | .data token => [token]
  | .tag _ tokens => tokens
  | .loose token => [token]

/-- The groups hold all tokens in their order, after those of the tag that is open. -/
theorem flatMap_tokens_groupsFrom (state : Option (TagKind × List Token)) (tokens : List Token) :
    (groupsFrom state tokens).flatMap Group.tokens =
      (state.elim [] fun tag => tag.2.reverse) ++ tokens := by
  fun_induction groupsFrom state tokens with
  | case1 => rfl
  | case2 kind seen => simp [Group.tokens]
  | case3 kind seen token tokens hclose ih => simp [Group.tokens, ih]
  | case4 kind seen token tokens hclose ih => simp [ih]
  | case5 token tokens hdata ih => simp [Group.tokens, ih]
  | case6 token tokens hdata kind htag ih => simp [ih]
  | case7 token tokens hdata htag ih => simp [Group.tokens, ih]

/-- Symbols of a tag are added to it. -/
theorem groupsFrom_symbols (kind : TagKind) (seen : List Token) {tokens : List Token}
    (hinside : ∀ token ∈ tokens, token.closesTag = false) (rest : List Token) :
    groupsFrom (some (kind, seen)) (tokens ++ rest) =
      groupsFrom (some (kind, tokens.reverse ++ seen)) rest := by
  induction tokens generalizing seen with
  | nil => rfl
  | cons token tokens ih =>
    obtain ⟨htoken, hinside⟩ := List.forall_mem_cons.mp hinside
    rw [List.cons_append, groupsFrom, if_neg (by simp [htoken]), ih _ hinside]
    simp

/-- Groups that a list of tokens splits into. -/
inductive IsSplit : List Token → List Group → Prop
  | nil : IsSplit [] []
  /-- A text is a group by itself. -/
  | data {token : Token} {rest : List Token} {groups : List Group} (hkind : token.kind = .data)
      (hrest : IsSplit rest groups) : IsSplit (token :: rest) (.data token :: groups)
  /-- So is another token, unless it opens a tag. -/
  | loose {token : Token} {rest : List Token} {groups : List Group} (hkind : token.kind ≠ .data)
      (hopens : token.tagKind? = none) (hrest : IsSplit rest groups) :
      IsSplit (token :: rest) (.loose token :: groups)
  /-- A tag goes on through the first token that closes one. -/
  | tag {kind : TagKind} {opener closer : Token} {inside rest : List Token} {groups : List Group}
      (hopens : opener.tagKind? = some kind) (hinside : ∀ token ∈ inside, token.closesTag = false)
      (hcloses : closer.closesTag = true) (hrest : IsSplit rest groups) :
      IsSplit (opener :: (inside ++ closer :: rest))
        (.tag kind (opener :: (inside ++ [closer])) :: groups)
  /-- Without such a token it goes on to the end. -/
  | openTag {kind : TagKind} {opener : Token} {inside : List Token}
      (hopens : opener.tagKind? = some kind)
      (hinside : ∀ token ∈ inside, token.closesTag = false) :
      IsSplit (opener :: inside) [.tag kind (opener :: inside)]

/-- A token that opens a tag is no text. -/
theorem groupsFrom_opener {opener : Token} {kind : TagKind}
    (hopens : opener.tagKind? = some kind) (rest : List Token) :
    groupsFrom none (opener :: rest) = groupsFrom (some (kind, [opener])) rest := by
  have hdata : opener.kind ≠ .data := by
    intro hdata
    simp [Token.tagKind?, hdata] at hopens
  simp [groupsFrom, hdata, hopens]

/-- Whatever a list splits into are its groups. -/
theorem IsSplit.groups_eq {tokens : List Token} {found : List Group}
    (hsplit : IsSplit tokens found) : groups tokens = found := by
  unfold groups
  induction hsplit with
  | nil => rfl
  | data hkind _ ih => simp [groupsFrom, hkind, ih]
  | loose hkind hopens _ ih => simp [groupsFrom, hkind, hopens, ih]
  | tag hopens hinside hcloses _ ih =>
    rw [groupsFrom_opener hopens, groupsFrom_symbols _ _ hinside, groupsFrom, if_pos hcloses, ih]
    simp
  | @openTag kind opener inside hopens hinside =>
    have hend := groupsFrom_symbols kind [opener] hinside []
    rw [List.append_nil] at hend
    rw [groupsFrom_opener hopens, hend, groupsFrom]
    simp

/-- The tokens that have been read of a tag that is still open, if there is one. -/
def IsPending : Option (TagKind × List Token) → List Token → Prop
  | none, seen => seen = []
  | some tag, seen => ∃ opener inside, seen = opener :: inside ∧ tag.2 = seen.reverse ∧
      opener.tagKind? = some tag.1 ∧ ∀ token ∈ inside, token.closesTag = false

/-- A list splits into its groups, also in the middle of a tag. -/
theorem IsPending.isSplit {state : Option (TagKind × List Token)} {seen : List Token}
    (hpending : IsPending state seen) (tokens : List Token) :
    IsSplit (seen ++ tokens) (groupsFrom state tokens) := by
  fun_induction groupsFrom state tokens generalizing seen with
  | case1 =>
    obtain rfl := hpending
    exact .nil
  | case2 kind seen' =>
    obtain ⟨opener, inside, rfl, rfl, hopens, hinside⟩ := hpending
    rw [List.append_nil, List.reverse_reverse]
    exact .openTag hopens hinside
  | case3 kind seen' token tokens hcloses ih =>
    obtain ⟨opener, inside, rfl, rfl, hopens, hinside⟩ := hpending
    have hrest := IsSplit.tag hopens hinside hcloses (ih rfl)
    simpa using hrest
  | case4 kind seen' token tokens hcloses ih =>
    obtain ⟨opener, inside, rfl, rfl, hopens, hinside⟩ := hpending
    -- The token belongs to the tag, since it closes none.
    have hmore : IsPending (some (kind, token :: (opener :: inside).reverse))
        (opener :: (inside ++ [token])) := by
      refine ⟨opener, inside ++ [token], rfl, by simp, hopens, ?_⟩
      intro other hother
      rcases List.mem_append.mp hother with hother | hother
      · exact hinside other hother
      · rw [List.mem_singleton.mp hother]
        simpa using hcloses
    simpa using ih hmore
  | case5 token tokens hdata ih =>
    obtain rfl := hpending
    exact .data (by simpa using hdata) (ih rfl)
  | case6 token tokens hdata kind hopens ih =>
    obtain rfl := hpending
    exact ih ⟨token, [], rfl, rfl, hopens, by simp⟩
  | case7 token tokens hdata hopens ih =>
    obtain rfl := hpending
    exact .loose (by simpa using hdata) hopens (ih rfl)

/-- The groups of a list are the only ones that it splits into. -/
theorem isSplit_iff {tokens : List Token} {found : List Group} :
    IsSplit tokens found ↔ found = groups tokens := by
  constructor
  · intro hsplit
    exact hsplit.groups_eq.symm
  · rintro rfl
    have hnone : IsPending none [] := rfl
    exact hnone.isSplit tokens

/-! ## Lengths -/

/-- Tokens whose values are all texts. -/
def AreTexts (tokens : List Token) : Prop :=
  ∀ token ∈ tokens, ∃ chars, token.value = .text chars

/-- Tokens are texts if the first one is and the others are. -/
theorem areTexts_cons {token : Token} {tokens : List Token} :
    AreTexts (token :: tokens) ↔ (∃ chars, token.value = .text chars) ∧ AreTexts tokens :=
  List.forall_mem_cons

/-- Tokens of two lists are texts if those of each list are. -/
theorem areTexts_append {first second : List Token} :
    AreTexts (first ++ second) ↔ AreTexts first ∧ AreTexts second :=
  List.forall_mem_append

/-- The values of tokens, one after the other. -/
def textOf (tokens : List Token) : Text :=
  tokens.flatMap fun token => token.value.chars

/-- No value is a list of texts: it is a text, or it has no length. -/
def HaveNoParts (tokens : List Token) : Prop :=
  ∀ token ∈ tokens, ∀ items, token.value ≠ .parts items

/-- Tokens of two lists have no parts if those of each list have none. -/
theorem haveNoParts_append {first second : List Token} :
    HaveNoParts (first ++ second) ↔ HaveNoParts first ∧ HaveNoParts second :=
  List.forall_mem_append

/-- The lengths of two lists of tokens add up, and the first fault counts. -/
theorem totalLength_append (first second : List Token) :
    totalLength (first ++ second) =
      (totalLength first >>= fun n => totalLength second >>= fun m => pure (n + m)) := by
  induction first with
  | nil =>
    rw [List.nil_append, totalLength]
    cases totalLength second <;> simp [bind, Except.bind, pure, Except.pure]
  | cons token first ih =>
    rw [List.cons_append, totalLength, totalLength, ih]
    cases token.value.length with
    | error fault => rfl
    | ok n =>
      cases totalLength first with
      | error fault => rfl
      | ok m =>
        cases totalLength second <;> simp [bind, Except.bind, pure, Except.pure, Nat.add_assoc]

/-- The length of texts. -/
theorem AreTexts.totalLength_eq {tokens : List Token} (htexts : AreTexts tokens) :
    totalLength tokens = .ok (textOf tokens).length := by
  induction tokens with
  | nil => rfl
  | cons token tokens ih =>
    obtain ⟨⟨chars, hvalue⟩, hothers⟩ := areTexts_cons.mp htexts
    rw [totalLength, hvalue, ih hothers]
    simp [textOf, hvalue, Lexeme.chars, Lexeme.length, bind, Except.bind, pure, Except.pure]

/-- The first value without a length is what goes wrong. -/
theorem AreTexts.totalLength_unmeasured {before : List Token} (hbefore : AreTexts before)
    {token : Token} {kind : ValueKind} (hvalue : token.value = .unmeasured kind)
    (after : List Token) :
    totalLength (before ++ token :: after) = .error (.unmeasured kind) := by
  rw [totalLength_append, hbefore.totalLength_eq, totalLength, hvalue]
  rfl

/-- Tokens that are not all texts start with some texts and a value without a length. -/
theorem HaveNoParts.cases {tokens : List Token} (hparts : HaveNoParts tokens) :
    AreTexts tokens ∨ ∃ before token after kind, tokens = before ++ token :: after ∧
      AreTexts before ∧ token.value = .unmeasured kind := by
  induction tokens with
  | nil => exact .inl (by simp [AreTexts])
  | cons token tokens ih =>
    obtain ⟨hhere, hothers⟩ := List.forall_mem_cons.mp hparts
    cases hvalue : token.value with
    | parts items => exact absurd hvalue (hhere items)
    | unmeasured kind => exact .inr ⟨[], token, tokens, kind, rfl, by simp [AreTexts], hvalue⟩
    | text chars =>
      rcases ih hothers with htexts | ⟨before, other, after, kind, rfl, hbefore, hkind⟩
      · exact .inl (areTexts_cons.mpr ⟨⟨chars, hvalue⟩, htexts⟩)
      · exact .inr ⟨token :: before, other, after, kind, rfl,
          areTexts_cons.mpr ⟨⟨chars, hvalue⟩, hbefore⟩, hkind⟩

/-- Texts are what has a total length. -/
theorem HaveNoParts.totalLength_ok_iff {tokens : List Token} (hparts : HaveNoParts tokens) :
    (∃ n, totalLength tokens = .ok n) ↔ AreTexts tokens := by
  rcases hparts.cases with htexts | ⟨before, token, after, kind, rfl, hbefore, hvalue⟩
  · exact iff_of_true ⟨_, htexts.totalLength_eq⟩ htexts
  · refine iff_of_false (by simp [hbefore.totalLength_unmeasured hvalue]) fun htexts => ?_
    obtain ⟨chars, htext⟩ := htexts token (by simp)
    simp [htext] at hvalue

/-! ## Regions -/

/-- The first name among tokens. -/
def firstName? (tokens : List Token) : Option Text :=
  (tokens.find? fun token => token.kind == .name).map fun token => token.value.chars

/-- What a tag is, by the first name in it. -/
def TagKind.regionKind (kind : TagKind) (tokens : List Token) : RegionKind :=
  match kind with
  | .expression =>
    if ∃ name ∈ safeNames, firstName? tokens = some name.toList then .safeExpression else .complex
  | .statement =>
    if ∃ name ∈ controlKeywords, firstName? tokens = some name.toList then .controlFlow
    else .complex

/-- What a group is to the reader of SQL, if it is a region. -/
def Group.regionKind? : Group → Option RegionKind
  | .data _ => some .static
  | .tag kind tokens => some (kind.regionKind tokens)
  | .loose _ => none

/-- The region of a group that starts at the given place. -/
def Group.region? (start : Nat) (group : Group) : Option Region :=
  group.regionKind?.map fun kind =>
    ⟨start, start + (textOf group.tokens).length, kind, .text (textOf group.tokens)⟩

/-- The regions of groups, of which the first starts at the given place. Each group is taken with
the groups before it, and starts where these end. -/
def regionsAt (start : Nat) (groups : List Group) : List Region :=
  (groups.inits.zip groups).filterMap fun place =>
    place.2.region? (start + (textOf (place.1.flatMap Group.tokens)).length)

/-- The region of the first group comes first, and those of the others start after its text. -/
theorem regionsAt_cons (start : Nat) (group : Group) (groups : List Group) :
    regionsAt start (group :: groups) = (group.region? start).toList ++
      regionsAt (start + (textOf group.tokens).length) groups := by
  have hlater : ((groups.inits.map (group :: ·)).zip groups).filterMap (fun place =>
      place.2.region? (start + (textOf (place.1.flatMap Group.tokens)).length)) =
        regionsAt (start + (textOf group.tokens).length) groups := by
    rw [List.zip_map_left, List.filterMap_map]
    refine List.filterMap_congr fun place _ => ?_
    simp [textOf, Nat.add_assoc]
  have hhere : group.region? (start + (textOf (([] : List Group).flatMap Group.tokens)).length) =
      group.region? start := rfl
  rw [regionsAt, List.inits_cons, List.zip_cons_cons, List.filterMap_cons, hhere, hlater]
  cases group.region? start <;> rfl

/-- Whether the first name is a known one. -/
theorem AreTexts.startsWithName_eq {tokens : List Token} (htexts : AreTexts tokens)
    (names : List String) : startsWithName names tokens =
      .ok (names.any fun name => firstName? tokens == some name.toList) := by
  induction tokens with
  | nil => simp [startsWithName, firstName?]
  | cons token tokens ih =>
    obtain ⟨⟨chars, hvalue⟩, hothers⟩ := areTexts_cons.mp htexts
    rw [startsWithName, hvalue]
    by_cases hname : token.kind = .name
    · have hfirst : firstName? (token :: tokens) = some chars := by
        simp [firstName?, hname, hvalue, Lexeme.chars]
      have hsame (name : String) :
          (name.toList == chars) = (some chars == some name.toList) := by
        rw [Bool.eq_iff_iff, beq_iff_eq, beq_iff_eq, Option.some.injEq, eq_comm]
      simp only [hname, beq_self_eq_true, if_true, hfirst, hsame]
    · have hnot : (token.kind == .name) = false := by simpa using hname
      have hfirst : firstName? (token :: tokens) = firstName? tokens := by
        simp [firstName?, hnot]
      rw [if_neg (by simpa using hname), hfirst, ih hothers]

/-- What a tag of texts is. -/
theorem AreTexts.classify_eq {tokens : List Token} (htexts : AreTexts tokens) (kind : TagKind) :
    classify kind tokens = .ok (kind.regionKind tokens) := by
  cases kind with
  | expression =>
    rw [classify, isSafeExpression, htexts.startsWithName_eq]
    simp [TagKind.regionKind, bind, Except.bind, pure, Except.pure]
  | statement =>
    rw [classify, isControlFlow, htexts.startsWithName_eq]
    simp [TagKind.regionKind, bind, Except.bind, pure, Except.pure]

/-- Tokens that are texts are concatenated to their text. -/
theorem AreTexts.concatFrom_eq {tokens : List Token} (htexts : AreTexts tokens) (index : Nat) :
    concatFrom index tokens = .ok (textOf tokens) := by
  induction tokens generalizing index with
  | nil => rfl
  | cons token tokens ih =>
    obtain ⟨⟨chars, hvalue⟩, hothers⟩ := areTexts_cons.mp htexts
    rw [concatFrom, hvalue]
    simp [ih hothers, Except.map, textOf, hvalue, Lexeme.chars]

/-- One group of texts: its region comes first, and the others start after it. -/
theorem AreTexts.regionsFrom_cons {group : Group} (htexts : AreTexts group.tokens) (start : Nat)
    (groups : List Group) : regionsFrom start (group :: groups) =
      (regionsFrom (start + (textOf group.tokens).length) groups).map
        ((group.region? start).toList ++ ·) := by
  cases group with
  | data token =>
    obtain ⟨chars, hvalue⟩ := htexts token List.mem_cons_self
    have htext : textOf [token] = chars := by simp [textOf, hvalue, Lexeme.chars]
    have hhere : regionsFrom start (.data token :: groups) =
        (regionsFrom (start + chars.length) groups >>= fun regions =>
          pure (⟨start, start + chars.length, .static, .text chars⟩ :: regions)) := by
      rw [regionsFrom, hvalue]
      rfl
    rw [hhere, Group.tokens, Group.region?, Group.tokens, htext]
    cases regionsFrom (start + chars.length) groups <;> rfl
  | tag kind tokens =>
    replace htexts : AreTexts tokens := htexts
    have hhere : regionsFrom start (.tag kind tokens :: groups) =
        (regionsFrom (start + (textOf tokens).length) groups >>= fun regions =>
          pure (⟨start, start + (textOf tokens).length, kind.regionKind tokens,
            .text (textOf tokens)⟩ :: regions)) := by
      rw [regionsFrom, htexts.totalLength_eq, htexts.classify_eq, htexts.concatFrom_eq]
      rfl
    rw [hhere, Group.tokens, Group.region?, Group.tokens]
    cases regionsFrom (start + (textOf tokens).length) groups <;> rfl
  | loose token =>
    obtain ⟨chars, hvalue⟩ := htexts token List.mem_cons_self
    have htext : textOf [token] = chars := by simp [textOf, hvalue, Lexeme.chars]
    have hhere : regionsFrom start (.loose token :: groups) =
        regionsFrom (start + chars.length) groups := by
      rw [regionsFrom, hvalue]
      rfl
    rw [hhere, Group.tokens, htext]
    cases regionsFrom (start + chars.length) groups <;> rfl

/-- Every fault of a group is one of its length, which is taken first. -/
theorem regionsFrom_cons_error {group : Group} {fault : Fault}
    (hfault : totalLength group.tokens = .error fault) (start : Nat) (groups : List Group) :
    regionsFrom start (group :: groups) = .error fault := by
  have hsingle {token : Token} (htotal : totalLength [token] = .error fault) :
      token.value.length = .error fault := by
    rw [totalLength] at htotal
    cases hlength : token.value.length with
    | error other => simpa [hlength, bind, Except.bind] using htotal
    | ok n => simp [hlength, totalLength, bind, Except.bind, pure, Except.pure] at htotal
  cases group with
  | data token => rw [regionsFrom, hsingle hfault]; rfl
  | tag kind tokens =>
    have htotal : totalLength tokens = .error fault := hfault
    rw [regionsFrom, htotal]
    rfl
  | loose token => rw [regionsFrom, hsingle hfault]; rfl

/-- The regions of groups are told exactly if the length of all values is. -/
theorem regionsFrom_eq {groups : List Group} (hparts : HaveNoParts (groups.flatMap Group.tokens))
    (start : Nat) : regionsFrom start groups =
      (totalLength (groups.flatMap Group.tokens)).map fun _ => regionsAt start groups := by
  induction groups generalizing start with
  | nil => rfl
  | cons group groups ih =>
    rw [List.flatMap_cons] at hparts ⊢
    obtain ⟨hhere, hothers⟩ := haveNoParts_append.mp hparts
    rw [totalLength_append]
    rcases hhere.cases with htexts | ⟨before, token, after, kind, hsplit, hbefore, hvalue⟩
    · rw [htexts.regionsFrom_cons, ih hothers, htexts.totalLength_eq, regionsAt_cons]
      cases totalLength (groups.flatMap Group.tokens) <;> rfl
    · have hfault : totalLength group.tokens = .error (.unmeasured kind) := by
        rw [hsplit]
        exact hbefore.totalLength_unmeasured hvalue after
      rw [regionsFrom_cons_error hfault, hfault]
      rfl

/-- The regions of any tokens. There is exactly one way to split them into groups, and if there are
regions, they are those of the groups that are texts or tags, each with the values of its group as
its content and at the end of all values before it. There are none exactly if some value has no
length, and then the fault is that of the first such value. -/
theorem regions_of_only_split {tokens : List Token} (hparts : HaveNoParts tokens) :
    (∃ found, (∀ others, IsSplit tokens others ↔ others = found) ∧
      ∀ regions, regionsOfTokens tokens = .ok regions → regions = regionsAt 0 found) ∧
    ((∃ fault, regionsOfTokens tokens = .error fault) ↔
      ∃ token ∈ tokens, ∃ kind, token.value = .unmeasured kind) ∧
    ∀ before token after kind, tokens = before ++ token :: after → AreTexts before →
      token.value = .unmeasured kind → regionsOfTokens tokens = .error (.unmeasured kind) := by
  have hflat : (groups tokens).flatMap Group.tokens = tokens :=
    flatMap_tokens_groupsFrom none tokens
  have hregions : regionsOfTokens tokens =
      (totalLength tokens).map fun _ => regionsAt 0 (groups tokens) := by
    rw [regionsOfTokens, regionsFrom_eq (by rwa [hflat]), hflat]
  have hfirst : ∀ before token after kind, tokens = before ++ token :: after → AreTexts before →
      token.value = .unmeasured kind → regionsOfTokens tokens = .error (.unmeasured kind) := by
    rintro before token after kind rfl hbefore hvalue
    rw [hregions, hbefore.totalLength_unmeasured hvalue]
    rfl
  refine ⟨⟨groups tokens, fun others => isSplit_iff, fun regions hok => ?_⟩, ?_, hfirst⟩
  · rw [hregions] at hok
    cases htotal : totalLength tokens with
    | error fault => simp [htotal, Except.map] at hok
    | ok n => simpa [htotal, Except.map, eq_comm] using hok
  · rcases hparts.cases with htexts | ⟨before, token, after, kind, hsplit, hbefore, hvalue⟩
    · refine iff_of_false ?_ ?_
      · simp [hregions, htexts.totalLength_eq, Except.map]
      · rintro ⟨token, htoken, kind, hvalue⟩
        obtain ⟨chars, htext⟩ := htexts token htoken
        simp [htext] at hvalue
    · refine iff_of_true ⟨_, hfirst before token after kind hsplit hbefore hvalue⟩ ?_
      exact ⟨token, by simp [hsplit], kind, hvalue⟩

/-- A closer that closes nothing, a tag that opens another one and is closed by a delimiter of the
other kind, a name outside of tags, and a tag without a name and without an end. One more token, a
numeral, spoils all of it. -/
theorem regions_of_only_split_stray :
    let tokens : List Token := [.ofText .variableEnd "\x7d\x7d".toList, .ofText .data "a ".toList,
      .ofText .variableBegin "\x7b\x7b".toList, .ofText .name "ref".toList,
      .ofText .blockBegin "\x7b%".toList, .ofText .blockEnd "%\x7d".toList,
      .ofText .name "x".toList, .ofText .blockBegin "\x7b%".toList, .ofText .string "if".toList]
    HaveNoParts tokens ∧
      (∃ found, IsSplit tokens found ∧ regionsAt 0 found = [
        ⟨2, 4, .static, .text "a ".toList⟩,
        ⟨4, 13, .safeExpression, .text "\x7b\x7bref\x7b%%\x7d".toList⟩,
        ⟨14, 18, .complex, .text "\x7b%if".toList⟩]) ∧
      regionsOfTokens (tokens ++ [⟨.integer, .unmeasured .integer⟩]) =
        .error (.unmeasured .integer) := by
  intro tokens
  have htexts : AreTexts tokens := by simp [tokens, AreTexts, Token.ofText]
  have hparts : HaveNoParts tokens := by simp [tokens, HaveNoParts, Token.ofText]
  obtain ⟨⟨found, hsplit, hregions⟩, -⟩ := regions_of_only_split hparts
  refine ⟨hparts, ⟨found, (hsplit found).mpr rfl, (hregions _ (by decide)).symm⟩, ?_⟩
  have hlonger : HaveNoParts (tokens ++ [⟨.integer, .unmeasured .integer⟩]) :=
    haveNoParts_append.mpr ⟨hparts, by simp [HaveNoParts]⟩
  exact (regions_of_only_split hlonger).2.2 tokens _ [] .integer rfl htexts rfl

end PortableSql.Template
