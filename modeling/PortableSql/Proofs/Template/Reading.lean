import PortableSql.Proofs.Computation
import PortableSql.Proofs.Template.Grouping

/-!
# What the reader of templates makes of a text

One step of the reader stays in text, opens a tag, closes it or reads symbols of it. So the tokens
of a tag form one group, and all tokens but numerals have texts as their values. Two things follow.
The regions of a template can be told exactly if there is no numeral in its tags. And a template
that calls a macro of the library in an expression tag has a complex region.
-/

namespace PortableSql.Template

open Text

/-! ## Steps -/

/-- The token is a number. -/
def Token.isNumeral (token : Token) : Bool :=
  token.kind == .integer || token.kind == .float

/-- The value of a numeral has no length, and that of any other token is a text. -/
def Token.IsRead (token : Token) : Prop :=
  if token.isNumeral then ∃ kind, token.value = .unmeasured kind
  else ∃ chars, token.value = .text chars

/-- A token that is no numeral is read as its text. -/
theorem isRead_ofText {kind : TokenKind} (chars : Text) (hinteger : kind ≠ .integer)
    (hfloat : kind ≠ .float) : (Token.ofText kind chars).IsRead := by
  simp [Token.IsRead, Token.isNumeral, Token.ofText, hinteger, hfloat]

/-- The tag that the reader stands in. -/
def Mode.tagKind? : Mode → Option TagKind
  | .tag kind _ _ => some kind
  | _ => none

/-- What a step can do, by the tags before and after it and the tokens it finds. -/
inductive Turn : Option TagKind → List Token → Option TagKind → Prop
  /-- No tag begins. -/
  | stay {tokens : List Token} (hdata : ∀ token ∈ tokens, ∃ chars, token = .ofText .data chars) :
      Turn none tokens none
  /-- A tag begins, maybe after some text. -/
  | enter (kind : TagKind) {tokens : List Token} (chars : Text)
      (hdata : ∀ token ∈ tokens, ∃ chars, token = .ofText .data chars) :
      Turn none (tokens ++ [.ofText kind.opener chars]) (some kind)
  /-- The tag ends. -/
  | leave (kind : TagKind) (chars : Text) : Turn (some kind) [.ofText kind.closer chars] none
  /-- Symbols of the tag are read. -/
  | symbols (kind : TagKind) {tokens : List Token}
      (hinside : ∀ token ∈ tokens, token.IsRead ∧ token.closesTag = false) :
      Turn (some kind) tokens (some kind)

/-- Text outside of tags is read as data. -/
theorem mem_dataTokens {pending : Text} {sign : Option Char} :
    ∀ token ∈ dataTokens pending sign, ∃ chars, token = .ofText .data chars := by
  intro token htoken
  simp only [dataTokens] at htoken
  generalize (if sign == some '-' then _ else _ : Text) = chars at htoken
  split at htoken
  · cases htoken
  · exact ⟨chars, List.mem_singleton.mp htoken⟩

/-- From text, an opening leads into a tag or back to text. -/
theorem turn_of_opening? {pending t : Text} {step : Step} (hstep : opening? pending t = some step) :
    Turn none step.tokens step.mode.tagKind? := by
  unfold opening? at hstep
  split at hstep
  · obtain rfl := Option.some.inj hstep
    exact .stay mem_dataTokens
  · split at hstep
    · obtain rfl := Option.some.inj hstep
      exact .enter .expression _ mem_dataTokens
    · split at hstep
      · obtain rfl := Option.some.inj hstep
        exact .enter .statement _ mem_dataTokens
      · split at hstep
        · obtain rfl := Option.some.inj hstep
          exact .stay mem_dataTokens
        · cases hstep

/-- A symbol stays in its tag or closes it. -/
theorem turn_of_symbol? {kind : TagKind} {expected t : Text} {afterPoint : Bool} {step : Step}
    (hstep : symbol? kind expected afterPoint t = some step) :
    Turn (some kind) step.tokens step.mode.tagKind? := by
  have hone {token : Token} (hread : token.IsRead) (hopen : token.closesTag = false) :
      Turn (some kind) [token] (some kind) :=
    .symbols kind (by simpa using ⟨hread, hopen⟩)
  simp only [symbol?] at hstep
  split at hstep
  · obtain rfl := Option.some.inj hstep
    exact .symbols kind (by simp)
  · split at hstep
    · split at hstep
      · obtain rfl := Option.some.inj hstep
        exact hone ⟨.float, rfl⟩ rfl
      · cases hstep
    · split at hstep
      · split at hstep
        · obtain rfl := Option.some.inj hstep
          exact hone ⟨.integer, rfl⟩ rfl
        · cases hstep
      · split at hstep
        · split at hstep
          · obtain rfl := Option.some.inj hstep
            exact hone (isRead_ofText _ (by simp) (by simp)) rfl
          · cases hstep
        · split at hstep
          · obtain ⟨inside, -, rfl⟩ := Option.map_eq_some_iff.mp hstep
            exact hone (isRead_ofText _ (by simp) (by simp)) rfl
          · split at hstep
            · obtain ⟨rest, -, rfl⟩ := Option.map_eq_some_iff.mp hstep
              exact hone (isRead_ofText _ (by simp) (by simp)) rfl
            · cases hstep

/-- All that a step of the reader can do. -/
theorem turn_of_step? {mode : Mode} {c : Char} {cs : Text} {step : Step}
    (hstep : step? mode c cs = some step) :
    Turn mode.tagKind? step.tokens step.mode.tagKind? := by
  cases mode with
  | text pending =>
    simp only [step?, Option.some.injEq] at hstep
    cases hopening : opening? pending (c :: cs) with
    | none =>
      rw [hopening, Option.getD_none] at hstep
      obtain rfl := hstep
      exact .stay (by simp)
    | some found =>
      rw [hopening, Option.getD_some] at hstep
      obtain rfl := hstep
      exact turn_of_opening? hopening
  | comment begun =>
    simp only [step?] at hstep
    split at hstep <;> obtain rfl := Option.some.inj hstep <;> exact .stay (by simp)
  | raw pending begun =>
    simp only [step?] at hstep
    split at hstep
    · obtain rfl := Option.some.inj hstep
      exact .stay mem_dataTokens
    · obtain rfl := Option.some.inj hstep
      exact .stay (by simp)
  | tag kind expected afterPoint =>
    simp only [step?, inTag?] at hstep
    split at hstep
    · obtain rfl := Option.some.inj hstep
      exact .leave kind _
    · exact turn_of_symbol? hstep

/-- The end of a template changes no tag. -/
theorem turn_of_finish? {mode : Mode} {tokens : List Token} (hfinish : finish? mode = some tokens) :
    Turn mode.tagKind? tokens mode.tagKind? := by
  cases mode with
  | text pending =>
    obtain rfl := Option.some.inj hfinish
    exact .stay mem_dataTokens
  | comment begun =>
    cases begun
    · obtain rfl := Option.some.inj hfinish
      exact .stay (by simp)
    · cases hfinish
  | raw pending begun =>
    cases begun
    · obtain rfl := Option.some.inj hfinish
      exact .stay (by simp)
    · cases hfinish
  | tag kind expected afterPoint =>
    obtain rfl := Option.some.inj hfinish
    exact .symbols kind (by simp)

/-- Every token that a step finds has the value that its kind says. -/
theorem Turn.isRead {before after : Option TagKind} {tokens : List Token}
    (hturn : Turn before tokens after) : ∀ token ∈ tokens, token.IsRead := by
  have hdata {texts : List Token} (htexts : ∀ token ∈ texts, ∃ chars, token = .ofText .data chars) :
      ∀ token ∈ texts, token.IsRead := by
    intro token htoken
    obtain ⟨chars, rfl⟩ := htexts token htoken
    exact isRead_ofText chars (by simp) (by simp)
  cases hturn with
  | stay htexts => exact hdata htexts
  | enter kind chars htexts =>
    intro token htoken
    rcases List.mem_append.mp htoken with htoken | htoken
    · exact hdata htexts token htoken
    · rw [List.mem_singleton.mp htoken]
      cases kind <;> exact isRead_ofText chars (by simp [TagKind.opener]) (by simp [TagKind.opener])
  | leave kind chars =>
    rw [List.forall_mem_singleton]
    cases kind <;> exact isRead_ofText chars (by simp [TagKind.closer]) (by simp [TagKind.closer])
  | symbols kind hinside => exact fun token htoken => (hinside token htoken).1

/-- Every token of a template has the value that its kind says. -/
theorem isRead_of_lexFrom {skip : Nat} {mode : Mode} {text : Text} {tokens : List Token}
    (hlex : lexFrom skip mode text = some tokens) : ∀ token ∈ tokens, token.IsRead := by
  fun_induction lexFrom skip mode text generalizing tokens with
  | case1 skip mode => exact (turn_of_finish? hlex).isRead
  | case2 skip mode c cs ih => exact ih hlex
  | case3 mode c cs hstep => cases hlex
  | case4 mode c cs step hstep ih =>
    obtain ⟨rest, hrest, rfl⟩ := Option.map_eq_some_iff.mp hlex
    intro token htoken
    rcases List.mem_append.mp htoken with htoken | htoken
    · exact (turn_of_step? hstep).isRead token htoken
    · exact ih hrest token htoken

/-! ## Groups -/

/-- The first group that follows an open tag is this tag. -/
theorem exists_tag_mem_groupsFrom (kind : TagKind) (seen tokens : List Token) :
    ∃ more, .tag kind (seen.reverse ++ more) ∈ groupsFrom (some (kind, seen)) tokens := by
  induction tokens generalizing seen with
  | nil => exact ⟨[], by simp [groupsFrom]⟩
  | cons token tokens ih =>
    rw [groupsFrom]
    split
    · exact ⟨[token], by simp⟩
    · obtain ⟨more, hmore⟩ := ih (token :: seen)
      exact ⟨token :: more, by simpa using hmore⟩

/-- Texts outside of tags are groups of their own. -/
theorem groupsFrom_data {texts : List Token}
    (htexts : ∀ token ∈ texts, ∃ chars, token = .ofText .data chars) (rest : List Token) :
    groupsFrom none (texts ++ rest) = texts.map .data ++ groupsFrom none rest := by
  induction texts with
  | nil => rfl
  | cons token texts ih =>
    obtain ⟨⟨chars, rfl⟩, hothers⟩ := List.forall_mem_cons.mp htexts
    rw [List.cons_append, groupsFrom, ih hothers]
    rfl

/-- After a step the groups go on with the tag that the reader then stands in. -/
theorem Turn.groups {before after : Option TagKind} {tokens : List Token}
    (hturn : Turn before tokens after) {state : Option (TagKind × List Token)}
    (hstate : state.map (·.1) = before) :
    ∃ next : Option (TagKind × List Token), next.map (·.1) = after ∧
      ∀ rest, groupsFrom next rest ⊆ groupsFrom state (tokens ++ rest) := by
  cases hturn with
  | stay htexts =>
    obtain rfl := Option.map_eq_none_iff.mp hstate
    refine ⟨none, rfl, fun rest group hgroup => ?_⟩
    rw [groupsFrom_data htexts]
    exact List.mem_append_right _ hgroup
  | enter kind chars htexts =>
    obtain rfl := Option.map_eq_none_iff.mp hstate
    refine ⟨some (kind, [.ofText kind.opener chars]), rfl, fun rest group hgroup => ?_⟩
    rw [List.append_assoc, groupsFrom_data htexts]
    refine List.mem_append_right _ ?_
    cases kind <;> exact hgroup
  | leave kind chars =>
    obtain ⟨⟨other, seen⟩, rfl, rfl⟩ := Option.map_eq_some_iff.mp hstate
    refine ⟨none, rfl, fun rest group hgroup => ?_⟩
    cases other <;> exact List.mem_cons_of_mem _ hgroup
  | symbols kind hinside =>
    obtain ⟨⟨other, seen⟩, rfl, rfl⟩ := Option.map_eq_some_iff.mp hstate
    refine ⟨some (other, tokens.reverse ++ seen), rfl, fun rest group hgroup => ?_⟩
    rwa [groupsFrom_symbols other seen fun token htoken => (hinside token htoken).2]

/-! ## Numerals -/

/-- There is a numeral in a tag of a template. -/
def hasNumeral (template : Text) : Bool :=
  (lex? template).any fun tokens => tokens.any Token.isNumeral

/-- A token that was read is no numeral exactly if its value is a text. -/
theorem Token.IsRead.isNumeral_iff {token : Token} (hread : token.IsRead) :
    token.isNumeral = false ↔ ∃ chars, token.value = .text chars := by
  unfold IsRead at hread
  cases hnumeral : token.isNumeral with
  | false => simpa [hnumeral] using hread
  | true =>
    rw [hnumeral, if_pos rfl] at hread
    obtain ⟨kind, hvalue⟩ := hread
    simp [hvalue]

/-- Tokens that were read have no parts. -/
theorem haveNoParts_of_isRead {tokens : List Token} (hread : ∀ token ∈ tokens, token.IsRead) :
    HaveNoParts tokens := by
  intro token htoken items hvalue
  have hhere := hread token htoken
  unfold Token.IsRead at hhere
  simp [hvalue] at hhere

/-- The regions of groups can be told if the values of their tokens are texts. -/
theorem regionsFrom_ok_iff {start : Nat} {groups : List Group}
    (hread : ∀ token ∈ groups.flatMap Group.tokens, token.IsRead) :
    (∃ regions, regionsFrom start groups = .ok regions) ↔
      AreTexts (groups.flatMap Group.tokens) := by
  have hparts := haveNoParts_of_isRead hread
  rw [regionsFrom_eq hparts, ← hparts.totalLength_ok_iff]
  cases totalLength (groups.flatMap Group.tokens) <;> simp [Except.map]

/-- The regions of a template can be told exactly if there is no numeral in its tags. -/
theorem regions_ok_iff (template : Text) :
    (∃ found, regions template = .ok found) ↔ hasNumeral template = false := by
  unfold regions hasNumeral
  cases hlex : lex? template with
  | none => simp
  | some tokens =>
    have hflat : (groups tokens).flatMap Group.tokens = tokens :=
      flatMap_tokens_groupsFrom none tokens
    have hread : ∀ token ∈ (groups tokens).flatMap Group.tokens, token.IsRead := by
      rw [hflat]
      exact isRead_of_lexFrom hlex
    have htexts : AreTexts tokens ↔ tokens.any Token.isNumeral = false := by
      rw [List.any_eq_false]
      rw [hflat] at hread
      refine forall₂_congr fun token htoken => ?_
      rw [← (hread token htoken).isNumeral_iff, Bool.not_eq_true]
    have hfound : (∃ found, regionsOfTokens tokens = .ok found) ↔ AreTexts tokens := by
      rw [regionsOfTokens, regionsFrom_ok_iff hread, hflat]
    rw [Option.any_some, ← htexts, ← hfound]
    constructor
    · rintro ⟨found, hregions⟩
      obtain ⟨first, hfirst, -⟩ := bind_eq_ok.mp hregions
      exact ⟨first, hfirst⟩
    · rintro ⟨found, hregions⟩
      simp only [hregions, bind, Except.bind]
      split <;> exact ⟨_, rfl⟩

/-! ## Calls of macros -/

/-- What the calls of the macros of the library start with. -/
def callStart : Text :=
  "\x7b\x7b portable_".toList

/-- The reader stands in text outside of tags. -/
def Mode.isText : Mode → Bool
  | .text _ => true
  | _ => false

/-- A call of a macro of the library starts in a text outside of tags, comments and raw blocks, from
a mode on. The count says how many characters of a piece are still to be passed over. -/
def opensCallFrom : Nat → Mode → Text → Bool
  | _, _, [] => false
  | skip + 1, mode, _ :: cs => opensCallFrom skip mode cs
  | 0, mode, c :: cs =>
    mode.isText && callStart.isPrefixOf (c :: cs) ||
      match step? mode c cs with
      | none => false
      | some step => opensCallFrom (step.length - 1) step.mode cs

/-- A call of a macro of the library is an expression of a template. -/
def opensCall (template : Text) : Bool :=
  opensCallFrom 0 (.text []) (source template)

/-- The tokens of a text that starts with such a call. -/
theorem lexFrom_callStart {pending rest : Text} {tokens : List Token}
    (hlex : lexFrom 0 (.text pending) (callStart ++ rest) = some tokens) :
    ∃ name more, tokens = dataTokens pending none ++ .ofText .variableBegin "\x7b\x7b".toList ::
      .ofText .name ('p' :: name) :: more := by
  have hsteps (t : Text) : lexFrom 0 (.text pending) ('\x7b' :: '\x7b' :: ' ' :: 'p' :: t) =
      ((lexFrom 0 (.tag .expression [] false) ('p' :: t)).map ([] ++ ·)).map
        ((dataTokens pending none ++ [.ofText .variableBegin "\x7b\x7b".toList]) ++ ·) := rfl
  have hname (t : Text) : step? (.tag .expression [] false) 'p' t =
      if isIdentifier ('p' :: t.takeWhile isNameChar) then
        some ⟨[.ofText .name ('p' :: t.takeWhile isNameChar)],
          ('p' :: t.takeWhile isNameChar).length, .tag .expression [] false⟩
      else none := rfl
  have hshape : callStart ++ rest =
      '\x7b' :: '\x7b' :: ' ' :: 'p' :: ("ortable_".toList ++ rest) := rfl
  rw [hshape, hsteps, Option.map_map] at hlex
  obtain ⟨inner, hinner, rfl⟩ := Option.map_eq_some_iff.mp hlex
  rw [lexFrom, hname] at hinner
  split at hinner
  next => cases hinner
  next step hstep =>
    split at hstep
    · obtain rfl := Option.some.inj hstep
      obtain ⟨more, -, rfl⟩ := Option.map_eq_some_iff.mp hinner
      exact ⟨("ortable_".toList ++ rest).takeWhile isNameChar, more, by simp⟩
    · cases hstep

/-- A call of a macro is a tag with the macro's name in front. -/
theorem exists_call_mem_groupsFrom {skip : Nat} {mode : Mode} {text : Text} {tokens : List Token}
    (hlex : lexFrom skip mode text = some tokens) (hopens : opensCallFrom skip mode text = true)
    {state : Option (TagKind × List Token)} (hstate : state.map (·.1) = mode.tagKind?) :
    ∃ name more, .tag .expression (.ofText .variableBegin "\x7b\x7b".toList ::
      .ofText .name ('p' :: name) :: more) ∈ groupsFrom state tokens := by
  fun_induction lexFrom skip mode text generalizing tokens state with
  | case1 skip mode => simp [opensCallFrom] at hopens
  | case2 skip mode c cs ih => exact ih hlex (by simpa [opensCallFrom] using hopens) hstate
  | case3 mode c cs hstep => cases hlex
  | case4 mode c cs step hstep ih =>
    rw [opensCallFrom, hstep, Bool.or_eq_true, Bool.and_eq_true] at hopens
    rcases hopens with ⟨htext, hstart⟩ | hlater
    · -- The call starts here, so a tag begins with it.
      obtain ⟨rest, hrest⟩ := List.isPrefixOf_iff_prefix.mp hstart
      cases mode with
      | text pending =>
        have hhere : lexFrom 0 (.text pending) (callStart ++ rest) = some tokens := by
          rw [hrest, lexFrom, hstep]
          exact hlex
        obtain ⟨name, more, rfl⟩ := lexFrom_callStart hhere
        obtain rfl := Option.map_eq_none_iff.mp hstate
        obtain ⟨others, hothers⟩ := exists_tag_mem_groupsFrom .expression
          [.ofText .name ('p' :: name), .ofText .variableBegin "\x7b\x7b".toList] more
        refine ⟨name, others, ?_⟩
        rw [groupsFrom_data mem_dataTokens]
        exact List.mem_append_right _ hothers
      | comment begun => cases htext
      | raw pending begun => cases htext
      | tag kind expected afterPoint => cases htext
    · -- The call starts later, where the groups go on with the tag that is then open.
      obtain ⟨rest, hrest, rfl⟩ := Option.map_eq_some_iff.mp hlex
      obtain ⟨next, hnext, hgroups⟩ := (turn_of_step? hstep).groups hstate
      obtain ⟨name, more, hcall⟩ := ih hrest hlater hnext
      exact ⟨name, more, hgroups rest hcall⟩

/-- A call of a macro is no safe expression. -/
theorem classify_call (name : Text) (more : List Token) :
    classify .expression (.ofText .variableBegin "\x7b\x7b".toList :: .ofText .name ('p' :: name) ::
      more) = .ok .complex := by
  have hunknown : (safeNames.any fun known => known.toList == 'p' :: name) = false := by
    simp [safeNames]
  have hsafe : isSafeExpression (.ofText .variableBegin "\x7b\x7b".toList ::
      .ofText .name ('p' :: name) :: more) =
        .ok (safeNames.any fun known => known.toList == 'p' :: name) := rfl
  rw [classify, hsafe, hunknown]
  rfl

/-- Every tag is a region of its kind. -/
theorem exists_region_of_tag {start : Nat} {groups : List Group} {regions : List Region}
    (hregions : regionsFrom start groups = .ok regions) {kind : TagKind} {tokens : List Token}
    (htag : .tag kind tokens ∈ groups) :
    ∃ region ∈ regions, classify kind tokens = .ok region.kind := by
  induction groups generalizing start regions with
  | nil => cases htag
  | cons group groups ih =>
    have hlater {next : Nat} {rest : List Region} (hrest : regionsFrom next groups = .ok rest)
        (hmem : .tag kind tokens ∈ groups) (hsub : rest ⊆ regions) :
        ∃ region ∈ regions, classify kind tokens = .ok region.kind := by
      obtain ⟨region, hregion, hkind⟩ := ih hrest hmem
      exact ⟨region, hsub hregion, hkind⟩
    cases group with
    | data token =>
      obtain ⟨n, -, hregions⟩ := bind_eq_ok.mp hregions
      obtain ⟨rest, hrest, hregions⟩ := bind_eq_ok.mp hregions
      obtain rfl := pure_eq_ok.mp hregions
      exact hlater hrest (by simpa using htag) (List.subset_cons_self _ _)
    | tag other others =>
      obtain ⟨n, -, hregions⟩ := bind_eq_ok.mp hregions
      obtain ⟨regionKind, hkind, hregions⟩ := bind_eq_ok.mp hregions
      obtain ⟨content, -, hregions⟩ := bind_eq_ok.mp hregions
      obtain ⟨rest, hrest, hregions⟩ := bind_eq_ok.mp hregions
      obtain rfl := pure_eq_ok.mp hregions
      rcases List.mem_cons.mp htag with hsame | htag
      · obtain ⟨rfl, rfl⟩ := Group.tag.inj hsame
        exact ⟨_, List.mem_cons_self, hkind⟩
      · exact hlater hrest htag (List.subset_cons_self _ _)
    | loose token =>
      obtain ⟨n, -, hrest⟩ := bind_eq_ok.mp hregions
      exact hlater hrest (by simpa using htag) (List.Subset.refl _)

/-- A template with a complex tag is left alone. -/
theorem not_isConvertible_of_tag {template : Text} {found : List Region}
    (hregions : regions template = .ok found)
    (htag : ∀ tokens, lex? template = some tokens →
      ∃ kind inside, .tag kind inside ∈ groups tokens ∧ classify kind inside = .ok .complex) :
    isConvertible found = false := by
  have hcomplex {region : Region} (hmem : region ∈ found) (hkind : region.kind = .complex) :
      isConvertible found = false := by
    rw [isConvertible, Bool.not_eq_false', List.any_eq_true]
    exact ⟨region, hmem, by simp [hkind]⟩
  unfold regions at hregions
  cases hlex : lex? template with
  | none =>
    rw [hlex] at hregions
    obtain rfl := Except.ok.inj hregions
    exact hcomplex List.mem_cons_self rfl
  | some tokens =>
    rw [hlex] at hregions
    obtain ⟨first, hfirst, hregions⟩ := bind_eq_ok.mp hregions
    obtain ⟨kind, inside, hmem, hclass⟩ := htag tokens hlex
    obtain ⟨region, hregion, hkind⟩ := exists_region_of_tag hfirst hmem
    rw [hclass, Except.ok.injEq] at hkind
    split at hregions
    next hempty =>
      rw [List.isEmpty_iff.mp hempty] at hregion
      cases hregion
    next =>
      obtain rfl := pure_eq_ok.mp hregions
      exact hcomplex hregion hkind.symm

/-- A template that calls a macro of the library is left alone. -/
theorem not_isConvertible_of_opensCall {template : Text} {found : List Region}
    (hopens : opensCall template = true) (hregions : regions template = .ok found) :
    isConvertible found = false := by
  refine not_isConvertible_of_tag hregions fun tokens hlex => ?_
  have hoption : (none : Option (TagKind × List Token)).map (·.1) = Mode.tagKind? (.text []) :=
    rfl
  obtain ⟨name, more, htag⟩ := exists_call_mem_groupsFrom hlex hopens hoption
  exact ⟨_, _, htag, classify_call name more⟩

end PortableSql.Template
