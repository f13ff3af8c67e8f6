import PortableSql.Proofs.Template.Symbol

/-!
# The tags of a template, piece by piece

A template that is put together from known pieces is read piece by piece: plain text has no tags,
a comment is passed over, and a tag of readable symbols is one tag. What the regions of a template
are and what they hold depends on its tags only.
-/

namespace PortableSql.Template

open Text

/-! ## Tags among tokens -/

/-- A tag, by its kind and its tokens with the delimiters. -/
structure Tag where
  /-- An expression or a statement. -/
  kind : TagKind
  /-- The delimiters and all that is between them. -/
  tokens : List Token
deriving DecidableEq

/-- The tag that a group is. -/
def Group.tag? : Group → Option Tag
  | .tag kind tokens => some ⟨kind, tokens⟩
  | .data _ => none
  | .loose _ => none

/-- The tags among tokens. -/
def tags (tokens : List Token) : List Tag :=
  (groups tokens).filterMap Group.tag?

/-- The tag of symbols between two delimiters. -/
def Tag.ofSymbols (kind : TagKind) (opener : Text) (symbols : List Symbol) (closer : Text) : Tag :=
  ⟨kind, .ofText kind.opener opener ::
    (symbols.flatMap Symbol.tokens ++ [.ofText kind.closer closer])⟩

/-- The symbols of a tag do not close it. -/
theorem closesTag_of_mem_tokens {symbols : List Symbol} :
    ∀ token ∈ symbols.flatMap Symbol.tokens, token.closesTag = false := by
  intro token htoken
  obtain ⟨symbol, -, htoken⟩ := List.mem_flatMap.mp htoken
  cases symbol with
  | space => cases htoken
  | name chars => rw [List.mem_singleton.mp htoken]; rfl
  | string chars => rw [List.mem_singleton.mp htoken]; rfl
  | operator c => rw [List.mem_singleton.mp htoken]; rfl

/-- Data tokens in front belong to no tag. -/
theorem tags_data {texts : List Token}
    (htexts : ∀ token ∈ texts, ∃ chars, token = .ofText .data chars) (rest : List Token) :
    tags (texts ++ rest) = tags rest := by
  rw [tags, groups, groupsFrom_data htexts, List.filterMap_append]
  have hnone : (texts.map Group.data).filterMap Group.tag? = [] := by
    rw [List.filterMap_map, List.filterMap_eq_nil_iff]
    exact fun _ _ => rfl
  rw [hnone, List.nil_append]
  rfl

/-- A tag that stands in front is found first. -/
theorem tags_ofSymbols (kind : TagKind) (opener : Text) (symbols : List Symbol) (closer : Text)
    (rest : List Token) :
    tags ((Tag.ofSymbols kind opener symbols closer).tokens ++ rest) =
      Tag.ofSymbols kind opener symbols closer :: tags rest := by
  have hopen : groupsFrom none ((Tag.ofSymbols kind opener symbols closer).tokens ++ rest) =
      groupsFrom (some (kind, [.ofText kind.opener opener]))
        (symbols.flatMap Symbol.tokens ++ (.ofText kind.closer closer :: rest)) := by
    simp only [Tag.ofSymbols, List.cons_append, List.append_assoc, List.nil_append]
    cases kind <;> rfl
  have hclose (seen : List Token) :
      groupsFrom (some (kind, seen)) (.ofText kind.closer closer :: rest) =
        .tag kind (.ofText kind.closer closer :: seen).reverse :: groupsFrom none rest := by
    cases kind <;> rfl
  rw [tags, groups, hopen, groupsFrom_symbols kind _ closesTag_of_mem_tokens, hclose]
  simp [Group.tag?, Tag.ofSymbols, tags, groups]

/-- The tokens of a tag of symbols are texts. -/
theorem areTexts_ofSymbols (kind : TagKind) (opener : Text) (symbols : List Symbol)
    (closer : Text) : AreTexts (Tag.ofSymbols kind opener symbols closer).tokens := by
  intro token htoken
  simp only [Tag.ofSymbols, List.mem_cons, List.mem_append, List.not_mem_nil, or_false,
    List.mem_flatMap] at htoken
  rcases htoken with rfl | ⟨symbol, -, htoken⟩ | rfl
  · exact ⟨_, rfl⟩
  · cases symbol with
    | space => cases htoken
    | name chars => rw [List.mem_singleton.mp htoken]; exact ⟨_, rfl⟩
    | string chars => rw [List.mem_singleton.mp htoken]; exact ⟨_, rfl⟩
    | operator c => rw [List.mem_singleton.mp htoken]; exact ⟨_, rfl⟩
  · exact ⟨_, rfl⟩

/-- Data tokens are texts. -/
theorem areTexts_dataTokens (pending : Text) (sign : Option Char) :
    AreTexts (dataTokens pending sign) := by
  intro token htoken
  obtain ⟨chars, rfl⟩ := mem_dataTokens token htoken
  exact ⟨chars, rfl⟩

/-! ## Pieces -/

/-- A piece that starts and ends outside of tags has the given tags. The text in front of it that
no tag has ended yet is `pending`, and `left` is such text after it, both in reverse. -/
def Reads (pending piece : Text) (found : List Tag) (left : Text) : Prop :=
  ∃ tokens, (∀ rest, lexFrom 0 (.text pending) (piece ++ rest) =
      (lexFrom 0 (.text left) rest).map (tokens ++ ·)) ∧
    (∀ rest, tags (tokens ++ rest) = found ++ tags rest) ∧ AreTexts tokens

/-- An empty piece has no tags. -/
theorem reads_nil (pending : Text) : Reads pending [] [] pending :=
  ⟨[], fun rest => by simp, fun rest => rfl, by simp [AreTexts]⟩

/-- Pieces are read one after the other. -/
theorem Reads.append {pending first second between left : Text} {found more : List Tag}
    (hfirst : Reads pending first found between) (hsecond : Reads between second more left) :
    Reads pending (first ++ second) (found ++ more) left := by
  obtain ⟨tokens, hlex, htags, htexts⟩ := hfirst
  obtain ⟨others, hlex', htags', htexts'⟩ := hsecond
  refine ⟨tokens ++ others, fun rest => ?_, fun rest => ?_, areTexts_append.mpr ⟨htexts, htexts'⟩⟩
  · rw [List.append_assoc, hlex, hlex', Option.map_map]
    simp [Function.comp_def]
  · rw [List.append_assoc, htags, htags', List.append_assoc]

/-- Nothing but an opening brace starts a tag, a comment or a raw block. -/
theorem opening?_eq_none {c : Char} (hc : c ≠ '\x7b') (pending t : Text) :
    opening? pending (c :: t) = none := by
  have hother {pattern : String} {ds : Text} (hpattern : pattern.toList = '\x7b' :: ds) :
      signed? pattern (c :: t) = none := by
    simp [signed?, literal?, hpattern, List.isPrefixOf, Ne.symm hc]
  have hblock : signed? "\x7b%" (c :: t) = none := hother rfl
  have hexpression : signed? "\x7b\x7b" (c :: t) = none := hother rfl
  have hcomment : signed? "\x7b#" (c :: t) = none := hother rfl
  simp [opening?, rawBegin?, keywordTag?, hblock, hexpression, hcomment]

/-- Text without opening braces has no tags. -/
theorem reads_text {piece : Text} (hbrace : '\x7b' ∉ piece) (pending : Text) :
    Reads pending piece [] (piece.reverse ++ pending) := by
  induction piece generalizing pending with
  | nil => exact reads_nil pending
  | cons c piece ih =>
    rw [List.mem_cons, not_or] at hbrace
    have hchar : Reads pending [c] [] (c :: pending) := by
      refine ⟨[], fun rest => ?_, fun rest => rfl, by simp [AreTexts]⟩
      have hstep : step? (.text pending) c ([] ++ rest) =
          some ⟨[], ([c] : Text).length, .text (c :: pending)⟩ := by
        rw [step?, opening?_eq_none (Ne.symm hbrace.1)]
        rfl
      exact lexFrom_of_step? hstep
    have hwhole := hchar.append (ih hbrace.2 (c :: pending))
    simpa using hwhole

/-- A tag of readable symbols is read as such, in front of another piece. -/
theorem Reads.tag {kind : TagKind} {sign : Option Char} {pending opener closer piece left : Text}
    {symbols : List Symbol} {found : List Tag} (hsymbols : AreReadable symbols)
    (hopen : ∀ rest, lexFrom 0 (.text pending) (opener ++ (symbols.flatMap Symbol.text ++ rest)) =
      (lexFrom 0 (.tag kind [] false) (symbols.flatMap Symbol.text ++ rest)).map
        ((dataTokens pending sign ++ [.ofText kind.opener opener]) ++ ·))
    (hbreak : ∃ c cs, closer = c :: cs ∧ isBlank c = false ∧ isNameChar c = false)
    (hclose : ∀ last rest, lexFrom 0 (.tag kind [] last) (closer ++ (piece ++ rest)) =
      (lexFrom 0 (.text []) (piece ++ rest)).map ([.ofText kind.closer closer] ++ ·))
    (hpiece : Reads [] piece found left) :
    Reads pending (opener ++ (symbols.flatMap Symbol.text ++ closer) ++ piece)
      (Tag.ofSymbols kind opener symbols closer :: found) left := by
  obtain ⟨tokens, hlex, htags, htexts⟩ := hpiece
  refine ⟨dataTokens pending sign ++ ((Tag.ofSymbols kind opener symbols closer).tokens ++ tokens),
    fun rest => ?_, fun rest => ?_, ?_⟩
  · have hrest : ∀ c ∈ (closer ++ (piece ++ rest)).head?,
        isBlank c = false ∧ isNameChar c = false := by
      obtain ⟨c, cs, rfl, hblank, hname⟩ := hbreak
      intro d hd
      obtain rfl := Option.some.inj hd
      exact ⟨hblank, hname⟩
    obtain ⟨last, hlast⟩ := lexFrom_symbols kind hsymbols.sound hsymbols.apart hsymbols.balanced
      hrest false
    simp only [List.append_assoc]
    rw [hopen, hlast, hclose, hlex]
    simp [Option.map_map, Function.comp_def, Tag.ofSymbols]
  · rw [List.append_assoc, tags_data mem_dataTokens, List.append_assoc, tags_ofSymbols, htags]
    rfl
  · exact areTexts_append.mpr ⟨areTexts_dataTokens pending sign,
      areTexts_append.mpr ⟨areTexts_ofSymbols kind opener symbols closer, htexts⟩⟩

/-- A comment is passed over if no hash sign and no sign at its end can close it early. -/
theorem lexFrom_comment {inside : Text} (hhash : '#' ∉ inside)
    (hend : ∀ c ∈ inside.getLast?, c ≠ '+' ∧ c ≠ '-') (begun : Bool) (rest : Text) :
    lexFrom 0 (.comment begun) (inside ++ ("#\x7d".toList ++ rest)) =
      lexFrom 0 (.text []) rest := by
  induction inside generalizing begun with
  | nil =>
    have hclose : lexFrom 0 (.comment begun) ([] ++ ("#\x7d".toList ++ rest)) =
        (lexFrom 0 (.text []) rest).map ([] ++ ·) := rfl
    simpa using hclose
  | cons c inside ih =>
    rw [List.mem_cons, not_or] at hhash
    -- A sign closes the comment only if a hash sign follows, which is not the case here.
    have hnone : commentEnd? (c :: (inside ++ ("#\x7d".toList ++ rest))) = none := by
      have hplus : "+#\x7d".toList = ['+', '#', '\x7d'] := rfl
      have hminus : "-#\x7d".toList = ['-', '#', '\x7d'] := rfl
      have hplain : "#\x7d".toList = ['#', '\x7d'] := rfl
      cases inside with
      | nil =>
        obtain ⟨hnoPlus, hnoMinus⟩ := hend c rfl
        simp [commentEnd?, literalThenBlanks?, literal?, hplus, hminus, hplain, List.isPrefixOf,
          Ne.symm hnoPlus, Ne.symm hnoMinus]
      | cons d inside =>
        have hd : '#' ≠ d := fun h => hhash.2 (h ▸ List.mem_cons_self)
        simp [commentEnd?, literalThenBlanks?, literal?, hplus, hminus, hplain, List.isPrefixOf,
          hhash.1, hd]
    have hstep : step? (.comment begun) c ([] ++ (inside ++ ("#\x7d".toList ++ rest))) =
        some ⟨[], ([c] : Text).length, .comment true⟩ := by
      rw [List.nil_append, step?, hnone]
      rfl
    have hlater : ∀ d ∈ inside.getLast?, d ≠ '+' ∧ d ≠ '-' := by
      intro d hd
      refine hend d ?_
      rw [List.getLast?_cons, hd]
      rfl
    have hread := lexFrom_of_step? hstep
    rw [ih hhash.2 hlater] at hread
    simpa using hread

/-! ## Regions of tags -/

/-- What a tag is to the reader of SQL, and what it holds. -/
def Tag.mark? (tag : Tag) : Option (RegionKind × Text) :=
  match classify tag.kind tag.tokens, concatFrom 0 tag.tokens with
  | .ok kind, .ok content => some (kind, content)
  | _, _ => none

/-- What the tags among regions are, and what they hold. -/
def marks (regions : List Region) : List (RegionKind × Text) :=
  (regions.filter (·.kind != .static)).map fun region => (region.kind, region.content.chars)

/-- A tag is never taken for static text. -/
theorem classify_ne_static {kind : TagKind} {tokens : List Token} {regionKind : RegionKind}
    (hkind : classify kind tokens = .ok regionKind) : regionKind ≠ .static := by
  cases kind with
  | expression =>
    obtain ⟨known, -, hkind⟩ := bind_eq_ok.mp hkind
    obtain rfl := pure_eq_ok.mp hkind
    cases known <;> decide
  | statement =>
    obtain ⟨known, -, hkind⟩ := bind_eq_ok.mp hkind
    obtain rfl := pure_eq_ok.mp hkind
    cases known <;> decide

/-- The regions that are no text are the tags. -/
theorem map_some_marks {start : Nat} {groups : List Group} {found : List Region}
    (hfound : regionsFrom start groups = .ok found) :
    (marks found).map some = (groups.filterMap Group.tag?).map Tag.mark? := by
  induction groups generalizing start found with
  | nil =>
    obtain rfl := Except.ok.inj hfound
    rfl
  | cons group groups ih =>
    cases group with
    | data token =>
      obtain ⟨n, -, hfound⟩ := bind_eq_ok.mp hfound
      obtain ⟨rest, hrest, hfound⟩ := bind_eq_ok.mp hfound
      obtain rfl := pure_eq_ok.mp hfound
      rw [marks, List.filter_cons_of_neg (by simp)]
      exact ih hrest
    | tag kind tokens =>
      obtain ⟨n, -, hfound⟩ := bind_eq_ok.mp hfound
      obtain ⟨regionKind, hkind, hfound⟩ := bind_eq_ok.mp hfound
      obtain ⟨content, hcontent, hfound⟩ := bind_eq_ok.mp hfound
      obtain ⟨rest, hrest, hfound⟩ := bind_eq_ok.mp hfound
      obtain rfl := pure_eq_ok.mp hfound
      have hhere : Tag.mark? ⟨kind, tokens⟩ = some (regionKind, content) := by
        simp [Tag.mark?, hkind, hcontent]
      have hstatic := classify_ne_static hkind
      have hlater := ih hrest
      simp only [marks] at hlater ⊢
      rw [List.filter_cons_of_pos (by simpa using hstatic), List.map_cons, List.map_cons, hlater]
      simp [Group.tag?, hhere, Lexeme.chars]
    | loose token =>
      obtain ⟨n, -, hrest⟩ := bind_eq_ok.mp hfound
      exact ih hrest

/-- What the tags of a kind hold. -/
def held (kind : RegionKind) (marks : List (RegionKind × Text)) : List Text :=
  (marks.filter (·.1 == kind)).map (·.2)

/-- What the tags of a kind hold is listed part by part. -/
theorem held_append (kind : RegionKind) (first second : List (RegionKind × Text)) :
    held kind (first ++ second) = held kind first ++ held kind second := by
  simp [held]

/-- The tags of a kind hold the contents of the regions of that kind. -/
theorem held_marks {kind : RegionKind} (hkind : kind ≠ .static) (found : List Region) :
    held kind (marks found) = (found.filter (·.kind == kind)).map (·.content.chars) := by
  rw [held, marks, List.filter_map, List.map_map, List.filter_filter]
  refine congrArg _ (List.filter_congr fun region _ => ?_)
  rw [Bool.eq_iff_iff]
  simp only [Function.comp_apply, Bool.and_eq_true, beq_iff_eq, bne_iff_ne]
  exact ⟨And.left, fun h => ⟨h, h ▸ hkind⟩⟩

/-- A template with a complex tag is left alone. -/
theorem isConvertible_eq_false {found : List Region} (hheld : held .complex (marks found) ≠ []) :
    isConvertible found = false := by
  rw [held_marks (by decide), ne_eq, List.map_eq_nil_iff, List.filter_eq_nil_iff] at hheld
  push Not at hheld
  obtain ⟨region, hregion, hkind⟩ := hheld
  simpa [isConvertible] using ⟨region, hregion, by simpa using hkind⟩

/-- A template of known pieces is well formed, and its regions are known. -/
theorem exists_regions_of_reads {template left : Text} {found : List Tag}
    (hreads : Reads [] (source template) found left) :
    ∃ tokens regions, lex? template = some tokens ∧ Template.regions template = .ok regions ∧
      (marks regions).map some = found.map Tag.mark? := by
  obtain ⟨tokens, hlex, htags, htexts⟩ := hreads
  have hwhole : lex? template = some (tokens ++ dataTokens left none) := by
    have hread := hlex []
    rw [List.append_nil] at hread
    exact hread
  have hfound : tags (tokens ++ dataTokens left none) = found := by
    have hnone : tags (dataTokens left none ++ []) = tags [] := tags_data mem_dataTokens []
    rw [List.append_nil] at hnone
    rw [htags, hnone]
    exact List.append_nil found
  have hflat : (groups (tokens ++ dataTokens left none)).flatMap Group.tokens =
      tokens ++ dataTokens left none := flatMap_tokens_groupsFrom none _
  obtain ⟨regions, hregions⟩ : ∃ regions,
      regionsOfTokens (tokens ++ dataTokens left none) = .ok regions := by
    rw [regionsOfTokens, regionsFrom_ok_iff (hflat.symm ▸ isRead_of_lexFrom hwhole), hflat]
    exact areTexts_append.mpr ⟨htexts, areTexts_dataTokens left none⟩
  have hmarks := map_some_marks hregions
  rw [← hfound, tags, ← hmarks]
  unfold Template.regions
  rw [hwhole]
  cases regions with
  | nil =>
    exact ⟨_, [⟨0, template.length, .static, .text template⟩], rfl, by simp only [hregions]; rfl,
      rfl⟩
  | cons region regions => exact ⟨_, _, rfl, by simp only [hregions]; rfl, rfl⟩

end PortableSql.Template
