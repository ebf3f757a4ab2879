import BuildTags.Proofs.Pattern.Expression
import BuildTags.Proofs.Pattern.Preference
import BuildTags.Proofs.Regex.Run

namespace BuildTags.Pattern

open Regex

theorem accepts_code (d : Char) :
    (Letter.code d.toNat .exact false).accepts = fun c ↦ decide (c = d) := by
  funext c
  simp [Letter.accepts, Folding.same, Folding.peers, Folding.lower, Char.toNat_inj]

theorem accepts_code_negated (d : Char) :
    (Letter.code d.toNat .exact true).accepts = fun c ↦ decide (c ≠ d) := by
  funext c
  simp [Letter.accepts, Folding.same, Folding.peers, Folding.lower, Char.toNat_inj]

theorem accepts_digit :
    (Letter.set [.category .digit false] .exact false false).accepts = Text.isDigit := by
  funext c
  simp [Letter.accepts, Entry.covers, Category.contains]

def someDigits (text : Text) : List Stretch :=
  extend (fun text ↦ (stretches Text.isDigit text).reverse) (oneOf Text.isDigit text)

def nextGroup (text : Text) : List Stretch := extend someDigits (oneOf (· = '.') text)

def moreGroups : Text → List Stretch
  | '.' :: c :: text =>
    if Text.isDigit c then
      (((groupStretches text).reverse.map (Stretch.push c)).map (Stretch.push '.')) ++
        [([], '.' :: c :: text)]
    else [([], '.' :: c :: text)]
  | text => [([], text)]

theorem splits_reverse_stretches (inClass : Char → Bool) :
    Splits fun text ↦ (stretches inClass text).reverse :=
  fun _ _ hm ↦ (mem_stretches.1 (List.mem_reverse.1 hm)).1

theorem consumes_someDigits : Consumes someDigits :=
  (consumes_oneOf _).extend (splits_reverse_stretches _)

theorem consumes_nextGroup : Consumes nextGroup :=
  (consumes_oneOf _).extend consumes_someDigits.splits

theorem someDigits_cons (c : Char) (text : Text) : someDigits (c :: text) =
    if Text.isDigit c then (stretches Text.isDigit text).reverse.map (Stretch.push c) else [] :=
  extend_oneOf _ _ _ _

theorem nextGroup_dot (text : Text) :
    nextGroup ('.' :: text) = (someDigits text).map (Stretch.push '.') :=
  extend_oneOf _ _ _ _

theorem nextGroup_of_ne {text : Text} (h : ∀ tail, text ≠ '.' :: tail) : nextGroup text = [] := by
  cases text with
  | nil => rfl
  | cons c text =>
    have hc : c ≠ '.' := fun he ↦ h text (he ▸ rfl)
    rw [nextGroup, extend_oneOf, if_neg (by simpa using hc)]

theorem moreGroups_of_ne {text : Text}
    (h : ∀ c tail, text = '.' :: c :: tail → ¬Text.isDigit c = true) :
    moreGroups text = [([], text)] := by
  unfold moreGroups
  split
  · rw [if_neg (h _ _ rfl)]
  · rfl

theorem extend_moreGroups (text : Text) :
    extend moreGroups (stretches Text.isDigit text).reverse = (groupStretches text).reverse := by
  have hhere (text : Text) : extend moreGroups [([], text)] = moreGroups text := by
    rw [extend, List.flatMap_singleton]
    exact List.map_id _
  fun_induction groupStretches text with
  | case1 => rfl
  | case2 c text ih =>
    simp only [stretches, isDigit_dot, Bool.false_eq_true, if_false, List.reverse_singleton, hhere,
      moreGroups]
    split <;> simp
  | case3 c text h ih =>
    have hc : ∀ d tail, c :: text = '.' :: d :: tail → ¬Text.isDigit d = true := by
      rintro d tail ⟨rfl, rfl⟩
      exact (h d tail rfl rfl).elim
    by_cases hd : Text.isDigit c = true
    · rw [stretches, if_pos hd, if_pos hd, List.reverse_cons, ← List.map_reverse, extend,
        List.flatMap_append, ← extend, ← extend, extend_map_push, ih, hhere, moreGroups_of_ne hc,
        List.reverse_cons, List.map_reverse]
    · rw [stretches, if_neg hd, if_neg hd, List.reverse_singleton, hhere, moreGroups_of_ne hc]

theorem moreGroups_eq (text : Text) :
    moreGroups text = extend moreGroups (nextGroup text) ++ [([], text)] := by
  cases text with
  | nil => rfl
  | cons c text =>
    by_cases hc : c = '.'
    · subst hc
      cases text with
      | nil => rfl
      | cons d text =>
        rw [nextGroup_dot, extend_map_push, someDigits_cons, moreGroups]
        split
        · rw [extend_map_push, extend_moreGroups]
        · rfl
    · rw [nextGroup_of_ne fun tail he ↦ hc (List.cons.inj he).1,
        moreGroups_of_ne fun d tail he ↦ absurd (List.cons.inj he).1 hc]
      rfl

section

variable {size : Nat}

theorem takes_digits : Takes size digitsExpr someDigits := by
  have h : Takes size digit (oneOf _) := takes_letter _
  rw [accepts_digit] at h
  exact takes_some_most h (consumes_oneOf _) (reverse_stretches_eq _)

theorem takes_codeOf (c : Char) : Takes size (codeOf c) (oneOf (· = c)) := by
  have h : Takes size (codeOf c) (oneOf _) := takes_letter _
  rwa [accepts_code] at h

theorem takes_beforeDot : Takes size (.loop .fewest 0 none (.letter (.code '.'.toNat .exact true)))
    (stretches (· ≠ '.')) := by
  have h : Takes size (.letter (.code '.'.toNat .exact true)) (oneOf _) := takes_letter _
  rw [accepts_code_negated] at h
  exact takes_any_fewest h (consumes_oneOf _) (stretches_eq _)

theorem takes_line : Takes size (.loop .most 0 none (.letter .anyButLineFeed))
    fun text ↦ (stretches (· ≠ '\n') text).reverse :=
  takes_any_most (takes_letter _) (consumes_oneOf _) (reverse_stretches_eq _)

theorem takes_version : Takes size versionExpr fun text ↦ (versionStretches text).reverse := by
  have hgroup : Takes size (.seq (codeOf '.') digitsExpr) nextGroup :=
    (takes_codeOf '.').seq takes_digits (consumes_oneOf _).splits
  have h := takes_digits.seq (takes_any_most hgroup consumes_nextGroup moreGroups_eq)
    consumes_someDigits.splits
  have he : (fun text ↦ extend moreGroups (someDigits text)) =
      fun text ↦ (versionStretches text).reverse := by
    funext text
    cases text with
    | nil => rfl
    | cons c text =>
      rw [someDigits_cons, versionStretches]
      split
      · rw [extend_map_push, extend_moreGroups, List.map_reverse]
      · rfl
  rwa [he] at h

end

def passPiece (index : Nat) : Piece → Cursor → Cursor
  | .plain text, cursor => cursor.skip text
  | .version text, cursor => ((cursor.openGroup index).skip text).closeGroup index
  | .variant name digits, cursor =>
    if digits = [] then cursor.skip name
    else (((cursor.skip name).openGroup index).skip digits).closeGroup index

def passCut : (index : Nat) → Cut → Cursor → Cursor
  | _, [], cursor => cursor
  | index, .plain text :: cut, cursor => passCut index cut (passPiece index (.plain text) cursor)
  | index, piece :: cut, cursor => passCut (index + 1) cut (passPiece index piece cursor)

def runParts (size : Nat) (parts : List Part) (next : Cursor → Option Cursor) :
    Cursor → Option Cursor :=
  parts.foldr (fun part next cursor ↦ part.expr.run size cursor next) next

section

variable {size index : Nat} {parts : List Part} {cursor : Cursor} {next : Cursor → Option Cursor}
  {variant rest : Text} {token : Token} {piece : Piece}

theorem runParts_append (parts parts' : List Part) :
    runParts size (parts ++ parts') next = runParts size parts (runParts size parts' next) :=
  List.foldr_append

theorem run_joinParts (parts : List Part) : (joinParts parts.reverse).run size cursor next =
    runParts size parts next cursor := by
  have hfold (parts : List Part) : ∀ (expr : Expr) (cursor : Cursor),
      (parts.foldl (fun expr part ↦ .seq part.expr expr) expr).run size cursor next =
        runParts size parts.reverse (fun cursor ↦ expr.run size cursor next) cursor := by
    induction parts with
    | nil => exact fun _ _ ↦ rfl
    | cons part parts ih =>
      intro expr cursor
      rw [List.foldl_cons, ih, List.reverse_cons, runParts_append]
      rfl
  rw [← List.reverse_reverse parts, List.reverse_reverse parts.reverse]
  cases parts.reverse with
  | nil => rfl
  | cons last reversed =>
    rw [joinParts, hfold, List.reverse_cons, runParts_append]
    rfl

theorem runParts_textParts (text : Text) (hs : cursor.after.length ≤ size) :
    runParts size (textParts text) next cursor =
      (Text.after? text cursor.after).bind fun _ ↦ next (cursor.skip text) := by
  induction text generalizing cursor with
  | nil => rfl
  | cons c text ih =>
    change (codeOf c).run size cursor (runParts size (textParts text) next) = _
    rw [takes_codeOf c cursor _ hs]
    cases ht : cursor.after with
    | nil => rfl
    | cons d rest =>
      rw [oneOf, Text.after?]
      by_cases hd : d = c
      · subst hd
        have hskip : (cursor.skip [d]).after = rest := Cursor.after_skip ht
        have hlen : (cursor.skip [d]).after.length ≤ size := by
          rw [hskip]
          rw [ht, List.length_cons] at hs
          omega
        simp only [decide_true, if_true, tryAll, List.findSome?_singleton, ih hlen, hskip,
          Cursor.skip_skip, List.singleton_append]
      · rw [if_neg (by simpa using hd), if_neg (Ne.symm hd)]
        rfl

theorem findSome?_toList_map {α β γ : Type} (o : Option α) (f : α → β) (g : β → Option γ) :
    (o.toList.map f).findSome? g = o.bind fun a ↦ g (f a) := by
  cases o <;> simp

/-- The expression of a token tries what the token can take, in the same order. -/
theorem runParts_token (hs : cursor.after.length ≤ size) :
    runParts size (token.exprParts variant index) next cursor =
      (options variant token cursor.after).findSome? fun option ↦
        next (passPiece index option.1 cursor) := by
  cases token with
  | literal text =>
    rw [Token.exprParts, runParts_textParts text hs, options, findSome?_toList_map]
    rfl
  | separator text =>
    rw [Token.exprParts, runParts_textParts text hs, options, findSome?_toList_map]
    rfl
  | optionalSeparator text =>
    change (Expr.loop .most 0 (some 1) (joinParts (textParts text).reverse)).run size cursor next = _
    rw [run_optional, run_joinParts, runParts_textParts text hs, options, List.findSome?_append,
      findSome?_toList_map, List.findSome?_singleton]
    rfl
  | anyBeforeDot =>
    refine (takes_beforeDot cursor next hs).trans ?_
    rw [options, List.findSome?_map]
    rfl
  | buildVersion =>
    refine (takes_version.run_group index hs).trans ?_
    rw [options, List.findSome?_map]
    rfl
  | buildVariantName =>
    rw [Token.exprParts, runParts_append, runParts_textParts variant hs, options]
    cases ha : Text.after? variant cursor.after with
    | none => rfl
    | some rest =>
      have hrest : (cursor.skip variant).after = rest :=
        Cursor.after_skip (Text.eq_append_of_after? ha)
      have hlen : (cursor.skip variant).after.length ≤ size := by
        have hl := congrArg List.length (Text.eq_append_of_after? ha)
        rw [List.length_append] at hl
        rw [hrest]
        omega
      have hdigits : ∀ stretch ∈ someDigits rest,
          passPiece index (.variant variant stretch.1) cursor =
            (((cursor.skip variant).openGroup index).skip stretch.1).closeGroup index := by
        intro stretch hm
        exact if_neg (consumes_someDigits.ne_nil rest stretch hm)
      refine (run_optional _ (cursor.skip variant) next).trans ?_
      rw [takes_digits.run_group index hlen, hrest, Option.toList_some, List.flatMap_singleton,
        List.findSome?_map, reverse_stretches_eq, List.findSome?_append, List.findSome?_singleton]
      exact congrArg (Option.or · _) (findSome?_congr fun stretch hm ↦
        congrArg next (hdigits stretch hm).symm)
  | anyOptionalSymbols =>
    refine (run_optional _ cursor next).trans ?_
    rw [takes_line cursor next hs, options, List.findSome?_map]
    beta_reduce
    rw [reverse_stretches_eq, tryAll_append, tryAll_here, Option.or_assoc, Option.or_self,
      List.findSome?_append, List.findSome?_singleton]
    rfl

end

section

variable {size : Nat} {cursor : Cursor} {variant : Text} {token : Token} {piece : Piece}

theorem after_passPiece {rest : Text} (h : cursor.after = piece.text ++ rest) (index : Nat) :
    (passPiece index piece cursor).after = rest := by
  cases piece with
  | plain text => exact Cursor.after_skip h
  | version text => exact Cursor.after_skip h
  | variant name digits =>
    rw [Piece.text, List.append_assoc] at h
    have hname := Cursor.after_skip h
    rw [passPiece]
    split
    · rename_i hd
      rw [hname, hd, List.nil_append]
    · exact Cursor.after_skip hname

theorem passCut_cons (h : Fits variant token piece) (index : Nat) (cut : Cut) (cursor : Cursor) :
    passCut index (piece :: cut) cursor =
      passCut (index + token.groupName?.toList.length) cut (passPiece index piece cursor) := by
  cases h <;> rfl

def atEnd (cursor : Cursor) : Option Cursor := if cursor.after = [] then some cursor else none

/-- The expression of tokens comes to the end of a text by the first cut that fits the tokens. -/
theorem runParts_exprParts (tokens : List Token) (index : Nat) (hs : cursor.after.length ≤ size) :
    runParts size (exprParts variant index tokens) atEnd cursor =
      (firstCut? variant tokens cursor.after).map (passCut index · cursor) := by
  induction tokens generalizing cursor index with
  | nil =>
    rw [exprParts, firstCut?]
    change atEnd cursor = _
    rw [atEnd]
    split <;> rfl
  | cons token tokens ih =>
    rw [exprParts, runParts_append, runParts_token hs, firstCut?_cons, List.map_findSome?]
    refine findSome?_congr fun option hm ↦ ?_
    obtain ⟨piece, rest⟩ := option
    obtain ⟨he, hfits⟩ := mem_options_iff.1 hm
    have hafter := after_passPiece he index
    have hlen := congrArg List.length he
    rw [List.length_append] at hlen
    rw [ih _ (by rw [hafter]; omega), hafter, Function.comp, follow, Option.map_map]
    congr 1
    funext cut
    exact (passCut_cons hfits index cut cursor).symm

end

end BuildTags.Pattern

namespace BuildTags

def Regex.fullMatch? (regex : Regex) (text : Text) : Option Regex.Cursor :=
  regex.expr.run text.length (.start text) Pattern.atEnd

namespace Pattern

theorem fullMatch?_regexOf (pattern : Pattern) (name : Text) :
    (regexOf pattern).fullMatch? name =
      (pattern.cut? name).map (passCut 1 · (.start name)) := by
  rw [Regex.fullMatch?, regexOf, run_joinParts]
  exact runParts_exprParts pattern.tokens 1 (Nat.le_refl _)

/-- A pattern of tokens exists exactly if the variant has a name and the tokens hold one version and
one variant name. Its expression can then be read, and takes as a whole the names that can be cut into
pieces that fit the tokens in order. -/
theorem ofTokens_language (tokens : List Token) (variant : Text) :
    ((∃ pattern, ofTokens (some tokens) variant = .ok pattern) ↔
      variant ≠ [] ∧ tokens.count .buildVersion = 1 ∧ tokens.count .buildVariantName = 1) ∧
    (∀ fault, ofTokens (some tokens) variant = .error fault ↔
      variant = [] ∧ fault = .emptyVariant ∨
      variant ≠ [] ∧ tokens.count .buildVersion ≠ 1 ∧
        fault = .versionCount (tokens.count .buildVersion) ∨
      variant ≠ [] ∧ tokens.count .buildVersion = 1 ∧ tokens.count .buildVariantName ≠ 1 ∧
        fault = .variantCount (tokens.count .buildVariantName)) ∧
    ∀ pattern, ofTokens (some tokens) variant = .ok pattern →
      ∃ regex, Regex.read pattern.expression = .ok regex ∧
        ∀ name, ((regex.fullMatch? name).isSome ↔ ∃ cut, IsCut variant tokens name cut) ∧
          ((pattern.cut? name).isSome ↔ ∃ cut, IsCut variant tokens name cut) := by
  refine ⟨exists_ofTokens_eq_ok_iff, fun _ ↦ ofTokens_eq_error_iff,
    fun pattern hp ↦ ⟨_, read_expression pattern _, fun name ↦ ?_⟩⟩
  obtain ⟨ht, rfl⟩ := ofTokens_eq_ok_iff.1 hp
  have hcut : (pattern.cut? name).isSome ↔ ∃ cut, IsCut pattern.variant tokens name cut := by
    rw [cut?, firstCut?_isSome_iff, ht]
    rfl
  rw [fullMatch?_regexOf, Option.isSome_map]
  exact ⟨hcut, hcut⟩

/-- A literal and a variant name of characters that have a meaning of their own in expressions. -/
theorem escaped_language :
    ∃ pattern regex, ofTokens (some [.literal "(v", .buildVersion, .buildVariantName]) ".*" = .ok pattern ∧
      Regex.read pattern.expression = .ok regex ∧ (regex.fullMatch? "(v1.2.*34").isSome := by
  obtain ⟨hok, -, hread⟩ := ofTokens_language [.literal "(v", .buildVersion, .buildVariantName] ".*"
  obtain ⟨pattern, hp⟩ := hok.2 (by decide)
  obtain ⟨regex, hr, hlanguage⟩ := hread pattern hp
  have hversion : IsVersion "1.2" := .group (by decide) (.digit (by decide))
  have hdigits : ∀ c ∈ ("34" : Text), Text.isDigit c = true := List.all_eq_true.1 (by decide)
  have hcut : IsCut ".*" [.literal "(v", .buildVersion, .buildVariantName] "(v1.2.*34"
      [.plain "(v", .version "1.2", .variant ".*" "34"] :=
    .cons (.literal "(v") (.cons (.buildVersion hversion) (.cons (.buildVariantName hdigits) .nil))
  exact ⟨pattern, regex, hp, hr, (hlanguage _).1.2 ⟨_, hcut⟩⟩

end Pattern

end BuildTags
