import BuildTags.Pattern.Basic
import BuildTags.Proofs.Regex.Group

namespace BuildTags.Pattern

open Regex

section

variable {s : Progress} {parts : List Part} {rest : Text}

theorem fresh_escape_append (h : Fresh rest) (text : Text) : Fresh (escape text ++ rest) := by
  cases text with
  | nil => exact h
  | cons c text =>
    by_cases hc : c ∈ specialChars
    · rw [Pattern.escape, List.flatMap_cons, if_pos hc]
      exact fresh_escaped _ _
    · rw [Pattern.escape, List.flatMap_cons, if_neg hc]
      have hne : ∀ d ∈ specialChars, c ≠ d := fun d hd he ↦ hc (he ▸ hd)
      exact fresh_cons ⟨hne _ (by decide), hne _ (by decide), hne _ (by decide)⟩ _

def textParts (text : Text) : List Part := text.map fun c ↦ .other (codeOf c)

theorem readsOn_escape (text : Text) (hr : Fresh rest) :
    ReadsOn s parts (escape text ++ rest) s ((textParts text).reverse ++ parts) rest := by
  induction text generalizing parts with
  | nil => exact .refl _ _ _
  | cons c text ih =>
    have hf := fresh_escape_append hr text
    have hc : ReadsOn s parts ((if c ∈ specialChars then ['\\', c] else [c]) ++ (escape text ++ rest)) s
        (.other (codeOf c) :: parts) (escape text ++ rest) := by
      split
      · exact readsOn_escaped ‹_› hf.ne
      · exact readsOn_char ‹_› hf.ne
    have ht := hc.trans (@ih (.other (codeOf c) :: parts))
    simpa [textParts, escape, List.append_assoc] using ht

def digitsExpr : Expr := .loop .most 1 none digit

def versionExpr : Expr := .seq digitsExpr (.loop .most 0 none (.seq (codeOf '.') digitsExpr))

theorem readsOn_digits (hr : Fresh rest) :
    ReadsOn s parts ('\\' :: 'd' :: '+' :: rest) s (.loop digitsExpr :: parts) rest :=
  (readsOn_digit (by simp)).trans (readsOn_most .some hr)

theorem fresh_close (rest : Text) : Fresh (')' :: rest) :=
  fresh_cons (by decide) rest

theorem readsBody_version (hg : s.globals = []) (rest : Text) :
    ReadsBody s "\\d+(?:\\.\\d+)*" [.loop (.loop .most 0 none (.seq (codeOf '.') digitsExpr)),
      .loop digitsExpr] rest := by
  have hbody : ReadsBody s "\\.\\d+" [.loop digitsExpr, .other (codeOf '.')] ('*' :: ')' :: rest) :=
    (readsOn_escaped (by decide) (by simp)).trans (readsOn_digits (fresh_close _))
  have hgroup : ReadsOn s [.loop digitsExpr] ("(?:" ++ ("\\.\\d+" ++ ')' :: '*' :: ')' :: rest)) s
      [.other (.seq (codeOf '.') digitsExpr), .loop digitsExpr] ('*' :: ')' :: rest) :=
    readsOn_plain hbody hg (by simp)
  exact ((readsOn_digits (fresh_cons (by decide) _)).trans hgroup).trans
    (readsOn_most .any (fresh_close _))

end

def Token.groupName? : Token → Option Text
  | .buildVersion => some "version"
  | .buildVariantName => some "build_number"
  | _ => none

/-- The parts that the expression of a token is read as, in order, where its group has an index. -/
def Token.exprParts (variant : Text) (index : Nat) : Token → List Part
  | .literal text | .separator text => textParts text
  | .optionalSeparator text => [.loop (.loop .most 0 (some 1) (joinParts (textParts text).reverse))]
  | .anyBeforeDot => [.loop (.loop .fewest 0 none (.letter (.code '.'.toNat .exact true)))]
  | .buildVersion => [.other (.group index versionExpr)]
  | .buildVariantName =>
    textParts variant ++ [.loop (.loop .most 0 (some 1) (.group index digitsExpr))]
  | .anyOptionalSymbols =>
    [.loop (.loop .most 0 (some 1) (.loop .most 0 none (.letter .anyButLineFeed)))]

def exprParts (variant : Text) : Nat → List Token → List Part
  | _, [] => []
  | index, token :: tokens =>
    token.exprParts variant index ++
      exprParts variant (index + token.groupName?.toList.length) tokens

def groupNames : Nat → List Token → List (Text × Nat)
  | _, [] => []
  | index, token :: tokens =>
    groupNames (index + token.groupName?.toList.length) tokens ++
      token.groupName?.toList.map (·, index)

structure Passes (s : Progress) (token : Token) (s' : Progress) : Prop where
  count : s'.widths.length = s.widths.length + token.groupName?.toList.length
  globals : s'.globals = s.globals
  references : s'.references = s.references
  names : s'.names = token.groupName?.toList.map (·, s.widths.length + 1) ++ s.names

theorem Passes.refl {s : Progress} {token : Token} (h : token.groupName? = none) :
    Passes s token s :=
  ⟨by simp [h], rfl, rfl, by simp [h]⟩

theorem Passes.captured {s : Progress} {token : Token} {name : Text} (h : token.groupName? = some name)
    (width : Width) : Passes s token (s.captured name width) :=
  ⟨by simp [h, Progress.captured], rfl, rfl, by simp [h, Progress.captured]⟩

section

variable {variant rest : Text}

theorem fragment_optional_append (text : Text) :
    (Token.optionalSeparator text).fragment variant ++ rest =
      "(?:" ++ (escape text ++ ')' :: '?' :: rest) := by
  have h : (Token.optionalSeparator text).fragment variant = "(?:" ++ escape text ++ ")?" := rfl
  have hr : ")?" ++ rest = ')' :: '?' :: rest := rfl
  rw [h, List.append_assoc, List.append_assoc, hr]

theorem fragment_version_append : Token.buildVersion.fragment variant ++ rest =
    "(?P<" ++ ("version" ++ '>' :: ("\\d+(?:\\.\\d+)*" ++ ')' :: rest)) := rfl

theorem fragment_variant_append : Token.buildVariantName.fragment variant ++ rest =
    escape variant ++ ("(?P<" ++ ("build_number" ++ '>' :: ("\\d+" ++ ')' :: '?' :: rest))) :=
  List.append_assoc (escape variant) "(?P<build_number>\\d+)?" rest

theorem fragment_symbols_append : Token.anyOptionalSymbols.fragment variant ++ rest =
    "(?:" ++ (".*" ++ ')' :: '?' :: rest) := rfl

end

section

variable {s : Progress} {variant rest : Text} {token : Token}

theorem readsOn_fragment (parts : List Part) (hg : s.globals = [])
    (hn : ∀ entry ∈ s.names, token.groupName? ≠ some entry.1) (hr : Fresh rest) :
    ∃ s', Passes s token s' ∧ ReadsOn s parts (token.fragment variant ++ rest) s'
      ((token.exprParts variant (s.widths.length + 1)).reverse ++ parts) rest := by
  cases token with
  | literal text => exact ⟨s, .refl rfl, readsOn_escape text hr⟩
  | separator text => exact ⟨s, .refl rfl, readsOn_escape text hr⟩
  | optionalSeparator text =>
    have hbody : ReadsBody s (escape text) (textParts text).reverse ('?' :: rest) := by
      have ht : ReadsOn s [] (escape text ++ ')' :: '?' :: rest) s _ (')' :: '?' :: rest) :=
        readsOn_escape text (fresh_close _)
      rwa [List.append_nil] at ht
    rw [fragment_optional_append]
    exact ⟨s, .refl rfl, (readsOn_plain hbody hg (by simp)).trans (readsOn_most .optional hr)⟩
  | anyBeforeDot =>
    exact ⟨s, .refl rfl, (readsOn_anyBut (by decide) (by simp)).trans (readsOn_fewest .any hr.ne)⟩
  | buildVersion =>
    have hbody := readsBody_version (s := s.opened "version") hg rest
    have hnames : ∀ entry ∈ s.names, entry.1 ≠ "version" := fun entry he h ↦
      hn entry he (h ▸ rfl)
    rw [fragment_version_append]
    exact ⟨_, .captured rfl _, readsOn_capture hbody hg hnames (by decide) (by decide) hr.ne⟩
  | buildVariantName =>
    have hbody : ReadsBody (s.opened "build_number") "\\d+" [.loop digitsExpr] ('?' :: rest) :=
      readsOn_digits (fresh_close _)
    have hnames : ∀ entry ∈ s.names, entry.1 ≠ "build_number" := fun entry he h ↦
      hn entry he (h ▸ rfl)
    have hname : ReadsOn s parts (Token.buildVariantName.fragment variant ++ rest) s
        ((textParts variant).reverse ++ parts)
        ("(?P<" ++ ("build_number" ++ '>' :: ("\\d+" ++ ')' :: '?' :: rest))) := by
      rw [fragment_variant_append]
      exact readsOn_escape variant (fresh_cons (by decide) _)
    refine ⟨_, .captured rfl digitsExpr.width, ?_⟩
    rw [Token.exprParts, List.reverse_append, List.append_assoc]
    exact (hname.trans (readsOn_capture hbody hg hnames (by decide) (by decide) (by simp))).trans
      (readsOn_most .optional hr)
  | anyOptionalSymbols =>
    have hbody : ReadsBody s ".*" [.loop (.loop .most 0 none (.letter .anyButLineFeed))] ('?' :: rest) :=
      (readsOn_dot (by simp)).trans (readsOn_most .any (fresh_close _))
    rw [fragment_symbols_append]
    exact ⟨s, .refl rfl, (readsOn_plain hbody hg (by simp)).trans (readsOn_most .optional hr)⟩

theorem fresh_fragment_append (hr : Fresh rest) (token : Token) :
    Fresh (token.fragment variant ++ rest) := by
  cases token with
  | literal text => exact fresh_escape_append hr text
  | separator text => exact fresh_escape_append hr text
  | optionalSeparator text =>
    rw [fragment_optional_append]
    exact fresh_cons (by decide) _
  | anyBeforeDot => exact fresh_cons (by decide) _
  | buildVersion => exact fresh_cons (by decide) _
  | buildVariantName =>
    rw [fragment_variant_append]
    exact fresh_escape_append (fresh_cons (by decide) _) variant
  | anyOptionalSymbols => exact fresh_cons (by decide) _

theorem fresh_expressionOf (variant : Text) (tokens : List Token) :
    Fresh (expressionOf variant tokens) := by
  induction tokens with
  | nil => exact fresh_nil
  | cons token tokens ih => exact fresh_fragment_append ih token

def Once (tokens : List Token) : Prop :=
  tokens.Pairwise fun first second ↦ ∀ name, first.groupName? = some name →
    second.groupName? ≠ some name

theorem once_of_count {tokens : List Token} (h₁ : tokens.count .buildVersion ≤ 1)
    (h₂ : tokens.count .buildVariantName ≤ 1) : Once tokens := by
  induction tokens with
  | nil => exact .nil
  | cons token tokens ih =>
    have hle := fun t ↦ List.count_le_count_cons (a := t) (b := token) (l := tokens)
    refine List.pairwise_cons.2 ⟨fun other ho name hn he ↦ ?_,
      ih ((hle _).trans h₁) ((hle _).trans h₂)⟩
    have hcount := List.count_pos_iff.2 ho
    cases token <;> cases hn <;> cases other <;> try cases he
    · rw [List.count_cons_self] at h₁
      omega
    · rw [List.count_cons_self] at h₂
      omega

theorem readsOn_expression (variant : Text) (parts : List Part) {tokens : List Token}
    (hg : s.globals = []) (honce : Once tokens)
    (hn : ∀ entry ∈ s.names, ∀ token ∈ tokens, token.groupName? ≠ some entry.1) :
    ∃ s', s'.globals = [] ∧ s'.references = s.references ∧
      s'.names = groupNames (s.widths.length + 1) tokens ++ s.names ∧
      ReadsOn s parts (expressionOf variant tokens) s'
        ((exprParts variant (s.widths.length + 1) tokens).reverse ++ parts) [] := by
  induction tokens generalizing s parts with
  | nil => exact ⟨s, hg, rfl, rfl, .refl _ _ _⟩
  | cons token tokens ih =>
    obtain ⟨hfirst, hrest⟩ := List.pairwise_cons.1 honce
    obtain ⟨s', hp, hr⟩ := readsOn_fragment parts hg
      (fun entry he ↦ hn entry he token List.mem_cons_self) (fresh_expressionOf variant tokens)
    have hn' : ∀ entry ∈ s'.names, ∀ token ∈ tokens, token.groupName? ≠ some entry.1 := by
      intro entry he other ho
      rw [hp.names] at he
      obtain he | he := List.mem_append.1 he
      · obtain ⟨name, hname, rfl⟩ := List.mem_map.1 he
        exact hfirst other ho name (Option.mem_toList.1 hname)
      · exact hn entry he other (List.mem_cons_of_mem _ ho)
    obtain ⟨s'', hg', href, hnames, hr'⟩ := ih _ (hp.globals.trans hg) hrest hn'
    have hcount : s'.widths.length + 1 =
        s.widths.length + 1 + token.groupName?.toList.length := by
      rw [hp.count]
      omega
    rw [hcount] at hr' hnames
    refine ⟨s'', hg', href.trans hp.references, ?_, ?_⟩
    · rw [hnames, hp.names, ← List.append_assoc]
      rfl
    · have hboth := hr.trans hr'
      rwa [← List.append_assoc, ← List.reverse_append] at hboth

end

theorem problem?_joinParts {parts : List Part} (h : ∀ part ∈ parts, part.expr.problem? false = none) :
    (joinParts parts).problem? false = none := by
  have hfold (parts : List Part) : (∀ part ∈ parts, part.expr.problem? false = none) →
      ∀ expr : Expr, expr.problem? false = none →
        (parts.foldl (fun expr part ↦ .seq part.expr expr) expr).problem? false = none := by
    induction parts with
    | nil => exact fun _ _ he ↦ he
    | cons part parts ih =>
      intro h expr he
      obtain ⟨hpart, hparts⟩ := List.forall_mem_cons.1 h
      exact ih hparts _ (by rw [Expr.problem?, hpart, he])
  cases parts with
  | nil => rfl
  | cons last parts =>
    obtain ⟨hl, hp⟩ := List.forall_mem_cons.1 h
    exact hfold parts hp _ hl

theorem problem?_exprParts {variant : Text} {index : Nat} {tokens : List Token} :
    ∀ part ∈ exprParts variant index tokens, part.expr.problem? false = none := by
  have htext (text : Text) : ∀ part ∈ textParts text, part.expr.problem? false = none := by
    intro part hp
    obtain ⟨c, -, rfl⟩ := List.mem_map.1 hp
    rfl
  induction tokens generalizing index with
  | nil => nofun
  | cons token tokens ih =>
    intro part hp
    obtain hp | hp := List.mem_append.1 hp
    · cases token with
      | literal text => exact htext text part hp
      | separator text => exact htext text part hp
      | optionalSeparator text =>
        obtain rfl := List.mem_singleton.1 hp
        exact problem?_joinParts fun q hq ↦ htext text q (List.mem_reverse.1 hq)
      | anyBeforeDot => exact List.mem_singleton.1 hp ▸ rfl
      | buildVersion => exact List.mem_singleton.1 hp ▸ rfl
      | buildVariantName =>
        obtain hp | hp := List.mem_append.1 hp
        · exact htext variant part hp
        · exact List.mem_singleton.1 hp ▸ rfl
      | anyOptionalSymbols => exact List.mem_singleton.1 hp ▸ rfl
    · exact ih part hp

def regexOf (pattern : Pattern) : Regex :=
  ⟨joinParts (exprParts pattern.variant 1 pattern.tokens).reverse⟩

theorem whole_expression (pattern : Pattern) (named : Text → Option Char) :
    ∃ s, s.names = groupNames 1 pattern.tokens ∧
      whole ⟨pattern.expression, named⟩ { rest := pattern.expression } =
        .ok ((regexOf pattern).expr, s) := by
  have honce : Once pattern.tokens :=
    once_of_count pattern.one_version.le pattern.one_variant.le
  obtain ⟨s', hg, href, hnames, hr⟩ := readsOn_expression pattern.variant []
    (s := { rest := pattern.expression }) rfl honce nofun
  rw [List.append_nil] at hr hnames
  exact ⟨s'.at [], hnames, whole_of_readsOn hr (fresh_expressionOf _ _).ne hg href
    (problem?_joinParts fun q hq ↦ problem?_exprParts q (List.mem_reverse.1 hq))⟩

/-- The expression of a pattern can always be read, whatever characters have names. -/
theorem read_expression (pattern : Pattern) (named : Text → Option Char) :
    Regex.read pattern.expression named = .ok (regexOf pattern) := by
  obtain ⟨s, -, hw⟩ := whole_expression pattern named
  exact read_of_whole hw

theorem groupIndex?_expression (pattern : Pattern) (name : Text) :
    groupIndex? pattern.expression name =
      ((groupNames 1 pattern.tokens).find? (·.1 = name)).map (·.2) := by
  obtain ⟨s, hnames, hw⟩ := whole_expression pattern fun _ ↦ none
  rw [groupIndex?_of_whole hw, hnames]

end BuildTags.Pattern
