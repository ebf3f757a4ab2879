import BuildTags.Regex.Expr
import BuildTags.Regex.Fault
import BuildTags.Text.Identifier

namespace BuildTags.Regex

structure Modes where
  ignoreCase : Bool := false
  multiline : Bool := false
  dotAll : Bool := false
  verbose : Bool := false
  ascii : Bool := false
  deriving DecidableEq, Repr

def Modes.folding (modes : Modes) : Folding :=
  if modes.ignoreCase then (if modes.ascii then .ascii else .unicode) else .exact

inductive Flag
  | ignoreCase
  | locale
  | multiline
  | dotAll
  | verbose
  | ascii
  | template
  | unicode
  deriving DecidableEq, Repr

def Flag.ofToken? : Text → Option Flag
  | ['i'] => some .ignoreCase
  | ['L'] => some .locale
  | ['m'] => some .multiline
  | ['s'] => some .dotAll
  | ['x'] => some .verbose
  | ['a'] => some .ascii
  | ['t'] => some .template
  | ['u'] => some .unicode
  | _ => none

def Flag.isKind (flag : Flag) : Bool := flag = .ascii || flag = .locale || flag = .unicode

def Modes.change (modes : Modes) (on off : List Flag) : Modes where
  ignoreCase := (modes.ignoreCase || .ignoreCase ∈ on) && .ignoreCase ∉ off
  multiline := (modes.multiline || .multiline ∈ on) && .multiline ∉ off
  dotAll := (modes.dotAll || .dotAll ∈ on) && .dotAll ∉ off
  verbose := (modes.verbose || .verbose ∈ on) && .verbose ∉ off
  ascii := if .unicode ∈ on then false else modes.ascii || .ascii ∈ on

/-- What is known in the middle of an expression. `rest` is what is still to be read; `widths` holds
the widths of the groups that are closed, the last opened first. -/
structure Progress where
  rest : Text
  globals : List Flag := []
  names : List (Text × Nat) := []
  widths : List (Option Width) := []
  behindFrom : Option Nat := none
  references : List (Nat × Nat) := []

structure Source where
  text : Text
  named : Text → Option Char

abbrev Reading := ReaderT Source (StateT Progress (Except Fault))

namespace Reading

def placeOf (text : Text) (position : Nat) : Place :=
  let before := text.take position
  ⟨position, if '\n' ∈ text then
    some (before.count '\n' + 1, (before.reverse.takeWhile (· ≠ '\n')).length + 1) else none⟩

def failAt {α : Type} (problem : Problem) (position : Nat) : Reading α := do
  let source ← read
  throw (.malformed problem (some (placeOf source.text position)))

def position : Reading Nat := do
  let source ← read
  let progress ← get
  pure (source.text.length - progress.rest.length)

def fail {α : Type} (problem : Problem) (back : Nat) : Reading α := do
  failAt problem ((← position) - back)

/-- The first token of a text: an escaped character together with its backslash, or a single
character. -/
def tokenOf : Text → Option Text
  | '\\' :: c :: _ => some ['\\', c]
  | c :: _ => some [c]
  | [] => none

def next : Reading (Option Text) := do pure (tokenOf (← get).rest)

def goTo (rest : Text) : Reading Unit := do
  if rest = ['\\'] then failAt .danglingEscape ((← read).text.length - 1)
  modify ({ · with rest })

def advance : Reading Unit := do
  let rest := (← get).rest
  match tokenOf rest with
  | some token => goTo (rest.drop token.length)
  | none => pure ()

def take : Reading (Option Text) := do
  let token ← next
  advance
  pure token

def accept (c : Char) : Reading Bool := do
  if (← next) = some [c] then
    advance
    pure true
  else pure false

def takeWhile (inClass : Char → Bool) : (count : Nat) → Reading Text
  | 0 => pure []
  | count + 1 => do
    match ← next with
    | some [c] =>
      if inClass c then
        advance
        pure (c :: (← takeWhile inClass count))
      else pure []
    | _ => pure []

def takeUntil (closing : Char) (what : Text) : (fuel : Nat) → Text → Reading Text
  | 0, taken => pure taken
  | fuel + 1, taken => do
    match ← take with
    | none =>
      if taken = [] then fail (.missing what) 0
      else fail (.unterminatedName [closing]) taken.length
    | some token =>
      if token = [closing] then
        if taken = [] then fail (.missing what) 1 else pure taken
      else takeUntil closing what fuel (taken ++ token)

def takeName (closing : Char) (what : Text) : Reading Text := do
  takeUntil closing what ((← get).rest.length + 1) []

end Reading

open Reading

def isOctal (c : Char) : Bool := '0' ≤ c && c ≤ '7'

def isHex (c : Char) : Bool := c.isDigit || ('a' ≤ c && c ≤ 'f') || ('A' ≤ c && c ≤ 'F')

def digitOf (c : Char) : Nat :=
  if c.isDigit then c.toNat - '0'.toNat
  else if 'a' ≤ c then c.toNat - 'a'.toNat + 10
  else c.toNat - 'A'.toNat + 10

def numberIn (base : Nat) (digits : Text) : Nat := digits.foldl (fun n c => n * base + digitOf c) 0

def controlEscapes : List (Char × Nat) :=
  [('a', 7), ('b', 8), ('f', 12), ('n', 10), ('r', 13), ('t', 9), ('v', 11), ('\\', 92)]

def categoryEscapes : List (Char × Category × Bool) :=
  [('d', .digit, false), ('D', .digit, true), ('s', .space, false), ('S', .space, true),
   ('w', .word, false), ('W', .word, true)]

def lookUp {α : Type} (c : Char) (table : List (Char × α)) : Option α :=
  (table.find? (·.1 = c)).map (·.2)

def hexEscape (c : Char) (count : Nat) : Reading Nat := do
  let digits ← takeWhile isHex count
  let escape := '\\' :: c :: digits
  if digits.length ≠ count then fail (.incompleteEscape escape) escape.length
  let n := numberIn 16 digits
  if 0x10ffff < n then fail (.badEscape escape) escape.length
  pure n

def namedEscape : Reading Nat := do
  if !(← accept '\x7b') then fail (.missing "\x7b") 0
  let name ← takeName '\x7d' "character name"
  match (← read).named name with
  | some c => pure c.toNat
  | none => fail (.undefinedCharacter name) (name.length + 4)

def numberEscape? (c : Char) : Option (Reading Nat) :=
  match c with
  | 'x' => some (hexEscape c 2)
  | 'u' => some (hexEscape c 4)
  | 'U' => some (hexEscape c 8)
  | 'N' => some namedEscape
  | _ => none

/-- The code point of an escaped character that has no other meaning. Letters are kept for meanings
to come. -/
def plainEscape (c : Char) : Reading Nat := do
  if c.isAlpha then fail (.badEscape ['\\', c]) 2
  pure c.toNat

def setEscape (c : Char) : Reading Entry := do
  match lookUp c controlEscapes, lookUp c categoryEscapes, numberEscape? c with
  | some n, _, _ => pure (.code n)
  | none, some (category, negated), _ => pure (.category category negated)
  | none, none, some code => .code <$> code
  | none, none, none =>
    if isOctal c then
      let digits := c :: (← takeWhile isOctal 2)
      let n := numberIn 8 digits
      if 0o377 < n then fail (.octalTooLarge ('\\' :: digits)) (digits.length + 1)
      pure (.code n)
    else if c.isDigit then fail (.badEscape ['\\', c]) 2
    else .code <$> plainEscape c

def closedWidth (index : Nat) : Reading (Option Width) := do
  let widths := (← get).widths
  if index = 0 then pure none else pure ((widths.reverse[index - 1]?).join)

/-- The number of groups opened so far, the whole match included. -/
def groupCount : Reading Nat := do pure ((← get).widths.length + 1)

/-- A group that is looked back at must be closed and must stand before the look. -/
def checkBehind (index : Nat) : Reading Unit := do
  match (← get).behindFrom with
  | none => pure ()
  | some first =>
    if (← closedWidth index).isNone then fail .openReference 0
    if first ≤ index then fail .lookBehindReference 0

def reference (modes : Modes) (index back : Nat) : Reading Expr := do
  match ← closedWidth index with
  | none => fail .openReference back
  | some width =>
    checkBehind index
    pure (.again index modes.folding width)

/-- A digit that is no zero after a backslash: a character by three octal digits, or a group. -/
def digitEscape (modes : Modes) (c : Char) : Reading Expr := do
  let second ← takeWhile Char.isDigit 1
  let digits := c :: second
  let third ← if second ≠ [] ∧ digits.all isOctal then takeWhile isOctal 1 else pure []
  if third ≠ [] then
    let digits := digits ++ third
    let n := numberIn 8 digits
    if 0o377 < n then fail (.octalTooLarge ('\\' :: digits)) (digits.length + 1)
    pure (.letter (.code n modes.folding false))
  else
    let index := numberIn 10 digits
    if index < (← groupCount) then reference modes index (digits.length + 1)
    else fail (.invalidReference index) digits.length

def classEscape? (modes : Modes) (c : Char) : Option Expr :=
  match c with
  | 'A' => some (.anchor .textStart)
  | 'Z' => some (.anchor .textEnd)
  | 'b' => some (.anchor (.wordBorder modes.ascii))
  | 'B' => some (.anchor (.noWordBorder modes.ascii))
  | _ => (lookUp c categoryEscapes).map fun (category, negated) =>
      .letter (.set [.category category negated] modes.folding modes.ascii false)

def escape (modes : Modes) (c : Char) : Reading Expr := do
  let code (n : Nat) : Expr := .letter (.code n modes.folding false)
  match classEscape? modes c, lookUp c controlEscapes, numberEscape? c with
  | some expr, _, _ => pure expr
  | none, some n, _ => pure (code n)
  | none, none, some number => code <$> number
  | none, none, none =>
    if c = '0' then
      let digits ← takeWhile isOctal 2
      pure (code (numberIn 8 digits))
    else if c.isDigit then digitEscape modes c
    else code <$> plainEscape c

def entryOf (token : Text) : Reading Entry :=
  match token with
  | ['\\', c] => setEscape c
  | c :: _ => pure (.code c.toNat)
  | [] => pure (.code 0)

/-- The entries of a set up to its closing bracket. `opening` is the position of the opening one; a
closing bracket that stands first is an entry. -/
def entries (opening : Nat) : (fuel : Nat) → List Entry → Reading (List Entry)
  | 0, found => pure found.reverse
  | fuel + 1, found => do
    match ← take with
    | none => failAt .unterminatedSet opening
    | some first =>
      if first = [']'] ∧ found ≠ [] then pure found.reverse
      else
        let entry ← entryOf first
        if !(← accept '-') then entries opening fuel (entry :: found)
        else
          match ← take with
          | none => failAt .unterminatedSet opening
          | some last =>
            if last = [']'] then pure (.code '-'.toNat :: entry :: found).reverse
            else
              let entry' ← entryOf last
              let wrong : Reading (List Entry) :=
                fail (.badRange first last) (first.length + 1 + last.length)
              match entry, entry' with
              | .code low, .code high =>
                if high < low then wrong else entries opening fuel (.range low high :: found)
              | _, _ => wrong

def set (modes : Modes) : Reading Expr := do
  let opening := (← position) - 1
  let negated ← accept '^'
  let found ← entries opening ((← get).rest.length + 1) []
  match found.eraseDups with
  | [.code n] => pure (.letter (.code n modes.folding negated))
  | found => pure (.letter (.set found modes.folding modes.ascii negated))

def countLimit : Nat := 4294967295

def countOf (digits : Text) : Reading (Option Nat) :=
  if digits = [] then pure none
  else
    match Numeral.read digits with
    | .error fault => throw (.numeral fault)
    | .ok n => if countLimit ≤ n then throw .countTooLarge else pure (some n.toNat)

/-- The least and greatest number of rounds, or nothing where an opening brace is a character. -/
def bounds? (c : Char) : Reading (Option (Nat × Option Nat)) := do
  match c with
  | '?' => pure (some (0, some 1))
  | '*' => pure (some (0, none))
  | '+' => pure (some (1, none))
  | _ =>
    let start := (← get).rest
    let here ← position
    if (← next) = some ['\x7d'] then pure none
    else
      let low ← takeWhile Char.isDigit start.length
      let high ← if (← accept ',') then takeWhile Char.isDigit start.length else pure low
      if !(← accept '\x7d') then
        goTo start
        pure none
      else
        let least ← countOf low
        let most ← countOf high
        let least := least.getD 0
        if most.any (· < least) then failAt .emptyRepeat here
        pure (some (least, most))

inductive Part
  | anchor (expr : Expr)
  | loop (expr : Expr)
  | other (expr : Expr)

def Part.expr : Part → Expr
  | .anchor expr => expr
  | .loop expr => expr
  | .other expr => expr

def Part.of : Expr → Part
  | .anchor condition => .anchor (.anchor condition)
  | expr => .other expr

def joinParts (parts : List Part) : Expr :=
  match parts with
  | [] => .empty
  | last :: parts => parts.foldl (fun expr part => .seq part.expr expr) last.expr

def greedOf : Reading Greed := do
  if (← accept '?') then return .fewest
  if (← accept '+') then return .possessive
  return .most

def repeatLast (spot least : Nat) (most : Option Nat) : List Part → Reading (List Part)
  | [] | .anchor _ :: _ => failAt .nothingToRepeat spot
  | .loop _ :: _ => failAt .multipleRepeat spot
  | .other body :: parts => do
    let greed ← greedOf
    pure (.loop (.loop greed least most body) :: parts)

/-- The problem of a token that is no flag: a letter is an unknown flag, and anything else stands
where `what` is missing. -/
def noFlag {α : Type} (token what : Text) : Reading α :=
  fail (if token.all Text.isLetter then .unknownFlag else .missing what) token.length

def flagsOn : (fuel : Nat) → Flag → List Flag → Reading (List Flag × Text)
  | 0, _, on => pure (on, [])
  | fuel + 1, flag, on => do
    if flag = .locale then fail .localeFlag 0
    let on := flag :: on
    if flag.isKind && on.any (fun other => other.isKind && other ≠ flag) then
      fail .incompatibleFlags 0
    match ← take with
    | none => fail (.missing "-, : or )") 0
    | some token =>
      if token = [')'] ∨ token = ['-'] ∨ token = [':'] then pure (on, token)
      else
        match Flag.ofToken? token with
        | some flag => flagsOn fuel flag on
        | none => noFlag token "-, : or )"

def flagsOff : (fuel : Nat) → Flag → List Flag → Reading (List Flag)
  | 0, _, off => pure off
  | fuel + 1, flag, off => do
    if flag.isKind then fail .turnedOffKind 0
    let off := flag :: off
    match ← take with
    | none => fail (.missing ":") 0
    | some token =>
      if token = [':'] then pure off
      else
        match Flag.ofToken? token with
        | some flag => flagsOff fuel flag off
        | none => noFlag token ":"

/-- The flags of a group, turned on and off; nothing for flags of the whole expression, which are
noted. -/
def groupFlags? (first : Option Flag) : Reading (Option (List Flag × List Flag)) := do
  let fuel := (← get).rest.length + 1
  let (on, stop) ← match first with
    | some flag => flagsOn fuel flag []
    | none => pure ([], ['-'])
  if stop = [')'] then
    modify fun progress => { progress with globals := on ++ progress.globals }
    pure none
  else
    if .template ∈ on then fail .turnedOnGlobal 1
    let off ← if stop = ['-'] then
        match ← take with
        | none => fail (.missing "flag") 0
        | some token =>
          match Flag.ofToken? token with
          | some flag => flagsOff fuel flag []
          | none => noFlag token "flag"
      else pure []
    if .template ∈ off then fail .turnedOffGlobal 1
    if on.any (· ∈ off) then fail .turnedOnAndOff 1
    pure (some (on, off))

def openGroup (name : Option Text) : Reading Nat := do
  let index ← groupCount
  modify fun progress => { progress with widths := none :: progress.widths }
  match name with
  | none => pure ()
  | some name =>
    match (← get).names.find? (·.1 = name) with
    | some (_, previous) => fail (.redefinition name index previous) (name.length + 1)
    | none => modify fun progress => { progress with names := (name, index) :: progress.names }
  pure index

def closeGroup (index : Nat) (width : Width) : Reading Unit :=
  modify fun progress => { progress with
    widths := progress.widths.set (progress.widths.length - index) (some width) }

def checkName (name : Text) : Reading Unit := do
  if !Text.isIdentifier name then fail (.badGroupName name) (name.length + 1)

/-- The group that a condition names, by its name or by its number; a number may come before the
group. -/
def conditionGroup (name : Text) : Reading Nat := do
  if Text.isIdentifier name then
    match (← get).names.find? (·.1 = name) with
    | some (_, index) => pure index
    | none => fail (.unknownGroupName name) (name.length + 1)
  else
    match Numeral.read name with
    | .error _ => fail (.badGroupName name) (name.length + 1)
    | .ok n =>
      if n < 0 then fail (.badGroupName name) (name.length + 1)
      if n = 0 then fail .badGroupNumber (name.length + 1)
      let index := n.toNat
      if 1073741823 ≤ index then fail (.invalidReference index) (name.length + 1)
      let spot := (← position) - name.length - 1
      modify fun progress =>
        if progress.references.any (·.1 = index) then progress
        else { progress with references := progress.references ++ [(index, spot)] }
      pure index

def skipComment (opening : Nat) : (fuel : Nat) → Reading Unit
  | 0 => pure ()
  | fuel + 1 => do
    match ← take with
    | none => failAt .unterminatedComment opening
    | some token => if token = [')'] then pure () else skipComment opening fuel

def skipLine : (fuel : Nat) → Reading Unit
  | 0 => pure ()
  | fuel + 1 => do
    match ← take with
    | none => pure ()
    | some token => if token = ['\n'] then pure () else skipLine fuel

inductive Opening
  | comment
  | globals
  | again (expr : Expr)
  | capture (name : Option Text)
  | plain (on off : List Flag)
  | atomic
  | ahead (negated : Bool)
  | behind (negated : Bool)
  | condition (index : Nat)

def opening (modes : Modes) (spot : Nat) : Reading Opening := do
  if !(← accept '?') then pure (.capture none)
  else
    match ← take with
    | none => fail .unexpectedEnd 0
    | some ['P'] =>
      if (← accept '<') then
        let name ← takeName '>' "group name"
        checkName name
        pure (.capture (some name))
      else if (← accept '=') then
        let name ← takeName ')' "group name"
        checkName name
        match (← get).names.find? (·.1 = name) with
        | none => fail (.unknownGroupName name) (name.length + 1)
        | some (_, index) => .again <$> reference modes index (name.length + 1)
      else
        match ← take with
        | none => fail .unexpectedEnd 0
        | some token => fail (.unknownExtension ('P' :: token)) (token.length + 2)
    | some [':'] => pure (.plain [] [])
    | some ['#'] =>
      skipComment spot ((← get).rest.length + 1)
      pure .comment
    | some ['='] => pure (.ahead false)
    | some ['!'] => pure (.ahead true)
    | some ['<'] =>
      match ← take with
      | none => fail .unexpectedEnd 0
      | some ['='] => pure (.behind false)
      | some ['!'] => pure (.behind true)
      | some token => fail (.unknownExtension ('<' :: token)) (token.length + 2)
    | some ['('] =>
      let name ← takeName ')' "group name"
      let index ← conditionGroup name
      checkBehind index
      pure (.condition index)
    | some ['>'] => pure .atomic
    | some token =>
      let first := Flag.ofToken? token
      if first.isSome ∨ token = ['-'] then
        match ← groupFlags? first with
        | none => pure .globals
        | some (on, off) => pure (.plain on off)
      else fail (.unknownExtension token) (token.length + 1)

def globalModes : Reading Modes := do pure (Modes.change {} (← get).globals [])

def close (spot : Nat) : Reading Unit := do
  if !(← accept ')') then failAt .unterminatedGroup spot

mutual

def alternatives (top first : Bool) (modes : Modes) : (fuel : Nat) → Reading Expr
  | 0 => pure .empty
  | fuel + 1 => do
    let modes ← if top then globalModes else pure modes
    let expr ← sequence (top && first) modes fuel []
    if (← accept '|') then .either expr <$> alternatives top false modes fuel else pure expr

/-- Reads the parts of a sequence up to a bar, a closing bracket or the end. Flags of the whole
expression may stand only where it begins. -/
def sequence (start : Bool) (modes : Modes) : (fuel : Nat) → List Part → Reading Expr
  | 0, parts => pure (joinParts parts)
  | fuel + 1, parts => do
    match ← next with
    | none | some ['|'] | some [')'] => pure (joinParts parts)
    | some token =>
      let spot ← position
      advance
      match token with
      | [_, c] =>
        let expr ← escape modes c
        sequence start modes fuel (Part.of expr :: parts)
      | [c] =>
        let put (expr : Expr) := sequence start modes fuel (Part.of expr :: parts)
        if modes.verbose ∧ c ∈ (" \t\n\r\x0b\x0c" : Text) then sequence start modes fuel parts
        else if modes.verbose ∧ c = '#' then
          skipLine ((← get).rest.length + 1)
          sequence start modes fuel parts
        else if c = '[' then put (← set modes)
        else if c ∈ ("*+?\x7b" : Text) then
          match ← bounds? c with
          | none => put (.letter (.code c.toNat modes.folding false))
          | some (least, most) =>
            sequence start modes fuel (← repeatLast spot least most parts)
        else if c = '.' then put (.letter (if modes.dotAll then .any else .anyButLineFeed))
        else if c = '^' then put (.anchor (if modes.multiline then .lineStart else .textStart))
        else if c = '$' then put (.anchor (if modes.multiline then .lineEnd else .lastLineEnd))
        else if c = '(' then
          match ← opening modes spot with
          | .comment => sequence start modes fuel parts
          | .globals =>
            if !start || !parts.isEmpty then failAt .misplacedFlags spot
            sequence start (← globalModes) fuel parts
          | .again expr => sequence start modes fuel (.other expr :: parts)
          | head =>
            let expr ← group modes spot head fuel
            sequence start modes fuel (.other expr :: parts)
        else put (.letter (.code c.toNat modes.folding false))
      | _ => sequence start modes fuel parts

def group (modes : Modes) (spot : Nat) (head : Opening) : (fuel : Nat) → Reading Expr
  | 0 => pure .empty
  | fuel + 1 => do
    match head with
    | .capture name =>
      let index ← openGroup name
      let body ← alternatives false false modes fuel
      close spot
      closeGroup index body.width
      pure (.group index body)
    | .plain on off =>
      let body ← alternatives false false (modes.change on off) fuel
      close spot
      pure body
    | .atomic =>
      let body ← alternatives false false modes fuel
      close spot
      pure (.atomic body)
    | .ahead negated =>
      let body ← alternatives false false modes fuel
      close spot
      pure (.ahead negated body)
    | .behind negated =>
      let outer := (← get).behindFrom
      let count ← groupCount
      modify fun progress => { progress with behindFrom := some (outer.getD count) }
      let body ← alternatives false false modes fuel
      modify fun progress => { progress with behindFrom := outer }
      close spot
      pure (.behind negated body)
    | .condition index =>
      let present ← sequence false modes fuel []
      let absent ← if (← accept '|') then sequence false modes fuel [] else pure .empty
      if (← next) = some ['|'] then fail .tooManyBranches 0
      close spot
      pure (.ifGroup index present absent)
    | _ => pure .empty

end

def behindLimit : Nat := 4294967295

/-- The first look behind of varying width, or the first loop in a template, in reading order. -/
def Expr.problem? (template : Bool) : Expr → Option Problem
  | .empty | .letter _ | .anchor _ | .again _ _ _ => none
  | .seq first second | .either first second | .ifGroup _ first second =>
    match first.problem? template with
    | some problem => some problem
    | none => second.problem? template
  | .loop greed _ _ body =>
    if template then
      some (.templateLoop (match greed with
        | .most => "MAX_REPEAT"
        | .fewest => "MIN_REPEAT"
        | .possessive => "POSSESSIVE_REPEAT"))
    else body.problem? template
  | .group _ body | .ahead _ body | .atomic body => body.problem? template
  | .behind _ body =>
    let (least, most) := body.width
    if behindLimit < least then some .lookBehindTooFar
    else if least ≠ most then some .lookBehindWidth
    else body.problem? template

def whole : Reading Expr := do
  let text := (← read).text
  goTo text
  let expr ← alternatives true true {} (3 * text.length + 3)
  let globals := (← get).globals
  if .ascii ∈ globals ∧ .unicode ∈ globals then throw .mixedKinds
  if (← next).isSome then fail .unbalanced 0
  let count ← groupCount
  match (← get).references.find? (count ≤ ·.1) with
  | some (index, spot) => failAt (.invalidReference index) spot
  | none => pure ()
  match expr.problem? (.template ∈ globals) with
  | some problem => throw (.malformed problem none)
  | none => pure expr

end Regex

structure Regex where
  expr : Regex.Expr
  deriving DecidableEq, Repr

def Regex.read (text : Text) (named : Text → Option Char := fun _ => none) :
    Except Regex.Fault Regex := do
  let (expr, _) ← (Regex.whole ⟨text, named⟩).run { rest := text }
  pure ⟨expr⟩

end BuildTags
