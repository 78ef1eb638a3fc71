/-
  Well-formed regular expressions.

  `check` reads a regular expression as it stands in a form attribute and finds out
  whether it can be used: brackets are closed, repetitions have something to repeat,
  references name groups that are closed, and look-behinds have one length.  What the
  expression matches is not needed here, so no tree is built; the reader keeps the span
  of each part and the groups that were opened.
-/
import FragmentRoutes.Numeral.Whole
import FragmentRoutes.Regex.Span
import FragmentRoutes.Text.CharacterName
import FragmentRoutes.Text.Identifier

namespace FragmentRoutes.Regex

open Text

/-- Why a text is no regular expression: it has no meaning, it asks for more repetitions
than there can be or writes their number too long, or it asks for two alphabets. -/
inductive Fault where
  | malformed
  | hugeRepeat
  | longNumber
  | twoAlphabets
  deriving DecidableEq, Repr

/-- The unit in which an expression is read: a character, or one after a backslash.  A
backslash at the very end is `dangling`. -/
inductive Token where
  | char (c : Char)
  | escaped (c : Char)
  | dangling
  deriving DecidableEq, Repr, Inhabited

/-- The tokens of an expression. -/
def tokens : List Char → List Token
  | [] => []
  | '\\' :: c :: cs => .escaped c :: tokens cs
  | ['\\'] => [.dangling]
  | c :: cs => .char c :: tokens cs

/-- The characters of a token. -/
def Token.chars : Token → List Char
  | char c => [c]
  | escaped c => ['\\', c]
  | dangling => ['\\']

/-- A group: its name, and its span once it is closed. -/
structure Group where
  name : Option String
  span : Option Span
  deriving DecidableEq, Repr

/-- How the reader stands: the tokens ahead, the groups opened so far, the number of
groups when the outermost look-behind began, the groups that conditions ask for by
number, and the letters of the modes of the whole expression. -/
structure State where
  rest : List Token
  groups : List Group
  lookBehind : Option Nat
  conditions : List Nat
  modes : List Char
  deriving Repr

/-- A step of the reader. -/
abbrev Read := StateT State (Except Fault)

namespace Read

/-! ### Tokens -/

/-- The expression is malformed. -/
def refuse : Read α :=
  throw .malformed

/-- The token ahead. -/
def next : Read (Option Token) := do
  return (← get).rest.head?

/-- Refuse a backslash at the very end as soon as it is ahead. -/
def refuseDangling : Read Unit := do
  if (← next) == some .dangling then refuse

/-- Go past the token ahead and return it. -/
def take : Read (Option Token) := do
  let token ← next
  modify fun s => { s with rest := s.rest.drop 1 }
  refuseDangling
  return token

/-- Go past a character when it is ahead. -/
def accept (c : Char) : Read Bool := do
  if (← next) == some (.char c) then
    let _ ← take
    return true
  else return false

/-- Go past a character that must be ahead. -/
def expect (c : Char) : Read Unit := do
  unless ← accept c do refuse

/-- Go past at most `n` characters of a class and return them. -/
def takeWhile (isMember : Char → Bool) : Nat → Read (List Char)
  | 0 => return []
  | n + 1 => do
    match ← next with
    | some (.char c) =>
      if isMember c then
        let _ ← take
        return c :: (← takeWhile isMember n)
      else return []
    | _ => return []

/-- The number of tokens ahead, the bound of every loop over them. -/
def remaining : Read Nat := do
  return (← get).rest.length

/-- Go past the tokens up to a character and the character itself; the bound is the
number of tokens. -/
def takeUntil (stop : Char) : Nat → Read (List Char)
  | 0 => refuse
  | fuel + 1 => do
    match ← take with
    | none => refuse
    | some token =>
      if token == .char stop then return []
      else return token.chars ++ (← takeUntil stop fuel)

/-- The name up to a character, which must not be empty. -/
def nameUntil (stop : Char) : Read String := do
  let name ← takeUntil stop (← remaining)
  if name.isEmpty then refuse
  return String.ofList name

/-- Go past a comment that ends with its line. -/
def skipLine : Nat → Read Unit
  | 0 => return
  | fuel + 1 => do
    match ← take with
    | none => return
    | some token => unless token == .char '\n' do skipLine fuel

/-! ### Groups -/

/-- The span of a group, when it is closed. -/
def closedSpan? (index : Nat) : Read (Option Span) := do
  return ((← get).groups[index]?).bind Group.span

/-- Refuse a reference to a group in the look-behind that it is made in. -/
def checkLookBehind (index : Nat) : Read Unit := do
  match (← get).lookBehind with
  | none => return
  | some count =>
    if (← closedSpan? index).isNone || count ≤ index then refuse

/-- The index of a group by its name. -/
def named (name : String) : Read Nat := do
  match (← get).groups.findIdx? fun g => g.name == some name with
  | some index => return index
  | none => refuse

/-- The span of a reference to a group. -/
def reference (index : Nat) : Read Span := do
  match ← closedSpan? index with
  | none => refuse
  | some span =>
    checkLookBehind index
    return span

/-- Open a group, whose name must be new, and return its index. -/
def openGroup (name : Option String) : Read Nat := do
  let groups := (← get).groups
  if name.isSome && groups.any fun g => g.name == name then refuse
  modify fun s => { s with groups := s.groups ++ [⟨name, none⟩] }
  return groups.length

/-- Close a group. -/
def closeGroup (index : Nat) (span : Span) : Read Unit :=
  modify fun s => { s with groups := s.groups.modify index fun g => { g with span := some span } }

/-! ### Escapes -/

/-- A digit of base eight. -/
def isOctal (c : Char) : Bool :=
  '0' ≤ c && c ≤ '7'

/-- A digit of base sixteen. -/
def isHex (c : Char) : Bool :=
  let d := lowerAscii c
  isAsciiDigit c || ('a' ≤ d && d ≤ 'f')

/-- The number that digits spell in a base. -/
def ofDigits (base : Nat) (ds : List Char) : Nat :=
  ds.foldl (fun n d =>
    base * n + if isAsciiDigit d then d.toNat - 48 else (lowerAscii d).toNat - 87) 0

/-- Letters of controls with their code points. -/
def controls : List (Char × Nat) := [
  ('a', 7), ('b', 8), ('f', 12), ('n', 10), ('r', 13), ('t', 9), ('v', 11), ('\\', 92)]

/-- Letters of classes of characters. -/
def classLetters : List Char := ['d', 'D', 's', 'S', 'w', 'W']

/-- Letters of places between characters. -/
def placeLetters : List Char := ['A', 'b', 'B', 'Z']

/-- The code point of exactly `count` digits of base sixteen. -/
def hexCode (count : Nat) : Read Nat := do
  let digits ← takeWhile isHex count
  if digits.length = count then return ofDigits 16 digits else refuse

/-- The code point of a name in braces. -/
def namedCode : Read Nat := do
  expect '\x7b'
  match codeNamed? (← nameUntil '\x7d').toList with
  | some n => return n
  | none => refuse

/-- The code point of an escape that is written alike everywhere. -/
def commonEscape (c : Char) : Read Nat := do
  if c == 'x' then hexCode 2
  else if c == 'u' then hexCode 4
  else if c == 'U' then
    let n ← hexCode 8
    if n < 0x110000 then return n else refuse
  else if c == 'N' then namedCode
  else if isAsciiLetter c then refuse
  else return c.toNat

/-! ### Sets -/

/-- A member of a set: a code point, or a class of characters. -/
inductive Member where
  | code (n : Nat)
  | charClass

/-- The member of an escape in a set. -/
def memberEscape (c : Char) : Read Member := do
  match controls.find? fun e => e.1 == c with
  | some (_, n) => return .code n
  | none =>
    if classLetters.contains c then return .charClass
    else if isOctal c then
      let n := ofDigits 8 (c :: (← takeWhile isOctal 2))
      if n ≤ 0o377 then return .code n else refuse
    else if isAsciiDigit c then refuse
    else return .code (← commonEscape c)

/-- The member that a token starts. -/
def member : Token → Read Member
  | .char c => return .code c.toNat
  | .escaped c => memberEscape c
  | .dangling => refuse

/-- Refuse a range whose ends are no code points or out of order. -/
def checkRange : Member → Member → Read Unit
  | .code lo, .code hi => if hi < lo then refuse else return
  | _, _ => refuse

/-- Read the members of a set up to its closing bracket, which stands for itself when it
comes first; the bound is the number of tokens. -/
def members (started : Bool) : Nat → Read Unit
  | 0 => refuse
  | fuel + 1 => do
    match ← take with
    | none => refuse
    | some token =>
      if started && token == .char ']' then return
      let low ← member token
      if ← accept '-' then
        match ← take with
        | none => refuse
        | some token =>
          if token == .char ']' then return
          checkRange low (← member token)
          members true fuel
      else members true fuel

/-! ### Modes -/

/-- The letters of modes. -/
def modeLetters : List Char := ['i', 'L', 'm', 's', 'x', 'a', 't', 'u']

/-- The modes that choose an alphabet. -/
def alphabets : List Char := ['a', 'u', 'L']

/-- Read letters of modes to turn on, from the first on; returns them and the mark that
ends them. -/
def modesOn (on : List Char) (c : Char) : Nat → Read (List Char × Char)
  | 0 => refuse
  | fuel + 1 => do
    if c == 'L' then refuse
    if alphabets.contains c && on.any fun d => alphabets.contains d && d != c then refuse
    match ← take with
    | some (.char d) =>
      if d == ')' || d == '-' || d == ':' then return (c :: on, d)
      else if modeLetters.contains d then modesOn (c :: on) d fuel
      else refuse
    | _ => refuse

/-- Read letters of modes to turn off up to the colon, from the first on. -/
def modesOff (off : List Char) (c : Char) : Nat → Read (List Char)
  | 0 => refuse
  | fuel + 1 => do
    if alphabets.contains c then refuse
    match ← take with
    | some (.char d) =>
      if d == ':' then return c :: off
      else if modeLetters.contains d then modesOff (c :: off) d fuel
      else refuse
    | _ => refuse

/-- Read modes whose first letter is given: those that a group turns on and off, or
`none` when they are for the whole expression. -/
def modes (c : Char) : Read (Option (List Char × List Char)) := do
  let bound := (← remaining) + 1
  let (on, stop) ← if c == '-' then pure ([], '-') else modesOn [] c bound
  if stop == ')' then
    modify fun s => { s with modes := on ++ s.modes }
    return none
  if on.contains 't' then refuse
  let off ← if stop == '-' then
      match ← take with
      | some (.char d) => if modeLetters.contains d then modesOff [] d bound else refuse
      | _ => refuse
    else pure []
  if off.contains 't' || on.any off.contains then refuse
  return some (on, off)

/-- The mode in which blanks and comments are passed over holds for the whole. -/
def isSpaced : Read Bool := do
  return (← get).modes.contains 'x'

/-! ### Repetitions -/

/-- The greatest number of repetitions, which stands for no bound. -/
def unbounded : Nat := 0xffffffff

/-- The number that digits spell, when it may count repetitions. -/
def count (ds : List Char) : Read Nat := do
  if Numeral.maxDigits < ds.length then throw .longNumber
  let n := Numeral.ofDigits ds
  if unbounded ≤ n then throw .hugeRepeat
  return n

/-- The bounds between braces, after the opening one; `none`, with nothing read, when the
brace stands for itself. -/
def bounds : Read (Option (Nat × Option Nat)) := do
  let start ← get
  if (← next) == some (.char '\x7d') then return none
  let low ← takeWhile isAsciiDigit (← remaining)
  let high ← if ← accept ',' then takeWhile isAsciiDigit (← remaining) else pure low
  if !(← accept '\x7d') then
    set start
    return none
  let least ← if low.isEmpty then pure 0 else count low
  if high.isEmpty then return some (least, none)
  let most ← count high
  if most < least then refuse
  return some (least, some most)

/-- What may be repeated: nothing that is a place, and nothing that is repeated. -/
inductive Kind where
  | place
  | repeated
  | other
  deriving DecidableEq, Repr

/-- The parts read so far: those before the last one, and the last one. -/
structure Parts where
  before : Span
  last : Option (Kind × Span)

/-- No parts. -/
def Parts.none : Parts :=
  ⟨.empty, Option.none⟩

/-- The span of the parts. -/
def Parts.span (parts : Parts) : Span :=
  match parts.last with
  | some (_, span) => parts.before.append span
  | Option.none => parts.before

/-- The parts with one more. -/
def Parts.push (parts : Parts) (kind : Kind) (span : Span) : Parts :=
  ⟨parts.span, some (kind, span)⟩

/-- The parts with the last one repeated. -/
def repeatLast (parts : Parts) (least : Nat) (most : Option Nat) : Read Parts := do
  match parts.last with
  | some (.other, span) =>
    unless ← accept '?' do
      let _ ← accept '+'
    return ⟨parts.before, some (.repeated, span.times least most)⟩
  | _ => refuse

/-! ### Expressions -/

/-- The part of an escape outside of sets. -/
def escape (parts : Parts) (c : Char) : Read Parts := do
  if placeLetters.contains c then return parts.push .place .empty
  else if classLetters.contains c || controls.any fun e => e.1 == c then
    return parts.push .other (.ofLength 1)
  else if c == '0' then
    let _ ← takeWhile isOctal 2
    return parts.push .other (.ofLength 1)
  else if isAsciiDigit c then
    let second ← takeWhile isAsciiDigit 1
    let third ←
      if !second.isEmpty && (c :: second).all isOctal then takeWhile isOctal 1 else pure []
    if !third.isEmpty then
      if ofDigits 8 (c :: second ++ third) ≤ 0o377 then return parts.push .other (.ofLength 1)
      else refuse
    else return parts.push .other (← reference (ofDigits 10 (c :: second)))
  else
    let _ ← commonEscape c
    return parts.push .other (.ofLength 1)

/-- The greatest number of groups. -/
def maxGroups : Nat := 0x3fffffff

/-- The group that a condition asks for, by name or by number. -/
def condition (name : String) : Read Nat := do
  if isIdentifier name then named name
  else match Numeral.readWhole? name with
    | none => refuse
    | some n =>
      if n ≤ 0 || (maxGroups : Int) ≤ n then refuse
      modify fun s => { s with conditions := n.toNat :: s.conditions }
      return n.toNat

/-- What follows the opening mark of a group: an inner expression, of a kind, or modes
for the whole or a comment or a reference, which are complete. -/
inductive Opening where
  | group (name : Option String) (captures : Bool) (spaced : Bool)
  | look (behind : Bool)
  | condition (index : Nat)
  | reference (span : Span)
  | comment
  | modes

/-- Read the opening of a group after its question mark. -/
def opening (spaced : Bool) : Read Opening := do
  match ← take with
  | some (.char 'P') =>
    if ← accept '<' then
      let name ← nameUntil '>'
      if isIdentifier name then return .group (some name) true spaced else refuse
    else if ← accept '=' then
      let name ← nameUntil ')'
      if !isIdentifier name then refuse
      return .reference (← reference (← named name))
    else refuse
  | some (.char ':') => return .group none false spaced
  | some (.char '>') => return .group none false spaced
  | some (.char '#') =>
    let _ ← takeUntil ')' (← remaining)
    return .comment
  | some (.char '=') => return .look false
  | some (.char '!') => return .look false
  | some (.char '<') =>
    match ← take with
    | some (.char '=') => return .look true
    | some (.char '!') => return .look true
    | _ => refuse
  | some (.char '(') =>
    let index ← condition (← nameUntil ')')
    checkLookBehind index
    return .condition index
  | some (.char c) =>
    if modeLetters.contains c || c == '-' then
      match ← modes c with
      | none => return .modes
      | some (on, off) =>
        return .group none false ((spaced || on.contains 'x') && !off.contains 'x')
    else refuse
  | _ => refuse

/-- A character that is passed over between parts. -/
def isSpace (c : Char) : Bool :=
  c == ' ' || c == '\t' || c == '\n' || c == '\r' || c == '\x0b' || c == '\x0c'

mutual

/-- Read alternatives; `top` for those of the whole expression.  The bound is the number
of tokens ahead. -/
def alternatives (fuel : Nat) (top spaced : Bool) : Read Span := do
  match fuel with
  | 0 => refuse
  | fuel + 1 =>
    let span ← sequence fuel spaced top Parts.none
    moreAlternatives fuel top spaced span

/-- Read the alternatives after the first, whose span is given. -/
def moreAlternatives (fuel : Nat) (top spaced : Bool) (span : Span) : Read Span := do
  match fuel with
  | 0 => refuse
  | fuel + 1 =>
    if ← accept '|' then
      let spaced ← if top then isSpaced else pure spaced
      let next ← sequence fuel spaced false Parts.none
      moreAlternatives fuel top spaced (span.orElse next)
    else return span

/-- Read parts up to the end of an alternative or of the group.  Modes for the whole may
only come `first`. -/
def sequence (fuel : Nat) (spaced first : Bool) (parts : Parts) : Read Span := do
  match fuel with
  | 0 => refuse
  | fuel + 1 =>
    match ← next with
    | none => return parts.span
    | some (.char '|') => return parts.span
    | some (.char ')') => return parts.span
    | some token =>
      let _ ← take
      match token with
      | .dangling => refuse
      | .escaped c => sequence fuel spaced first (← escape parts c)
      | .char c =>
        if spaced && isSpace c then sequence fuel spaced first parts
        else if spaced && c == '#' then
          skipLine (← remaining)
          sequence fuel spaced first parts
        else if c == '[' then
          let _ ← accept '^'
          members false ((← remaining) + 1)
          sequence fuel spaced first (parts.push .other (.ofLength 1))
        else if c == '?' then sequence fuel spaced first (← repeatLast parts 0 (some 1))
        else if c == '*' then sequence fuel spaced first (← repeatLast parts 0 none)
        else if c == '+' then sequence fuel spaced first (← repeatLast parts 1 none)
        else if c == '\x7b' then
          match ← bounds with
          | none => sequence fuel spaced first (parts.push .other (.ofLength 1))
          | some (least, most) => sequence fuel spaced first (← repeatLast parts least most)
        else if c == '^' || c == '$' then sequence fuel spaced first (parts.push .place .empty)
        else if c == '(' then
          let opened ← if ← accept '?' then opening spaced else pure (.group none true spaced)
          match opened with
          | .comment => sequence fuel spaced first parts
          | .modes =>
            if !first || parts.last.isSome then refuse
            sequence fuel (← isSpaced) first parts
          | .reference span => sequence fuel spaced first (parts.push .other span)
          | .look behind =>
            let outer := (← get).lookBehind
            if behind && outer.isNone then
              modify fun s => { s with lookBehind := some s.groups.length }
            let span ← alternatives fuel false spaced
            modify fun s => { s with lookBehind := outer }
            expect ')'
            sequence fuel spaced first (parts.push .other (span.look behind))
          | .condition _ =>
            let yes ← sequence fuel spaced false Parts.none
            let no ← if ← accept '|' then sequence fuel spaced false Parts.none
              else pure Span.empty
            expect ')'
            sequence fuel spaced first (parts.push .other (yes.orElse no))
          | .group name captures inner =>
            let index? ← if captures then some <$> openGroup name else pure none
            let span ← alternatives fuel false inner
            expect ')'
            if let some index := index? then closeGroup index span
            sequence fuel spaced first (parts.push .other span)
        else sequence fuel spaced first (parts.push .other (.ofLength 1))

end

/-- Read a whole expression. -/
def whole : Read Unit := do
  refuseDangling
  let span ← alternatives (4 * (← remaining) + 4) true false
  let state ← get
  if state.modes.contains 'a' && state.modes.contains 'u' then throw .twoAlphabets
  if !state.rest.isEmpty then refuse
  if state.conditions.any (state.groups.length ≤ ·) then refuse
  if span.uneven || (state.modes.contains 't' && span.repeats) then refuse

end Read

/-- What is wrong with a regular expression, if anything. -/
def check (pattern : String) : Except Fault Unit :=
  (Read.whole.run' ⟨tokens pattern.toList, [⟨none, none⟩], none, [], []⟩)

end FragmentRoutes.Regex
