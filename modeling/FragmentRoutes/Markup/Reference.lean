/-
  Character references in markup.

  A reference is an ampersand with a number or a name after it.  A number stands for its
  code point, with the substitutions of HTML 5 for code points that are no characters.  A
  name stands for the characters of the longest known name that starts it; only the names
  of `openNames` may be followed by other letters.  What is no reference stays as it is.
-/
import FragmentRoutes.Markup.Reference.Names
import FragmentRoutes.Numeral.Whole

namespace FragmentRoutes.Markup

namespace Reference

/-! ### Names -/

/-- The number that a digit of base sixteen stands for. -/
def hexValue (c : Char) : Nat :=
  if Text.isAsciiDigit c then c.toNat - 48 else (Text.lowerAscii c).toNat - 87

/-- A digit of base sixteen. -/
def isHexDigit (c : Char) : Bool :=
  let d := Text.lowerAscii c
  Text.isAsciiDigit c || ('a' ≤ d && d ≤ 'f')

/-- The number that digits spell in base sixteen. -/
def ofHexDigits (ds : List Char) : Nat :=
  ds.foldl (fun n d => 16 * n + hexValue d) 0

/-- A word of the table of names: the name and the characters it stands for. -/
def readEntry (word : String) : String × List Char :=
  let cs := word.toList
  let codes := (String.ofList ((cs.dropWhile (· != '=')).drop 1)).splitOn "+"
  (String.ofList (cs.takeWhile (· != '=')),
    codes.map fun code => Char.ofNat (ofHexDigits code.toList))

/-- The names with the characters they stand for. -/
def names : List (String × List Char) :=
  texts.flatMap fun text => (text.splitOn " ").map readEntry

/-- The names that other letters may follow. -/
def openNameList : List String :=
  openNames.flatMap fun text => text.splitOn " "

/-- The characters that a name stands for. -/
def named? (name : List Char) : Option (List Char) :=
  (names.find? fun e => e.1 == String.ofList name).map (·.2)

/-- The longest start of a name, of at most `length` characters, that is known without a
semicolon: the characters it stands for, and what follows it. -/
def openStart? (name : List Char) : Nat → Option (List Char × List Char)
  | 0 => none
  | length + 1 =>
    let start := name.take (length + 1)
    if openNameList.contains (String.ofList start) then
      (named? start).map fun cs => (cs, name.drop (length + 1))
    else openStart? name length

/-- What a name after an ampersand stands for; `closed` with a semicolon after it. -/
def ofName (name : List Char) (closed : Bool) : List Char :=
  let tail := if closed then [';'] else []
  match if closed then named? name else none with
  | some cs => cs
  | none => match openStart? name name.length with
    | some (cs, rest) => cs ++ rest ++ tail
    | none => '&' :: name ++ tail

/-! ### Numbers -/

/-- The characters that the code points from 128 to 159 stand for: those of a common
code page, where it has one. -/
def legacyCodes : List Nat := [
  0x20ac, 0x81, 0x201a, 0x192, 0x201e, 0x2026, 0x2020, 0x2021, 0x2c6, 0x2030, 0x160, 0x2039,
  0x152, 0x8d, 0x17d, 0x8f, 0x90, 0x2018, 0x2019, 0x201c, 0x201d, 0x2022, 0x2013, 0x2014,
  0x2dc, 0x2122, 0x161, 0x203a, 0x153, 0x9d, 0x17e, 0x178]

/-- The code point is that of a control or of no character. -/
def isNoCharacter (n : Nat) : Bool :=
  (1 ≤ n && n ≤ 8) || n == 0xb || (0xe ≤ n && n ≤ 0x1f) || n == 0x7f ||
    (0xfdd0 ≤ n && n ≤ 0xfdef) || 0xfffe ≤ n % 0x10000

/-- What a number stands for. -/
def ofNumber (n : Nat) : List Char :=
  if n = 0 then ['\ufffd']
  else if 0x80 ≤ n && n ≤ 0x9f then
    (legacyCodes[n - 0x80]?.map Char.ofNat).toList
  else if (0xd800 ≤ n && n ≤ 0xdfff) || 0x10ffff < n then ['\ufffd']
  else if isNoCharacter n then []
  else [Char.ofNat n]

/-! ### Texts -/

/-- A character of the name of a reference. -/
def isNameChar (c : Char) : Bool :=
  !(['\t', '\n', '\x0c', ' ', '<', '&', '#', ';'].contains c)

/-- What follows an optional semicolon. -/
def afterSemicolon : List Char → List Char
  | ';' :: cs => cs
  | cs => cs

/-- What the reference after an ampersand stands for, and what follows it; `none` when
the ampersand stands for itself, and an error for a number that is too long to read. -/
def read? : List Char → Except Unit (Option (List Char × List Char))
  | '#' :: cs =>
    let digits := cs.takeWhile Text.isAsciiDigit
    if !digits.isEmpty then
      if Numeral.maxDigits < digits.length then .error ()
      else
        let rest := cs.dropWhile Text.isAsciiDigit
        .ok (some (ofNumber (Numeral.ofDigits digits), afterSemicolon rest))
    else match cs with
      | x :: hex =>
        let digits := hex.takeWhile isHexDigit
        if (x == 'x' || x == 'X') && !digits.isEmpty then
          .ok (some (ofNumber (ofHexDigits digits),
            afterSemicolon (hex.dropWhile isHexDigit)))
        else .ok none
      | [] => .ok none
  | cs =>
    let name := (cs.take 32).takeWhile isNameChar
    let rest := cs.drop name.length
    if name.isEmpty then .ok none
    else .ok (some (ofName name (rest.head? == some ';'), afterSemicolon rest))

/-- The characters with every reference replaced; the bound is their number. -/
def replaceWithin : Nat → List Char → Except Unit (List Char)
  | 0, cs => .ok cs
  | _, [] => .ok []
  | fuel + 1, c :: cs =>
    if c == '&' then do
      match ← read? cs with
      | some (image, rest) => return image ++ (← replaceWithin fuel rest)
      | none => return c :: (← replaceWithin fuel cs)
    else do return c :: (← replaceWithin fuel cs)

/-- The characters with every reference replaced by what it stands for.  An error when a
number in a reference is too long to read. -/
def replace (cs : List Char) : Except Unit (List Char) :=
  replaceWithin cs.length cs

end Reference

end FragmentRoutes.Markup
