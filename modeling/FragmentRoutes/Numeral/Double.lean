/-
  Binary floating point numbers of double precision, in exact form.

  A finite number is a mantissa below two to the fifty-third times a power of two.
  It is `canonical` when the exponent is the least one, -1074, or the mantissa is at
  least two to the fifty-second, so each value has one canonical form for each sign.
  A decimal is rounded to the nearest number, and a tie goes to the even mantissa
  (`ofDecimal`); the arithmetic is exact on natural numbers throughout.
-/
import FragmentRoutes.Numeral.Whole

namespace FragmentRoutes.Numeral

open Text

/-- A double precision number: not a number, an infinity, or
`mantissa * 2 ^ exponent` with a sign. -/
inductive Double where
  | nan
  | infinite (negative : Bool)
  | finite (negative : Bool) (mantissa : Nat) (exponent : Int)
  deriving DecidableEq, Repr, Inhabited

namespace Double

/-- The least exponent of a finite number. -/
def leastExponent : Int := -1074

/-- The greatest exponent of a finite number. -/
def greatestExponent : Int := 971

/-- Two to the fifty-second, the least mantissa above the least exponent. -/
def hidden : Nat := 0x10000000000000

/-- The quotient rounded to the nearest whole number, a tie to the even one. -/
def roundQuotient (num den : Nat) : Nat :=
  let q := num / den
  let r := num % den
  if 2 * r < den then q
  else if den < 2 * r then q + 1
  else if q % 2 = 0 then q else q + 1

/-- `num / den * 2 ^ e` as a quotient of whole numbers. -/
def scale (num den : Nat) (e : Int) : Nat × Nat :=
  (num * Nat.pow 2 e.toNat, den * Nat.pow 2 (-e).toNat)

/-- The quotient `num / den` of positive numbers, rounded to double precision. -/
def ofQuotient (negative : Bool) (num den : Nat) : Double :=
  if num = 0 then .finite negative 0 leastExponent
  else
    let guess : Int := (Nat.log2 num : Int) - (Nat.log2 den : Int) - 52
    -- the guess is right or one too large
    let (n, d) := scale num den (-guess)
    let e := max leastExponent (if n < hidden * d then guess - 1 else guess)
    let (n, d) := scale num den (-e)
    let m := roundQuotient n d
    let (m, e) := if m = 2 * hidden then (hidden, e + 1) else (m, e)
    if greatestExponent < e then .infinite negative else .finite negative m e

/-- `digits * 10 ^ exponent`, rounded to double precision.  Exponents that put the
value far outside the range of finite numbers are decided without arithmetic. -/
def ofDecimal (negative : Bool) (digits : Nat) (count : Nat) (exponent : Int) : Double :=
  if digits = 0 then .finite negative 0 leastExponent
  else if 400 < exponent then .infinite negative
  else if exponent + count < -400 then .finite negative 0 leastExponent
  else if 0 ≤ exponent then ofQuotient negative (digits * Nat.pow 10 exponent.toNat) 1
  else ofQuotient negative digits (Nat.pow 10 (-exponent).toNat)

end Double

/-- The digits of an optional run: `none` for a malformed run, no digits for an
empty one. -/
def ungroupOptional (cs : List Char) : Option (List Char) :=
  if cs.isEmpty then some [] else ungroupDigits cs

/-- The exponent after its letter: an optional sign and digits. -/
def readExponent? (cs : List Char) : Option Int :=
  let (negative, ds) := splitSign cs
  (ungroupDigits ds).map fun ds =>
    -- beyond six significant digits the size alone decides
    let ds := ds.dropWhile (· == '0')
    let n : Int := if 6 < ds.length then 1000000 else Int.ofNat (ofDigits ds)
    if negative then -n else n

/-- An unsigned decimal with an optional fraction and an optional exponent, such as
`1`, `1.`, `.5` or `1_0.5e-3`. -/
def readUnsignedDecimal? (negative : Bool) (cs : List Char) : Option Double :=
  let isMantissa := fun c => c != 'e' && c != 'E'
  let mantissa := cs.takeWhile isMantissa
  let power := cs.dropWhile isMantissa
  let whole := mantissa.takeWhile (· != '.')
  let fraction := (mantissa.dropWhile (· != '.')).drop 1
  match ungroupOptional whole, ungroupOptional fraction with
  | some ws, some fs =>
    if ws.isEmpty && fs.isEmpty then none
    else
      let digits := (ws ++ fs).dropWhile (· == '0')
      let exponent? := if power.isEmpty then some 0 else readExponent? (power.drop 1)
      exponent?.map fun e =>
        Double.ofDecimal negative (ofDigits digits) digits.length (e - fs.length)
  | _, _ => none

/-- The double precision number that a text spells: a decimal, or `inf`, `infinity`
or `nan` in any case, with an optional sign and blanks around it. -/
def readDouble? (s : String) : Option Double :=
  let (negative, cs) := splitSign (plainChars s)
  let word := String.ofList (cs.map lowerAscii)
  if word = "inf" || word = "infinity" then some (.infinite negative)
  else if word = "nan" then some .nan
  else readUnsignedDecimal? negative cs

end FragmentRoutes.Numeral
