/-
  The shortest decimal text of a double precision number.

  The text of a finite number has the fewest digits that read back as that number;
  of two such decimals it is the nearer one, and of two equally near the one with an
  even last digit.  The search tries one digit, then two, and so on: on the grid of
  decimals with that many digits it looks at the two neighbours of the number and
  asks whether they lie in the interval of reals that round to it.  Seventeen digits
  always suffice.
-/
import FragmentRoutes.Numeral.Double

namespace FragmentRoutes.Numeral

namespace Double

/-- Whether `num / den` lies in the interval of reals that round to
`m * 2 ^ e`, both given as whole numbers over a common denominator: `low` and
`high` are the ends, which belong to the interval when `closed`. -/
def between (low x high : Nat) (closed : Bool) : Bool :=
  if closed then low ≤ x && x ≤ high else low < x && x < high

/-- A decimal with digits `digits` and its last digit at `10 ^ exponent`. -/
structure Decimal where
  digits : Nat
  exponent : Int
  deriving DecidableEq, Repr, Inhabited

/-- The decimal with at most `count` digits for `m * 2 ^ e` that rounds to it, when
there is one; `top` is the exponent of the leading digit of the number. -/
def decimalOfCount (m : Nat) (e : Int) (top : Int) (count : Nat) : Option Decimal :=
  let k : Int := top - count + 1
  -- everything is scaled by 4 * den, so that the ends of the interval are whole
  let den := Nat.pow 2 (-e).toNat * Nat.pow 10 k.toNat
  let unit := Nat.pow 2 e.toNat * Nat.pow 10 (-k).toNat
  let x := 4 * m * unit
  let low := if m = hidden && leastExponent < e then x - unit else x - 2 * unit
  let high := x + 2 * unit
  let step := 4 * den
  let q := x / step
  let r := x % step
  let closed := m % 2 = 0
  let below := between low (q * step) high closed
  let above := between low ((q + 1) * step) high closed
  let pick :=
    if below && above then
      if 2 * r < step then some q
      else if step < 2 * r then some (q + 1)
      else if q % 2 = 0 then some q else some (q + 1)
    else if below then some q
    else if above then some (q + 1)
    else none
  pick.map fun n => ⟨n, k⟩

/-- The exponent of the leading decimal digit of a positive number, from an
estimate that is at most one too small or too large. -/
def leadingExponent (m : Nat) (e : Int) : Int :=
  -- `10 ^ t ≤ m * 2 ^ e`
  let reaches := fun (t : Int) =>
    decide (Nat.pow 10 t.toNat * Nat.pow 2 (-e).toNat
      ≤ m * Nat.pow 2 e.toNat * Nat.pow 10 (-t).toNat)
  let bits : Int := (Nat.log2 m : Int) + e
  let guess := Int.fdiv (bits * 30103) 100000
  if reaches (guess + 1) then guess + 1 else if reaches guess then guess else guess - 1

/-- The first count of digits, from `count` on, with a decimal that rounds to the
number; `tries` bounds the search. -/
def searchDecimal (m : Nat) (e top : Int) (count : Nat) : Nat → Decimal
  | 0 => ⟨m, e⟩
  | tries + 1 =>
    match decimalOfCount m e top count with
    | some d => d
    | none => searchDecimal m e top (count + 1) tries

/-- The digits of the shortest decimal of a positive number, without trailing
zeros, and the place of the point counted from their start. -/
def shortestDigits (m : Nat) (e : Int) : List Char × Int :=
  let d := searchDecimal m e (leadingExponent m e) 1 17
  let ds := Nat.toDigits 10 d.digits
  let point : Int := ds.length + d.exponent
  let trimmed := (ds.reverse.dropWhile (· == '0')).reverse
  (trimmed, point)

/-- A point among digits: positional for points from three places before the
first digit to sixteen after it, with an exponent of at least two digits
elsewhere.  `fraction` asks for `.0` after a whole number. -/
def placePoint (fraction : Bool) (ds : List Char) (point : Int) : List Char :=
  if -4 < point && point ≤ 16 then
    if point ≤ 0 then ['0', '.'] ++ List.replicate (-point).toNat '0' ++ ds
    else if ds.length ≤ point.toNat then
      ds ++ List.replicate (point.toNat - ds.length) '0' ++ (if fraction then ['.', '0'] else [])
    else ds.take point.toNat ++ '.' :: ds.drop point.toNat
  else
    let power := point - 1
    let mantissa := match ds with
      | [] => []
      | [d] => [d]
      | d :: rest => d :: '.' :: rest
    let digits := Nat.toDigits 10 power.natAbs
    mantissa ++ ['e', if power < 0 then '-' else '+'] ++
      List.replicate (2 - digits.length) '0' ++ digits

/-- The text of a number without the fraction `.0` when `fraction` is off. -/
def render (fraction : Bool) : Double → String
  | .nan => "nan"
  | .infinite negative => if negative then "-inf" else "inf"
  | .finite negative m e =>
    let body := if m = 0 then (if fraction then ['0', '.', '0'] else ['0'])
      else let (ds, point) := shortestDigits m e; placePoint fraction ds point
    String.ofList (if negative then '-' :: body else body)

/-- The shortest text that reads back as the number; a whole number keeps `.0`. -/
def text (x : Double) : String :=
  x.render true

end Double

end FragmentRoutes.Numeral
