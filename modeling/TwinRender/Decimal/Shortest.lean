/-!
# Shortest decimals

A binary floating-point number is written with the fewest decimal digits that read back as the
same number, and among those with the digits nearest to it. All arithmetic is on natural
numbers: the finite number with bits `b` is `significand b · 2 ^ exponent b`, and the reals that
round to it form an interval around it whose ends belong to it exactly when the significand is
even.

## Main definitions

* `Scaled.ofBits` — the exact value of a bit pattern;
* `Scaled.shortest` — its digits and the exponent of the first one;
* `Layout.write` — the digits laid out, positionally or with an exponent.
-/

namespace TwinRender.Decimal

/-- The number `mantissa · 2 ^ (exponent - bias)` with the distance to its lower neighbour
halved when `tight` holds. The bias keeps the exponent a natural number. -/
structure Scaled where
  /-- The significand, hidden bit included. -/
  mantissa : Nat
  /-- The binary exponent, raised by `Scaled.bias`. -/
  exponent : Nat
  /-- The lower neighbour lies in the next lower binade, so it is twice as near. -/
  tight : Bool
  deriving DecidableEq, Repr

namespace Scaled

/-- The exponent of the smallest positive number is `-bias`. -/
def bias : Nat := 1074

/-- The weight of the hidden bit, above the fifty-two bits that are kept. -/
def hidden : Nat := Nat.pow 2 52

/-- The magnitude of a finite 64-bit pattern; the sign is dropped. -/
def ofBits (bits : UInt64) : Scaled :=
  let fraction := bits.toNat % hidden
  let field := bits.toNat / hidden % 2048
  if field = 0 then ⟨fraction, 0, false⟩
  else ⟨hidden + fraction, field - 1, fraction = 0 && 1 < field⟩

/-- The value is `numerator / denominator`, both scaled by four so that the ends of the rounding
interval are whole. -/
def numerator (x : Scaled) : Nat := 4 * x.mantissa * Nat.pow 2 x.exponent

/-- The denominator that goes with `numerator`. -/
def denominator : Nat := 4 * Nat.pow 2 bias

/-- The lower end of the rounding interval, over `denominator`. -/
def low (x : Scaled) : Nat :=
  (4 * x.mantissa - if x.tight then 1 else 2) * Nat.pow 2 x.exponent

/-- The upper end of the rounding interval, over `denominator`. -/
def high (x : Scaled) : Nat := (4 * x.mantissa + 2) * Nat.pow 2 x.exponent

/-- Whether the decimal `d · 10 ^ (k - shift)` reads back as the number. -/
def readsBack (x : Scaled) (shift k d : Nat) : Bool :=
  let point := d * Nat.pow 10 k * denominator
  let low := x.low * Nat.pow 10 shift
  let high := x.high * Nat.pow 10 shift
  if x.mantissa % 2 = 0 then low ≤ point && point ≤ high else low < point && point < high

/-- Twenty digits below the last place of the smallest number, as a common decimal scale. -/
def shift : Nat := 360

/-- The place of the first digit: the largest `e < bound` with `10 ^ (e - shift)` at most the
value. -/
def firstPlace (x : Scaled) : Nat → Nat
  | 0 => 0
  | e + 1 =>
    if Nat.pow 10 e * denominator ≤ x.numerator * Nat.pow 10 shift then e else firstPlace x e

/-- The nearer of the two grid points next to the value that read back as it, on the grid
`10 ^ (k - shift)`; a tie goes to the even one. -/
def nearest? (x : Scaled) (k : Nat) : Option Nat :=
  let value := x.numerator * Nat.pow 10 shift
  let unit := Nat.pow 10 k * denominator
  let below := value / unit
  let above := below + 1
  match x.readsBack shift k below, x.readsBack shift k above with
  | true, true =>
    let down := value - below * unit
    let up := above * unit - value
    if down < up then some below
    else if up < down then some above
    else if below % 2 = 0 then some below else some above
  | true, false => some below
  | false, true => some above
  | false, false => none

/-- The first grid, from coarse to fine, on which some decimal reads back as the value. -/
def search (x : Scaled) : Nat → Nat → Nat × Nat
  | 0, place => (x.numerator * Nat.pow 10 shift / (Nat.pow 10 place * denominator), place)
  | fuel + 1, place =>
    match x.nearest? place with
    | some d => (d, place)
    | none => search x fuel (place - 1)

/-- The shortest digits of a positive number, and the exponent of ten of the first digit. -/
def shortest (x : Scaled) : List Char × Int :=
  let found := x.search 17 (x.firstPlace 700)
  let digits := Nat.toDigits 10 found.1
  let kept := (digits.reverse.dropWhile (· == '0')).reverse
  (kept, (found.2 : Int) - shift + (digits.length - 1 : Nat))

end Scaled

/-- Where positional notation starts and ends, by the exponent of the first digit. -/
structure Layout where
  /-- The least exponent written positionally. -/
  positionalFrom : Int
  /-- The least exponent above those written positionally. -/
  positionalBelow : Int
  deriving DecidableEq, Repr

namespace Layout

/-- Digits with a point before them, and `0.` and zeros in front when the exponent is negative;
at least one digit stands behind the point. -/
def positional (digits : List Char) (exponent : Int) : List Char :=
  if exponent < 0 then
    ['0', '.'] ++ List.replicate (exponent.natAbs - 1) '0' ++ digits
  else
    let whole := exponent.toNat + 1
    let padded := digits ++ List.replicate (whole - digits.length) '0'
    let rest := padded.drop whole
    padded.take whole ++ ['.'] ++ if rest.isEmpty then ['0'] else rest

/-- Digits with a point behind the first, and a signed exponent. -/
def scientific (digits : List Char) (exponent : Int) : List Char :=
  let rest := digits.drop 1
  digits.take 1 ++ (if rest.isEmpty then [] else '.' :: rest) ++
    ['e', if exponent < 0 then '-' else '+'] ++ Nat.toDigits 10 exponent.natAbs

/-- The text of a finite number, given its bits. -/
def write (layout : Layout) (bits : UInt64) : String :=
  let sign := if 2 * bits.toNat < UInt64.size then [] else ['-']
  let x := Scaled.ofBits bits
  if x.mantissa = 0 then String.ofList (sign ++ ['0', '.', '0'])
  else
    let (digits, exponent) := x.shortest
    let body :=
      if layout.positionalFrom ≤ exponent && exponent < layout.positionalBelow then
        positional digits exponent
      else scientific digits exponent
    String.ofList (sign ++ body)

end Layout

end TwinRender.Decimal
