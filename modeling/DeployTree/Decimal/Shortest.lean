/-! # The shortest decimal text of a binary number

A binary number of 64 bits stands for all the reals that round to it. Its text is
the decimal with the fewest significant digits among those reals and, of several,
the one nearest to the number itself, an even last digit breaking a tie. Decimals
are tested on the grids of one, two, … seventeen significant digits; on each grid
only the two neighbours of the number can be the answer.
-/

namespace DeployTree.Decimal

/-- The parts of a finite binary number `± significand * 2 ^ exponent`. The significand is whole and
has the leading bit that normal numbers imply; `narrowBelow` says whether the neighbour below is
only half as far away as the one above. -/
structure Binary where
  negative : Bool
  significand : Nat
  exponent : Int
  narrowBelow : Bool

/-- The parts that the 64 bits of a finite number encode. -/
def Binary.ofBits (bits : UInt64) : Binary :=
  let word : Nat := bits.toNat
  let leading : Nat := 1 <<< 52
  let fraction : Nat := word % leading
  let scale : Nat := (word >>> 52) % (1 <<< 11)
  let negative := decide (1 <<< 63 ≤ word)
  if scale = 0 then ⟨negative, fraction, -1074, false⟩
  else ⟨negative, fraction + leading, (scale : Int) - 1075, decide (fraction = 0 ∧ 1 < scale)⟩

/-- A ratio of two numbers, the lower one positive wherever it is built here. -/
structure Ratio where
  num : Nat
  den : Nat

/-- Whether one ratio is at most the other. -/
def Ratio.le (first second : Ratio) : Bool := first.num * second.den ≤ second.num * first.den

/-- Whether one ratio is less than the other. -/
def Ratio.lt (first second : Ratio) : Bool := first.num * second.den < second.num * first.den

/-- `number * base ^ power` as a ratio. -/
def Ratio.scaled (number base : Nat) (power : Int) : Ratio :=
  if 0 ≤ power then ⟨number * base.pow power.toNat, 1⟩ else ⟨number, base.pow (-power).toNat⟩

/-- The least power of ten, tried upwards from zero, that lifts a ratio to one or more. -/
def liftingPower (ratio : Ratio) : Nat → Nat → Nat
  | 0, power => power
  | fuel + 1, power =>
      if ratio.den ≤ ratio.num * 10 ^ power then power else liftingPower ratio fuel (power + 1)

/-- The power of ten of the first significant digit of a positive ratio. -/
def leadingPower (ratio : Ratio) : Int :=
  if ratio.den ≤ ratio.num then ((Nat.toDigits 10 (ratio.num / ratio.den)).length : Int) - 1
  else -(liftingPower ratio 400 1 : Int)

/-- Significant digits as a number, and the power of ten of the last one. -/
structure Digits where
  number : Nat
  power : Int

/-- The candidate on the grid of multiples of `10 ^ power`, if a neighbour of the number
rounds to it. -/
def onGrid (binary : Binary) (power : Int) : Option Digits :=
  let quarter := binary.exponent - 2
  let middle := Ratio.scaled (4 * binary.significand) 2 quarter
  let lower := Ratio.scaled
    (4 * binary.significand - if binary.narrowBelow then 1 else 2) 2 quarter
  let upper := Ratio.scaled (4 * binary.significand + 2) 2 quarter
  let inside (number : Nat) : Bool :=
    let point := Ratio.scaled number 10 power
    if binary.significand % 2 = 0 then lower.le point && point.le upper
    else lower.lt point && point.lt upper
  let unit := Ratio.scaled 1 10 power
  let below := middle.num * unit.den / (middle.den * unit.num)
  let above := below + 1
  match inside below, inside above with
  | false, false => none
  | true, false => some ⟨below, power⟩
  | false, true => some ⟨above, power⟩
  | true, true =>
      let twice : Ratio := ⟨2 * middle.num, middle.den⟩
      let sum := Ratio.scaled (below + above) 10 power
      if twice.lt sum then some ⟨below, power⟩
      else if sum.lt twice then some ⟨above, power⟩
      else some ⟨if below % 2 = 0 then below else above, power⟩

/-- The first grid, from `count` digits on, with a hit. -/
def searchGrids (binary : Binary) (leading : Int) : Nat → Nat → Digits
  | 0, _ => ⟨binary.significand, 0⟩
  | fuel + 1, count =>
      match onGrid binary (leading - (count : Int) + 1) with
      | some digits => digits
      | none => searchGrids binary leading fuel (count + 1)

/-- The shortest digits of a positive binary number. -/
def shortest (binary : Binary) : Digits :=
  searchGrids binary
    (leadingPower (Ratio.scaled binary.significand 2 binary.exponent)) 17 1

/-- The digits without trailing zeros, and the power of ten of the first one. -/
def Digits.normal (digits : Digits) : List Char × Int :=
  let all := Nat.toDigits 10 digits.number
  let kept := (all.reverse.dropWhile (· = '0')).reverse
  (kept, digits.power + (all.length : Int) - 1)

/-- How a decimal is laid out: the least and the greatest power of ten of its first digit with which
it is written positionally. -/
structure Layout where
  least : Int
  greatest : Int

/-- Numbers from `1e-5` up to but not including `1e16` are written positionally. -/
def Layout.standard : Layout := ⟨-5, 15⟩

/-- Positional text: at least one digit stands on either side of the point. -/
def positional (digits : List Char) (leading : Int) : List Char :=
  if leading < 0 then
    ['0', '.'] ++ List.replicate ((-leading).toNat - 1) '0' ++ digits
  else
    let whole := leading.toNat + 1
    let padded := digits ++ List.replicate (whole - digits.length) '0'
    let fraction := padded.drop whole
    padded.take whole ++ '.' :: (if fraction.isEmpty then ['0'] else fraction)

/-- Scientific text: the exponent carries its sign and at least two digits. -/
def scientific (digits : List Char) (leading : Int) : List Char :=
  let mantissa := match digits with
    | [] => ['0']
    | [digit] => [digit]
    | digit :: rest => digit :: '.' :: rest
  let size := leading.natAbs
  mantissa ++ ['e', if leading < 0 then '-' else '+'] ++
    (if size < 10 then ['0'] else []) ++ Nat.toDigits 10 size

/-- The text of the finite binary number that the 64 bits encode. -/
def text (bits : UInt64) : String :=
  let binary := Binary.ofBits bits
  let sign := if binary.negative then ['-'] else []
  let body :=
    if binary.significand = 0 then ['0', '.', '0']
    else
      let (digits, leading) := (shortest binary).normal
      if Layout.standard.least ≤ leading ∧ leading ≤ Layout.standard.greatest then
        positional digits leading
      else scientific digits leading
  String.ofList (sign ++ body)

end DeployTree.Decimal
