import DeployTree.Json.Reader

/-! # Numbers in a document

A whole number is read exactly as long as it fits 64 bits; negative numbers reach
down to `-2 ^ 63`. Any other number is binary: its digits are gathered into a
significand below `2 ^ 64`, digits that no longer fit only move the decimal point,
and the significand is scaled by one multiplication or division with a power of ten.
-/

namespace DeployTree.Json

/-- The greatest significand. -/
def significandLimit : Nat := UInt64.size - 1

/-- The greatest exponent that is read exactly. -/
def exponentLimit : Nat := UInt32.size / 2 - 1

/-- The value of a decimal digit. -/
def digitValue (c : Char) : Nat := c.toNat - '0'.toNat

/-- Appends digits to a number while it stays within a limit; with the count of those taken. -/
def absorb (limit : Nat) : Nat → List Char → Nat × Nat
  | start, [] => (start, 0)
  | start, digit :: rest =>
      let longer := start * 10 + digitValue digit
      if longer ≤ limit then
        let (total, taken) := absorb limit longer rest
        (total, taken + 1)
      else (start, 0)

/-- A binary number scaled by a power of ten, unless it exceeds the greatest one. Powers
below `1e-308` are reached in steps. -/
def scaleReal (value : Float) (power : Int) : Option Float :=
  if power.natAbs ≤ 308 then
    if 0 ≤ power then
      let scaled := value * Float.ofScientific 1 false power.natAbs
      if scaled.isInf then none else some scaled
    else some (value / Float.ofScientific 1 false power.natAbs)
  else if value == 0.0 then some value
  else if 0 ≤ power then none
  else scaleReal (value / Float.ofScientific 1 false 308) (power + 308)
termination_by power.natAbs
decreasing_by omega

/-- The binary number `± significand * 10 ^ power`. -/
def realOf (negative : Bool) (significand : Nat) (power : Int) : Option Number :=
  (scaleReal (UInt64.ofNat significand).toFloat power).map fun value =>
    .real (if negative then -value else value).toBits

/-- The whole number `± significand`; a negative one that is zero or too small is binary. -/
def wholeOf (negative : Bool) (significand : Nat) : Number :=
  if negative then
    if 0 < significand ∧ significand ≤ UInt64.size / 2 then .integer (-(significand : Int))
    else .real (-(UInt64.ofNat significand).toFloat).toBits
  else .integer significand

namespace Reader

/-- Reads some characters. -/
def advanceBy : Nat → Reader Unit
  | 0 => pure ()
  | count + 1 => do
      advance
      advanceBy count

/-- The digits ahead, left in place. -/
def peekDigits : Reader (List Char) := fun cursor =>
  .ok (cursor.rest.takeWhile Char.isDigit, cursor)

/-- Reads the digits ahead. -/
def takeDigits : Reader (List Char) := do
  let digits ← peekDigits
  advanceBy digits.length
  pure digits

/-- The binary number of the given parts. -/
def real (negative : Bool) (significand : Nat) (power : Int) : Reader Number :=
  match realOf negative significand power with
  | some read => pure read
  | none => failHere .numberOutOfRange

/-- Reads a sign and tells whether it is negative; without a sign it is not. -/
def exponentSign : Reader Bool := do
  match ← peek with
  | some '+' =>
      advance
      pure false
  | some '-' =>
      advance
      pure true
  | _ => pure false

/-- Reads what follows the letter of an exponent. -/
def exponent (negative : Bool) (significand : Nat) (power : Int) : Reader Number := do
  let down ← exponentSign
  match ← peek with
  | none => failHere .endInValue
  | some c =>
      if c.isDigit then
        let digits ← peekDigits
        let (size, taken) := absorb exponentLimit 0 digits
        if taken = digits.length then
          advanceBy taken
          real negative significand (if down then power - size else power + size)
        else
          advanceBy (taken + 1)
          if significand ≠ 0 ∧ !down then failHere .numberOutOfRange
          else
            advanceBy (digits.length - (taken + 1))
            pure (.real (if negative then -0.0 else 0.0 : Float).toBits)
      else failNext .invalidNumber

/-- Reads an exponent, if there is one, of a number that is binary in any case. -/
def scaled (negative : Bool) (significand : Nat) (power : Int) : Reader Number := do
  match ← peek with
  | some 'e' | some 'E' =>
      advance
      exponent negative significand power
  | _ => real negative significand power

/-- Reads the digits after a decimal point and an exponent. -/
def fraction (negative : Bool) (significand dropped : Nat) : Reader Number := do
  let digits ← takeDigits
  if digits.isEmpty then
    match ← peek with
    | some _ => failNext .invalidNumber
    | none => failHere .endInValue
  else
    let (total, taken) := absorb significandLimit significand digits
    scaled negative total ((dropped : Int) - taken)

/-- Reads what follows the whole part of a number, of which the last `dropped` digits did
not fit. -/
def afterWhole (negative : Bool) (significand dropped : Nat) : Reader Number := do
  match ← peek with
  | some '.' =>
      advance
      fraction negative significand dropped
  | some 'e' | some 'E' =>
      advance
      exponent negative significand dropped
  | _ =>
      if dropped = 0 then pure (wholeOf negative significand)
      else real negative significand dropped

/-- Reads a number whose sign has been read. -/
def numeral (negative : Bool) : Reader Number := do
  match ← peek with
  | none => failHere .endInValue
  | some '0' =>
      advance
      match ← peek with
      | none => afterWhole negative 0 0
      | some c => if c.isDigit then failNext .invalidNumber else afterWhole negative 0 0
  | some c =>
      if c.isDigit then
        let digits ← takeDigits
        let (significand, taken) := absorb significandLimit 0 digits
        afterWhole negative significand (digits.length - taken)
      else failNext .invalidNumber

end Reader

end DeployTree.Json
