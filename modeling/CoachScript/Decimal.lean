import CoachScript.Script.Value
import CoachScript.Text.Blank
import CoachScript.Text.Numeric
import CoachScript.Text.Quoted

/-!
# Decimal numbers

A `Decimal` is `unscaled / 10 ^ scale`, exactly. **It is in lowest terms**: a number with places after
the point does not end in zero, so equal numbers are equal structures. Only the count of its places
has a bound, `Decimal.maxPlaces`.

* `Decimal.read?`: an optional sign, digits, at most one point and at least one digit.
* `Decimal.text`: positional, with a zero before the point where no digit stands there.
* `Decimal.compare`, `Decimal.add`, `Decimal.sum`: over the common scale.
* `Decimal.toValue`: an integer without places, else a float.
-/

namespace CoachScript

/-- The most places after the point: what 32 bits without a sign can count. -/
def Decimal.maxPlaces : Nat := 4294967295

/-- A decimal number in lowest terms. -/
structure Decimal where
  unscaled : Int
  scale : Nat
  lowest : scale = 0 ∨ unscaled % 10 ≠ 0
  fits : scale ≤ Decimal.maxPlaces
deriving DecidableEq

namespace Decimal

/-- The whole number `n`. -/
def ofInt (n : Int) : Decimal := ⟨n, 0, .inl rfl, Nat.zero_le _⟩

/-- Zero. -/
def zero : Decimal := ofInt 0

instance : Inhabited Decimal := ⟨zero⟩

/-- The number `unscaled / 10 ^ scale`, brought to lowest terms. -/
def ofScaled (unscaled : Int) : (scale : Nat) → scale ≤ maxPlaces → Decimal
  | 0, _ => ofInt unscaled
  | scale + 1, fits =>
    if h : unscaled % 10 = 0 then ofScaled (unscaled / 10) scale (Nat.le_of_succ_le fits)
    else ⟨unscaled, scale + 1, .inr h, fits⟩

/-- The number is zero. -/
def isZero (d : Decimal) : Bool := d.unscaled == 0

/-- The number is below zero. -/
def isNegative (d : Decimal) : Bool := decide (d.unscaled < 0)

/-- The number has no places after the point. -/
def isIntegral (d : Decimal) : Bool := d.scale == 0

/-- The numerator over `10 ^ scale`, for a scale that is not below the number's own. -/
def unscaledAt (d : Decimal) (scale : Nat) : Int := d.unscaled * Int.pow 10 (scale - d.scale)

/-- The scale over which both numbers are whole. -/
def commonScale (d e : Decimal) : Nat := max d.scale e.scale

theorem left_le_commonScale (d e : Decimal) : d.scale ≤ commonScale d e := Nat.le_max_left _ _

theorem right_le_commonScale (d e : Decimal) : e.scale ≤ commonScale d e := Nat.le_max_right _ _

theorem commonScale_le (d e : Decimal) : commonScale d e ≤ maxPlaces :=
  Nat.max_le.mpr ⟨d.fits, e.fits⟩

/-- The order of two numbers. -/
def compare (d e : Decimal) : Ordering :=
  Ord.compare (d.unscaledAt (commonScale d e)) (e.unscaledAt (commonScale d e))

/-- The first number is below the second. -/
def lt (d e : Decimal) : Bool := d.compare e == .lt

/-- The sum of two numbers. -/
def add (d e : Decimal) : Decimal :=
  ofScaled (d.unscaledAt (commonScale d e) + e.unscaledAt (commonScale d e)) (commonScale d e)
    (commonScale_le d e)

/-- The sum of many numbers. -/
def sum (ds : List Decimal) : Decimal := ds.foldl add zero

/-- The smaller of two numbers. -/
def min (d e : Decimal) : Decimal := if e.lt d then e else d

/-- The number that a run of ASCII digits writes. -/
def ofDigits (digits : List Char) : Nat :=
  digits.foldl (fun n c => n * 10 + (c.toNat - '0'.toNat)) 0

/-- A sign in front of a text, and the text behind it. -/
def splitSign : List Char → Bool × List Char
  | '-' :: rest => (true, rest)
  | '+' :: rest => (false, rest)
  | text => (false, text)

/-- The parts of a text before and behind its first point. -/
def splitPoint (text : List Char) : List Char × List Char :=
  (text.takeWhile (· != '.'), (text.dropWhile (· != '.')).drop 1)

/-- The number that a text without blanks around it writes. -/
def readTrimmed? (text : List Char) : Option Decimal :=
  let (negative, unsigned) := splitSign text
  let (whole, places) := splitPoint unsigned
  if (whole ++ places).isEmpty || !(whole ++ places).all isAsciiDigit then none
  else if fits : places.length ≤ maxPlaces then
    let magnitude : Int := ofDigits (whole ++ places)
    some (ofScaled (if negative then -magnitude else magnitude) places.length fits)
  else none

/-- The number that a text writes. -/
def read? (text : String) : Option Decimal := readTrimmed? (trim text.toList)

/-- The message about a text that writes no number. -/
def unreadable (text : String) : String := String.join ["not a decimal number: ", quoted text]

/-- The digits of a natural number. -/
def digitsOf (n : Nat) : List Char := Nat.toDigits 10 n

/-- The digits, with zeros in front up to a length. -/
def padded (length : Nat) (digits : List Char) : List Char :=
  List.replicate (length - digits.length) '0' ++ digits

/-- The digits with a point before the last `scale` of them. -/
def pointed (scale : Nat) (digits : List Char) : List Char :=
  if scale = 0 then digits
  else
    let all := padded (scale + 1) digits
    all.take (all.length - scale) ++ '.' :: all.drop (all.length - scale)

/-- The characters of a number. -/
def source (d : Decimal) : List Char :=
  (if d.isNegative then ['-'] else []) ++ pointed d.scale (digitsOf d.unscaled.natAbs)

/-- The text of a number. -/
def text (d : Decimal) : String := String.ofList d.source

/-- The number as a value of the script. -/
def toValue (d : Decimal) : Value := if d.isIntegral then .integer d.text else .float d.text

/-- The number that the text of a value writes. -/
def ofValue? (v : Value) : Option Decimal := v.text?.bind read?

end Decimal

end CoachScript
