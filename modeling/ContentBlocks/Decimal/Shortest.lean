/-!
# The shortest decimal of a binary number

A floating-point number is written with the fewest digits from which it is read back: among the
decimals of that length that are rounded to it, the nearest one, and of two equally near ones the
even one.  A finite double is `m · 2 ^ q`, and the reals rounded to it are an interval around it
whose ends belong to it exactly when `m` is even.  Everything is computed on natural numbers.

`Notation` says where the digits go: which decimals are written positionally, and how an exponent
looks where they are not.
-/

namespace ContentBlocks.Decimal

/-- The decimal `digits · 10 ^ exponent`. -/
structure Scientific where
  digits : Nat
  exponent : Int

/-- Four times a positive binary number and four times the ends of its interval of rounding, over
one denominator. -/
structure Interval where
  low : Nat
  value : Nat
  high : Nat
  denominator : Nat
  closed : Bool

/-- The interval of `m · 2 ^ q`.  Below a power of two the neighbour is only half as far, unless
that neighbour is subnormal. -/
def Interval.of (m : Nat) (q : Int) : Interval :=
  let scale := Nat.pow 2 (q - 2).toNat
  let nearer := m = Nat.pow 2 52 ∧ q > -1074
  { low := (4 * m - if nearer then 1 else 2) * scale
    value := 4 * m * scale
    high := (4 * m + 2) * scale
    denominator := Nat.pow 2 (2 - q).toNat
    closed := m % 2 = 0 }

/-- The least number of places by which a fraction below one has to be shifted to reach one. -/
def leadingZeros (num den : Nat) : Nat → Nat
  | 0 => 0
  | fuel + 1 => if num ≥ den then 0 else leadingZeros (num * 10) den fuel + 1

/-- The place of the decimal point before or after the first digit: `10 ^ (k - 1) ≤ num / den` and
`num / den < 10 ^ k`. -/
def pointPlace (num den : Nat) : Int :=
  if num ≥ den then ((Nat.toDigits 10 (num / den)).length : Int)
  else 1 - (leadingZeros num den 400 : Int)

/-- Whether `n · 10 ^ e` is rounded to the number in the middle of the interval. -/
def Interval.holds (i : Interval) (n : Nat) (e : Int) : Bool :=
  let x := n * Nat.pow 10 e.toNat * i.denominator
  let low := i.low * Nat.pow 10 (-e).toNat
  let high := i.high * Nat.pow 10 (-e).toNat
  if i.closed then low ≤ x && x ≤ high else low < x && x < high

/-- The best decimal on the grid of multiples of `10 ^ e`, if one is rounded to the number. -/
def Interval.onGrid? (i : Interval) (e : Int) : Option Scientific :=
  let num := i.value * Nat.pow 10 (-e).toNat
  let den := i.denominator * Nat.pow 10 e.toNat
  let below := num / den
  let rest := num % den
  match i.holds below e, i.holds (below + 1) e with
  | true, true =>
    let up := 2 * rest > den || (2 * rest == den && below % 2 == 1)
    some ⟨if up then below + 1 else below, e⟩
  | true, false => some ⟨below, e⟩
  | false, true => some ⟨below + 1, e⟩
  | false, false => none

/-- The first hit on the grids for 1, 2, … digits. -/
def Interval.search (i : Interval) (place : Int) : Nat → Nat → Scientific
  | _, 0 => ⟨i.value / i.denominator, 0⟩
  | n, fuel + 1 =>
    match i.onGrid? (place - n) with
    | some d => d
    | none => i.search place (n + 1) fuel

/-- A decimal without zeros at its end. -/
def Scientific.trim (d : Scientific) : Nat → Scientific
  | 0 => d
  | fuel + 1 =>
    if d.digits % 10 = 0 && d.digits ≠ 0 then
      Scientific.trim ⟨d.digits / 10, d.exponent + 1⟩ fuel
    else d

/-- The shortest decimal of the positive number `m · 2 ^ q`. -/
def shortest (m : Nat) (q : Int) : Scientific :=
  let i := Interval.of m q
  (i.search (pointPlace i.value i.denominator) 1 17).trim 20

/-! ### Doubles -/

/-- What a double is: a signed multiple of a power of two, or one of the special values. -/
inductive Parts where
  | finite (negative : Bool) (m : Nat) (q : Int)
  | infinite (negative : Bool)
  | undefined

/-- The parts of a double, from its bits. -/
def Parts.of (x : Float) : Parts :=
  let bits := x.toBits.toNat
  let negative : Bool := bits / Nat.pow 2 63 = 1
  let biased : Nat := bits / Nat.pow 2 52 % 2048
  let fraction : Nat := bits % Nat.pow 2 52
  if biased = 2047 then (if fraction = 0 then .infinite negative else .undefined)
  else if biased = 0 then .finite negative fraction (-1074)
  else .finite negative (fraction + Nat.pow 2 52) ((biased : Int) - 1075)

/-- Whether a double is neither infinite nor undefined. -/
def isFinite (x : Float) : Bool :=
  match Parts.of x with
  | .finite .. => true
  | _ => false

/-- The whole number that a double is. -/
def integral? (x : Float) : Option Int :=
  match Parts.of x with
  | .finite negative m q =>
    let num := m * Nat.pow 2 q.toNat
    let den := Nat.pow 2 (-q).toNat
    if num % den = 0 then
      let n := Int.ofNat (num / den)
      some (if negative then -n else n)
    else none
  | _ => none

/-! ### Writing -/

/-- Where the digits of a decimal go. -/
structure Style where
  /-- The least place of the decimal point that is written positionally. -/
  leastPlace : Int
  /-- The largest one. -/
  mostPlace : Int
  /-- Whether an exponent above zero has a sign. -/
  plus : Bool
  /-- The least number of digits of an exponent. -/
  exponentWidth : Nat

/-- A decimal in a style; the point always has a digit on both sides where it is written. -/
def Style.write (style : Style) (d : Scientific) : String :=
  let ds := Nat.toDigits 10 d.digits
  let place : Int := ds.length + d.exponent
  if style.leastPlace ≤ place ∧ place ≤ style.mostPlace then
    if place ≤ 0 then
      String.ofList ('0' :: '.' :: (List.replicate (-place).toNat '0' ++ ds))
    else
      let whole := ds.take place.toNat ++ List.replicate d.exponent.toNat '0'
      let fraction := ds.drop place.toNat
      String.ofList (whole ++ '.' :: (if fraction.isEmpty then ['0'] else fraction))
  else
    let e := place - 1
    let es := Nat.toDigits 10 e.natAbs
    let sign := if e < 0 then ['-'] else if style.plus then ['+'] else []
    let mantissa := match ds with
      | [] => []
      | [c] => [c]
      | c :: cs => c :: '.' :: cs
    String.ofList
      (mantissa ++ 'e' :: sign ++ List.replicate (style.exponentWidth - es.length) '0' ++ es)

/-- A finite double in a style; zero keeps its sign. -/
def Style.writeFinite (style : Style) (negative : Bool) (m : Nat) (q : Int) : String :=
  (if negative then "-" else "") ++ (if m = 0 then "0.0" else style.write (shortest m q))

/-- Numbers in running text: positional from 0.0001 up to 10 ^ 16. -/
def proseStyle : Style := ⟨-3, 16, true, 2⟩

/-- Numbers in documents: positional from 0.00001 up to 10 ^ 16. -/
def documentStyle : Style := ⟨-4, 16, false, 1⟩

end ContentBlocks.Decimal
