/-!
Decimal fractions of bounded precision. A number written with a point or an exponent stands for the
nearest double, and is written with the fewest digits that stand for that double again.

A double is `m · 2^q`. The reals nearest to it form an interval, from halfway to the double below to
halfway to the double above, which holds its ends exactly when `m` is even. Digits are searched on
ever finer decimal grids: the first grid with a point in the interval gives them, and of two points
the nearer. A double can lie halfway between the two; then a `Tie` tells which one is taken. All of
this is exact arithmetic on natural numbers.
-/

namespace EntityScaffold.Json

/-- the number `± digits · 10^exponent` -/
structure Decimal where
  negative : Bool
  digits : Nat
  exponent : Int
deriving DecidableEq, Repr

namespace Decimal

/-! ## Doubles -/

/-- a positive double `m · 2^q`; `narrow` when the double below is only half as far as the one above -/
structure Binary where
  m : Nat
  q : Int
  narrow : Bool
deriving DecidableEq, Repr

/-- the double of a bit pattern, its sign aside; none for infinity and what is no number -/
def Binary.ofBits? (bits : Nat) : Option Binary :=
  let fraction : Nat := bits % Nat.pow 2 52
  let scale : Nat := bits / Nat.pow 2 52 % 2048
  if scale = 2047 then none
  else if scale = 0 then some ⟨fraction, -1074, false⟩
  else some ⟨fraction + Nat.pow 2 52, (scale : Int) - 1075, fraction = 0 && scale ≠ 1⟩

/-- `n · b^e` as a fraction of natural numbers -/
def scaled (n b : Nat) (e : Int) : Nat × Nat := (n * b.pow e.toNat, b.pow (-e).toNat)

def fractionLe (x y : Nat × Nat) : Bool := x.1 * y.2 ≤ y.1 * x.2

/-- strict order of two fractions -/
def fractionLt (x y : Nat × Nat) : Bool := x.1 * y.2 < y.1 * x.2

/-- `d · 10^e` is nearer to the double than to its neighbours -/
def Binary.readsBack (b : Binary) (d : Nat) (e : Int) : Bool :=
  let x := scaled d 10 e
  let low := scaled (if b.narrow then 4 * b.m - 1 else 4 * b.m - 2) 2 (b.q - 2)
  let high := scaled (4 * b.m + 2) 2 (b.q - 2)
  if b.m % 2 = 0 then fractionLe low x && fractionLe x high
  else fractionLt low x && fractionLt x high

/-- which of the two points next to each other is taken for a double halfway between them -/
inductive Tie where
  /-- the point with an even last digit -/
  | even
  /-- the point of the larger size -/
  | up
deriving DecidableEq, Repr

/-- the smaller of two points `low` and `low + 1` is taken for a double halfway between them -/
def Tie.takesLow (tie : Tie) (low : Nat) : Bool :=
  match tie with
  | .even => low % 2 = 0
  | .up => false

/-- the point of the grid `10^e` that stands for the double, if the grid has one -/
def Binary.onGrid? (tie : Tie) (b : Binary) (e : Int) : Option Nat :=
  let value := scaled b.m 2 b.q
  let grid := scaled 1 10 e
  let low := value.1 * grid.2 / (value.2 * grid.1)
  match b.readsBack low e, b.readsBack (low + 1) e with
  | true, false => some low
  | false, true => some (low + 1)
  | false, false => none
  | true, true =>
    let middle := scaled (2 * low + 1) 10 e
    let twice := (2 * value.1, value.2)
    if fractionLt twice middle || (!fractionLt middle twice && tie.takesLow low) then some low
    else some (low + 1)

/-- a number without the zeros at its end, the exponent raised by their number -/
def stripZeros : Nat → Nat → Int → Nat × Int
  | 0, n, e => (n, e)
  | fuel + 1, n, e => if n ≠ 0 && n % 10 = 0 then stripZeros fuel (n / 10) (e + 1) else (n, e)

/-- how many digits a number has -/
def digitCount (n : Nat) : Nat := (Nat.toDigits 10 n).length

/-- the exponent `k` with the double between `10^(k-1)` and `10^k` -/
def Binary.scale (b : Binary) : Int :=
  let value := scaled b.m 2 b.q
  if value.2 ≤ value.1 then digitCount (value.1 / value.2)
  else
    let up : Int := digitCount (value.2 / value.1)
    if value.1 * Nat.pow 10 (up.toNat - 1) = value.2 then 2 - up else 1 - up

/-- the shortest digits that stand for the double, on the coarsest grid that has any -/
def Binary.shortest (tie : Tie) (b : Binary) : Nat × Int :=
  let found := (List.range 18).findSome? fun (n : Nat) =>
    let e := b.scale - (n : Int)
    (b.onGrid? tie e).bind fun d => if d = 0 then none else some (d, e)
  match found with
  | some (d, e) => stripZeros (digitCount d) d e
  | none => (0, 0)

/-- the shortest decimal of a double, given by its sign and the bit pattern of its size; none for
infinity and what is no number -/
def ofBits? (tie : Tie) (negative : Bool) (bits : Nat) : Option Decimal :=
  (Binary.ofBits? bits).map fun b =>
    if b.m = 0 then ⟨negative, 0, 0⟩
    else
      let (digits, exponent) := b.shortest tie
      ⟨negative, digits, exponent⟩

/-- the shortest decimal of the double nearest to `± mantissa · 10^exponent`; none when that is out
of range -/
def nearest? (tie : Tie) (negative : Bool) (mantissa : Nat) (exponent : Int) : Option Decimal :=
  ofBits? tie negative (Float.ofScientific mantissa (exponent < 0) exponent.natAbs).toBits.toNat

/-! ## Text -/

/-- an integer in decimal digits -/
def intText (n : Int) : List Char :=
  if n < 0 then '-' :: Nat.toDigits 10 n.natAbs else Nat.toDigits 10 n.natAbs

/-- an exponent in decimal digits, its sign always shown -/
def exponentText (n : Int) : List Char :=
  (if n < 0 then '-' else '+') :: Nat.toDigits 10 n.natAbs

/-- the digits without a sign: positional while the point falls near them, else with an exponent -/
def magnitudeText (digits : Nat) (exponent : Int) : List Char :=
  let ds := Nat.toDigits 10 digits
  let point := ds.length + exponent
  if 0 ≤ exponent && point ≤ 16 then
    ds ++ List.replicate exponent.toNat '0' ++ ['.', '0']
  else if 0 < point && point ≤ 16 then
    ds.take point.toNat ++ '.' :: ds.drop point.toNat
  else if -5 < point && point ≤ 0 then
    '0' :: '.' :: List.replicate (-point).toNat '0' ++ ds
  else
    ds.take 1 ++ (if ds.length = 1 then [] else '.' :: ds.drop 1) ++ 'e' :: exponentText (point - 1)

/-- the decimal as text; a point or an exponent always shows -/
def text (d : Decimal) : List Char :=
  (if d.negative then ['-'] else []) ++ magnitudeText d.digits d.exponent

end Decimal

end EntityScaffold.Json
