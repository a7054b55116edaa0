/-
# Binary floating-point numbers

Settings texts and message headers may hold numbers with a fraction. They are kept
as binary numbers of 64 bits: a whole mantissa below 2^53 times a power of two from
2^-1074 on, with a sign, or one of the values outside that range. A decimal is read
as the nearest such number, a tie going to the even mantissa, and a number is written
with the fewest decimal digits that read back as the same number; among equally short
decimals the nearest one is taken. All steps are exact whole-number arithmetic.
-/

namespace MessageBroker

/-- A 64-bit binary floating-point number. -/
inductive Binary64 where
  | nan
  | infinite (negative : Bool)
  | finite (negative : Bool) (mantissa : Nat) (exponent : Int)
  deriving DecidableEq, Inhabited

namespace Binary64

/-- Zero. -/
def zero : Binary64 := .finite false 0 (-1074)

/-- The nearest whole number to a fraction, a tie going to the even one. -/
def roundToEven (num den : Nat) : Nat :=
  let q := num / den
  let r := num % den
  if 2 * r < den then q
  else if den < 2 * r then q + 1
  else if q % 2 = 0 then q else q + 1

/-- A power of a base over one, the exponent deciding which side of the fraction it
is on. -/
def scaled (num den base : Nat) (e : Int) : Nat × Nat :=
  if 0 ≤ e then (num * Nat.pow base e.toNat, den) else (num, den * Nat.pow base (-e).toNat)

/-- The binary number nearest to a positive fraction. -/
def ofFraction (negative : Bool) (num den : Nat) : Binary64 :=
  let guess : Int := (Nat.log2 num : Int) - Nat.log2 den
  let atLeast : Int → Bool := fun k =>
    let (n, d) := scaled num den 2 (-k)
    d ≤ n
  let top := if atLeast guess then guess else guess - 1
  let e := max (-1074) (top - 52)
  let (n, d) := scaled num den 2 (-e)
  let m := roundToEven n d
  let (m, e) := if m = 0x20000000000000 then (0x10000000000000, e + 1) else (m, e)
  if 971 < e then .infinite negative else .finite negative m e

/-- The binary number nearest to `digits * 10 ^ exponent`. Exponents far outside the
range of the format are settled without computing the power. -/
def ofDecimal (negative : Bool) (digits : Nat) (exponent : Int) : Binary64 :=
  if digits = 0 then .finite negative 0 (-1074)
  else
    let magnitude : Int := exponent + (toString digits).length
    if 320 < magnitude then .infinite negative
    else if magnitude < -400 then .finite negative 0 (-1074)
    else
      let (num, den) := scaled digits 1 10 exponent
      ofFraction negative num den

/-- Whether a non-negative fraction lies in the interval of the numbers that are
rounded to `mantissa * 2 ^ exponent`. The ends belong to it when the mantissa is
even; below a power of two the lower half is half as wide. -/
def roundsTo (mantissa : Nat) (exponent : Int) (num den : Nat) : Bool :=
  let narrow := mantissa = 0x10000000000000 ∧ -1074 < exponent
  let (lowN, lowD) := scaled (if narrow then 4 * mantissa - 1 else 4 * mantissa - 2) 4 2 exponent
  let (highN, highD) := scaled (4 * mantissa + 2) 4 2 exponent
  if mantissa % 2 = 0 then lowN * den ≤ num * lowD && num * highD ≤ highN * den
  else lowN * den < num * lowD && num * highD < highN * den

/-- The decimals `digits * 10 ^ e` on both sides of a fraction, the nearer one first. -/
def neighbours (num den : Nat) (e : Int) : List Nat :=
  let (n, d) := scaled num den 10 (-e)
  let low := n / d
  if 2 * (n % d) ≤ d then [low, low + 1] else [low + 1, low]

/-- The shortest decimal that is rounded to a finite number other than zero, as
digits and an exponent of ten; seventeen digits always suffice. -/
def shortest (mantissa : Nat) (exponent : Int) : Nat × Int :=
  let (num, den) := scaled mantissa 1 2 exponent
  let places : Int :=
    if den ≤ num then (toString (num / den)).length
    else
      let inverse := toString (den / num)
      1 - (inverse.length : Int)
  let (k, e) := search num den 20 (places + 1)
  strip 400 k e
where
  /-- The first decimal that is rounded to the number, as the places get finer. -/
  search (num den : Nat) : Nat → Int → Nat × Int
    | 0, e => ((neighbours num den e).headD 0, e)
    | fuel + 1, e =>
      let fits := (neighbours num den e).find? fun k =>
        let (n, d) := scaled k 1 10 e
        roundsTo mantissa exponent n d
      match fits with
      | some k => (k, e)
      | none => search num den fuel (e - 1)
  /-- Moves zeros at the end of the digits into the exponent. -/
  strip : Nat → Nat → Int → Nat × Int
    | 0, k, e => (k, e)
    | fuel + 1, k, e => if k ≠ 0 ∧ k % 10 = 0 then strip fuel (k / 10) (e + 1) else (k, e)

/-- The decimal with all its places written out and no exponent. -/
def positional (digits : Nat) (exponent : Int) : String :=
  let ds := toString digits
  if 0 ≤ exponent then ds ++ String.ofList (List.replicate exponent.toNat '0')
  else
    let places := (-exponent).toNat
    let ds := String.ofList (List.replicate (places + 1 - ds.length) '0') ++ ds
    let cs := ds.toList
    String.ofList (cs.take (cs.length - places)) ++ "." ++
      String.ofList (cs.drop (cs.length - places))

/-- The plain text of a number: no exponent, and no point when there is no fraction. -/
def toText : Binary64 → String
  | .nan => "NaN"
  | .infinite negative => if negative then "-inf" else "inf"
  | .finite negative m e =>
    let sign := if negative then "-" else ""
    if m = 0 then sign ++ "0"
    else
      let (digits, exponent) := shortest m e
      sign ++ positional digits exponent

/-- The text of a number in a document: a point or an exponent always tells it from a
whole number. Values that no document can hold become `null`. -/
def toDocumentText : Binary64 → String
  | .nan => "null"
  | .infinite _ => "null"
  | .finite negative m e =>
    let sign := if negative then "-" else ""
    if m = 0 then sign ++ "0.0"
    else
      let (digits, exponent) := shortest m e
      if 0 ≤ exponent ∧ exponent < 16 then sign ++ positional digits exponent ++ ".0"
      else if -16 ≤ exponent ∧ exponent < 0 then sign ++ positional digits exponent
      else sign ++ toString digits ++ "e" ++ toString exponent

/-- The nearest whole number, a tie going away from zero; `none` for values without
one. -/
def round? : Binary64 → Option Int
  | .nan => none
  | .infinite _ => none
  | .finite negative m e =>
    let (n, d) := scaled m 1 2 e
    let k : Int := ((2 * n + d) / (2 * d) : Nat)
    some (if negative then -k else k)

/-- Whether a number equals zero. -/
def isZero : Binary64 → Bool
  | .finite _ m _ => m = 0
  | _ => false

end Binary64

end MessageBroker
