/-!
# Numbers in JSON text

Double-precision values met while reading JSON: the double nearest to a fraction, a decimal
mantissa scaled by a power of ten the way the reader does it, and the shortest decimal text
of a double. The nearest double is found in exact arithmetic, a tie going to the even
mantissa; the shortest text is the one with the fewest significant digits that reads back to
the same double, the one nearest the double when there are several, written positionally when
its magnitude lies between `1e-5` and `1e16` and in exponent form, with a signed exponent,
otherwise.
-/

namespace BootCode.Json

/-- `2 ^ k`. -/
def twoPow (k : Nat) : Nat :=
  Nat.pow 2 k

/-- `10 ^ k`. -/
def tenPow (k : Nat) : Nat :=
  Nat.pow 10 k

/-- Rounds the quotient `n / d` to the nearest integer, a tie going to the even one. -/
def roundHalfEven (n d : Nat) : Nat :=
  let q := n / d
  let r := n % d
  if 2 * r > d ∨ (2 * r = d ∧ q % 2 = 1) then q + 1 else q

/-- The largest `L` with `2 ^ L ≤ num / den`, for `num` and `den` positive. -/
def log2Ratio (num den : Nat) : Int :=
  let guess : Int := (num.log2 : Int) - (den.log2 : Int)
  -- the guess is the answer or one above it
  let below : Bool := if guess ≥ 0 then num < den * twoPow guess.toNat
    else num * twoPow (-guess).toNat < den
  if below then guess - 1 else guess

/-- The double nearest to `num / den`, for `den` positive: infinity above the largest
double, subnormal below the smallest normal one. -/
def nearestOfRatio (num den : Nat) : Float :=
  if num = 0 then Float.ofBits 0
  else
    let top := log2Ratio num den
    -- the weight of the last mantissa bit
    let t : Int := max (top - 52) (-1074)
    let (n, d) := if t ≥ 0 then (num, den * twoPow t.toNat) else (num * twoPow (-t).toNat, den)
    let q := roundHalfEven n d
    let (q, t) := if q = 9007199254740992 then (4503599627370496, t + 1) else (q, t)
    if q < 4503599627370496 then Float.ofBits q.toUInt64
    else
      let e := t + 1075
      if e ≥ 2047 then Float.ofBits 0x7FF0000000000000
      else Float.ofBits ((e.toNat * 4503599627370496 + (q - 4503599627370496)).toUInt64)

/-- The double nearest to a natural number. -/
def nearestOfNat (n : Nat) : Float :=
  nearestOfRatio n 1

/-- The double nearest to `10 ^ k`. -/
def pow10 (k : Nat) : Float :=
  nearestOfNat (tenPow k)

/-- Scales a mantissa by `10 ^ exponent` the way the reader does: the mantissa is rounded to a
double, then multiplied or divided by the double nearest to the power of ten; powers beyond
`10 ^ 308` are divided out `10 ^ 308` at a time. A product that overflows is `none`. -/
def scaleByPow10 (fuel : Nat) (f : Float) (exponent : Int) : Option Float :=
  if exponent.natAbs ≤ 308 then
    if exponent ≥ 0 then
      let g := f * pow10 exponent.natAbs
      if g.isInf then none else some g
    else some (f / pow10 exponent.natAbs)
  else if f == 0 then some f
  else if exponent ≥ 0 then none
  else
    match fuel with
    | 0 => some (Float.ofBits 0)
    | fuel + 1 => scaleByPow10 fuel (f / pow10 308) (exponent + 308)

/-- The double for `± significand · 10 ^ exponent` as the reader assembles it; `none` when it
overflows. -/
def fromParts (positive : Bool) (significand : Nat) (exponent : Int) : Option Float :=
  (scaleByPow10 (exponent.natAbs / 308 + 1) (nearestOfNat significand) exponent).map
    fun f => if positive then f else -f

-- ---------------------------------------------------------------------------
-- Shortest text
-- ---------------------------------------------------------------------------

/-- The exact value of a finite double as `(mantissa, exponent)` with value
`mantissa · 2 ^ exponent`, ignoring the sign. -/
def exactValue (x : Float) : Nat × Int :=
  let bits : Nat := x.toBits.toNat
  let frac : Nat := bits % 4503599627370496
  let biased : Nat := (bits / 4503599627370496) % 2048
  if biased = 0 then (frac, -1074) else (frac + 4503599627370496, (biased : Int) - 1075)

/-- The value `m · 2 ^ e` as a fraction. -/
def asRatio (m : Nat) (e : Int) : Nat × Nat :=
  if e ≥ 0 then (m * twoPow e.toNat, 1) else (m, twoPow (-e).toNat)

/-- The largest `p` with `10 ^ p ≤ num / den`, for `num` and `den` positive. -/
def log10Ratio (num den : Nat) : Int :=
  let atLeast (p : Int) : Bool :=
    if p ≥ 0 then den * tenPow p.toNat ≤ num else den ≤ num * tenPow (-p).toNat
  -- an estimate from the binary logarithm, then corrected by at most two steps either way
  let guess : Int := (log2Ratio num den * 30103) / 100000
  let g := if atLeast (guess + 1) then guess + 1 else guess
  let g := if atLeast (g + 1) then g + 1 else g
  let g := if atLeast g then g else g - 1
  if atLeast g then g else g - 1

/-- Rounds `n / d` up to an integer. -/
def ceilDiv (n d : Nat) : Nat :=
  (n + d - 1) / d

/-- The rounding interval of a finite nonzero double `m · 2 ^ e`, in units of `2 ^ (e - 2)`:
the lower end, the double itself and the upper end. Every real strictly between the ends reads
back to the double, and so do the ends themselves when `m` is even, since a tie goes to the
even mantissa. Below a power of two whose exponent is not the least one, the gap to the next
double down is half the gap up, so the lower end is nearer. -/
def roundingInterval (x : Float) : Nat × Nat × Nat :=
  let (m, _) := exactValue x
  let bits : Nat := x.toBits.toNat
  let narrowBelow : Bool := bits % 4503599627370496 = 0 ∧ (bits / 4503599627370496) % 2048 > 1
  (4 * m - (if narrowBelow then 1 else 2), 4 * m, 4 * m + 2)

/-- The digits `d` with `d · 10 ^ t` inside the rounding interval of `x`, as the least and the
greatest of them; there are none when the first exceeds the second. The interval ends are
`lo`, `hi` in units of `num / den`. -/
def digitsWithin (lo hi num den : Nat) (inclusive : Bool) (t : Int) : Nat × Nat :=
  let (a, b) := if t ≥ 0 then (num, den * tenPow t.toNat) else (num * tenPow (-t).toNat, den)
  if inclusive then (ceilDiv (lo * a) b, hi * a / b)
  else (lo * a / b + 1, ceilDiv (hi * a) b - 1)

/-- The shortest decimal that reads back to a finite nonzero double, as digits `q` and the
exponent `t` of the last one: `q · 10 ^ t`. It is found by trying the coarsest step `10 ^ t`
first, from the leading digit of the upper end of the rounding interval down; at the first
step that has a multiple inside the interval, the multiple nearest the double is taken (a tie
going to the even one), kept inside the interval. Seventeen significant digits always reach
such a step, so the fuel of twenty steps is never used up. -/
def shortestDigits (x : Float) : Nat × Int :=
  let (m, e) := exactValue x
  let (lo, v, hi) := roundingInterval x
  let (num, den) := asRatio 1 (e - 2)
  let inclusive := m % 2 = 0
  let rec search : Nat → Int → Nat × Int
    | 0, t => (v * num / den, t)
    | fuel + 1, t =>
      let (first, last) := digitsWithin lo hi num den inclusive t
      if first ≤ last then
        let (a, b) := if t ≥ 0 then (num, den * tenPow t.toNat)
          else (num * tenPow (-t).toNat, den)
        let nearest := roundHalfEven (v * a) b
        (max first (min last nearest), t)
      else search fuel (t - 1)
  search 20 (log10Ratio (hi * num) den)

/-- A run of zeros. -/
def zeros (n : Nat) : String :=
  String.ofList (List.replicate n '0')

/-- The exponent of the exponent form: `e`, then its sign, `+` or `-`, then its digits. -/
def exponentText (p : Int) : String :=
  (if p ≥ 0 then "e+" else "e-") ++ toString p.natAbs

/-- The text of a finite double: `0.0` for zero, the shortest digits positionally between
`1e-5` and `1e16` with at least one digit after the point, and `d.ddde±x` otherwise. -/
def floatText (x : Float) : String :=
  let sign := if x.toBits.toNat ≥ 9223372036854775808 then "-" else ""
  let (m, _) := exactValue x
  if m = 0 then sign ++ "0.0"
  else
    let (q, t) := shortestDigits x
    let ds := toString q
    let n : Int := ds.length
    let kk := n + t
    let body :=
      if 0 ≤ t ∧ kk ≤ 16 then ds ++ zeros t.toNat ++ ".0"
      else if 0 < kk ∧ kk ≤ 16 then
        String.ofList (ds.toList.take kk.toNat) ++ "." ++ String.ofList (ds.toList.drop kk.toNat)
      else if -5 < kk ∧ kk ≤ 0 then "0." ++ zeros (-kk).toNat ++ ds
      else if n = 1 then ds ++ exponentText (kk - 1)
      else
        String.ofList (ds.toList.take 1) ++ "." ++ String.ofList (ds.toList.drop 1) ++
          exponentText (kk - 1)
    sign ++ body

end BootCode.Json
