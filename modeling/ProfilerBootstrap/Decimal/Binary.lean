namespace ProfilerBootstrap.Decimal

/-- A finite number of double precision: `m · 2 ^ q`, negated where `negative` says so. -/
structure Binary where
  negative : Bool
  m : Nat
  q : Int
  deriving DecidableEq, Repr

def power (base n : Nat) : Nat := Nat.pow base n

/-- What the exponent of a number counts in its bits: the bits below are those of `m`. -/
def exponentUnit : Nat := 0x10000000000000

def signUnit : Nat := 0x8000000000000000

def Binary.ofBits (bits : Nat) : Binary :=
  let e : Nat := bits / exponentUnit % 2048
  let f : Nat := bits % exponentUnit
  ⟨bits / signUnit = 1, if e = 0 then f else f + exponentUnit,
    if e = 0 then -1074 else (e : Int) - 1075⟩

def Binary.ofFloat (x : Float) : Binary := .ofBits x.toBits.toNat

/-- The quotient rounded to the nearest whole number, a half to the even neighbour. -/
def roundDiv (num den : Nat) : Nat :=
  let d := num / den
  let r := num % den
  if 2 * r < den then d else if den < 2 * r then d + 1 else d + d % 2

/-- `num / den` in lowest terms of powers of two: the greatest `e` with `2 ^ e ≤ num / den`. -/
def floorLog2 (num den : Nat) : Int :=
  let e : Int := (num.log2 : Int) - den.log2
  if num * power 2 (-e).toNat < den * power 2 e.toNat then e - 1 else e

/-- The bits of the double nearest to a fraction, a tie going to the even neighbour; too large a
fraction gives infinity. -/
def nearestBits (num den : Nat) : Nat :=
  if num = 0 then 0
  else
    let q : Int := max (floorLog2 num den - 52) (-1074)
    let m := roundDiv (num * power 2 (-q).toNat) (den * power 2 q.toNat)
    let bits := if m < exponentUnit then m else (q + 1074).toNat * exponentUnit + m
    min bits (2047 * exponentUnit)

def nearest (negative : Bool) (digits : Nat) (exponent : Int) : Float :=
  let size : Int := (Nat.toDigits 10 digits).length + exponent
  let bits :=
    if digits = 0 ∨ size < -400 then 0
    else if 400 < size then 2047 * exponentUnit
    else nearestBits (digits * power 10 exponent.toNat) (power 10 (-exponent).toNat)
  Float.ofBits (UInt64.ofNat (if negative then bits + signUnit else bits))

def ofInt (n : Int) : Float := nearest (n < 0) n.natAbs 0

/-- The whole number a finite double is, if it is one. -/
def whole? (x : Float) : Option Int :=
  if !x.isFinite then none
  else
    let b := Binary.ofFloat x
    let den := power 2 (-b.q).toNat
    if b.m % den = 0 then
      let n : Int := b.m / den * power 2 b.q.toNat
      some (if b.negative then -n else n)
    else none

end ProfilerBootstrap.Decimal
