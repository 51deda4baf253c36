import ProfilerBootstrap.Decimal.Binary

namespace ProfilerBootstrap.Decimal

def scaledLE (a : Nat) (j : Int) (b : Nat) (p : Int) : Bool :=
  a * power 10 j.toNat * power 2 (-p).toNat ≤ b * power 2 p.toNat * power 10 (-j).toNat

def scaledGE (a : Nat) (j : Int) (b : Nat) (p : Int) : Bool :=
  b * power 2 p.toNat * power 10 (-j).toNat ≤ a * power 10 j.toNat * power 2 (-p).toNat

/-- `a · 10 ^ j` lies among the reals that round to `m · 2 ^ q`. -/
def readsBack (m : Nat) (q : Int) (a : Nat) (j : Int) : Bool :=
  let low := if m = exponentUnit ∧ -1074 < q then 4 * m - 1 else 4 * m - 2
  if m % 2 = 0 then scaledGE a j low (q - 2) && scaledLE a j (4 * m + 2) (q - 2)
  else !scaledLE a j low (q - 2) && !scaledGE a j (4 * m + 2) (q - 2)

/-- The number of digits before the point: the least `k` with `m · 2 ^ q < 10 ^ k`. -/
def magnitude (m : Nat) (q : Int) : Int :=
  let num := m * power 2 q.toNat
  let den := power 2 (-q).toNat
  if den ≤ num then (Nat.toDigits 10 (num / den)).length
  else
    let d : Int := (Nat.toDigits 10 (den / num)).length
    if scaledLE 1 (1 - d) m q then 2 - d else 1 - d

/-- The nearer of the two neighbours on the grid of `count` digits that read back, if any does; of
two that are equally near, the even one. -/
def onGrid? (m : Nat) (q k : Int) (count : Nat) : Option Nat :=
  let j := k - count
  let num := m * power 2 q.toNat * power 10 (-j).toNat
  let den := power 2 (-q).toNat * power 10 j.toNat
  let d := num / den
  match readsBack m q d j, readsBack m q (d + 1) j with
  | true, true =>
    let r := num % den
    some (if 2 * r < den ∨ (2 * r = den ∧ d % 2 = 0) then d else d + 1)
  | true, false => some d
  | false, true => some (d + 1)
  | false, false => none

/-- The digits of the shortest text of a positive `m · 2 ^ q` and where its point stands: `d, k`
for `0.d · 10 ^ k`. -/
def shortest (m : Nat) (q : Int) : List Char × Int :=
  let k := magnitude m q
  let hit := (List.range 17).findSome? fun n => (onGrid? m q k (n + 1)).map (n + 1, ·)
  let (count, d) := hit.getD (1, 0)
  let ds := Nat.toDigits 10 d
  ((ds.reverse.dropWhile (· == '0')).reverse, k + ds.length - count)

/-- Where positional notation begins and ends, by the place of the point. -/
structure Layout where
  leastPoint : Int
  greatestPoint : Int
  exponentDigits : Nat

/-- Numbers from `0.0001` up to below `10 ^ 16` are positional; an exponent has two digits or
more. -/
def layout : Layout := ⟨-3, 16, 2⟩

def Layout.positional (ds : List Char) (k : Int) : List Char :=
  if k ≤ 0 then '0' :: '.' :: List.replicate (-k).toNat '0' ++ ds
  else if ds.length ≤ k.toNat then ds ++ List.replicate (k.toNat - ds.length) '0' ++ ['.', '0']
  else ds.take k.toNat ++ '.' :: ds.drop k.toNat

def Layout.scientific (l : Layout) (ds : List Char) (k : Int) : List Char :=
  let e := Nat.toDigits 10 (k - 1).natAbs
  ds.take 1 ++ (if ds.length ≤ 1 then [] else '.' :: ds.drop 1) ++
    'e' :: (if k - 1 < 0 then '-' else '+') :: List.replicate (l.exponentDigits - e.length) '0' ++ e

def Layout.text (l : Layout) (x : Float) : String :=
  if x.isNaN then "nan"
  else
    let b := Binary.ofFloat x
    let body :=
      if x.isInf then ['i', 'n', 'f']
      else if b.m = 0 then ['0', '.', '0']
      else
        let (ds, k) := shortest b.m b.q
        if l.leastPoint ≤ k ∧ k ≤ l.greatestPoint then Layout.positional ds k
        else l.scientific ds k
    String.ofList (if b.negative then '-' :: body else body)

end ProfilerBootstrap.Decimal
