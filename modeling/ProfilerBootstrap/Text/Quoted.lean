import ProfilerBootstrap.Text.Case
import ProfilerBootstrap.Text.Printable

namespace ProfilerBootstrap.Text

def hex (width n : Nat) : String :=
  let ds := Nat.toDigits 16 n
  String.ofList (List.replicate (width - ds.length) '0' ++ ds)

namespace Quoted

/-- The quote for a text: the double one only where it saves an escape. -/
def quoteFor (ps : List Nat) : Nat := if ps.contains 39 && !ps.contains 34 then 34 else 39

def escape (quote n : Nat) : List Char :=
  if n = quote ∨ n = 92 then ['\\', Char.ofNat n]
  else if n = 10 then ['\\', 'n']
  else if n = 13 then ['\\', 'r']
  else if n = 9 then ['\\', 't']
  else if isPrintable n then [Char.ofNat n]
  else if n < 0x100 then '\\' :: 'x' :: (hex 2 n).toList
  else if n < 0x10000 then '\\' :: 'u' :: (hex 4 n).toList
  else '\\' :: 'U' :: (hex 8 n).toList

def encode (ps : List Nat) : List Char :=
  let q := quoteFor ps
  Char.ofNat q :: ps.flatMap (escape q) ++ [Char.ofNat q]

end Quoted

def quotePoints (ps : List Nat) : String := String.ofList (Quoted.encode ps)

def quote (s : String) : String := quotePoints (points s)

end ProfilerBootstrap.Text
