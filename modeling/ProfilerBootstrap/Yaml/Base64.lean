import ProfilerBootstrap.Yaml.Error

namespace ProfilerBootstrap.Yaml.Base64

def value? (n : Nat) : Option Nat :=
  if 65 ≤ n ∧ n ≤ 90 then some (n - 65)
  else if 97 ≤ n ∧ n ≤ 122 then some (n - 71)
  else if 48 ≤ n ∧ n ≤ 57 then some (n + 4)
  else if n = 43 then some 62
  else if n = 47 then some 63
  else none

/-- The state between two characters: the bytes so far, the last one first, the place in the group
of four, the bits left over, and the padding signs since the last character. -/
structure State where
  bytes : List UInt8
  place : Nat
  left : Nat
  pads : Nat

def State.put (s : State) (v : Nat) : State :=
  match s.place with
  | 0 => { s with place := 1, left := v, pads := 0 }
  | 1 => ⟨UInt8.ofNat (s.left * 4 + v / 16) :: s.bytes, 2, v % 16, 0⟩
  | 2 => ⟨UInt8.ofNat (s.left * 16 + v / 4) :: s.bytes, 3, v % 4, 0⟩
  | _ => ⟨UInt8.ofNat (s.left * 64 + v) :: s.bytes, 0, 0, 0⟩

def finish (s : State) : Except Base64Problem (List UInt8) :=
  if s.place = 0 then .ok s.bytes.reverse
  else if s.place = 1 then .error (.length (s.bytes.length / 3 * 4 + 1))
  else .error .padding

/-- Reading stops when padding completes a group. -/
def decodeFrom : State → List Nat → Except Base64Problem (List UInt8)
  | s, [] => finish s
  | s, n :: rest =>
    if n = 61 then
      if 2 ≤ s.place then
        if 4 ≤ s.place + s.pads + 1 then .ok s.bytes.reverse
        else decodeFrom { s with pads := s.pads + 1 } rest
      else decodeFrom s rest
    else match value? n with
      | none => decodeFrom s rest
      | some v => decodeFrom (s.put v) rest

def decode (text : List Nat) : Except Base64Problem (List UInt8) := decodeFrom ⟨[], 0, 0, 0⟩ text

/-- The first run of characters that are not ASCII: the first of them, its place, and how many. -/
def notAscii? (text : List Nat) : Option (Nat × Nat × Nat) :=
  match text.dropWhile (· < 128) with
  | [] => none
  | n :: rest =>
    some (n, text.length - (rest.length + 1), (rest.takeWhile (128 ≤ ·)).length + 1)

end ProfilerBootstrap.Yaml.Base64
