import ProfilerBootstrap.Text.Quoted

namespace ProfilerBootstrap.Decoding

inductive Encoding
  | utf8
  | utf16le
  | utf16be
  deriving DecidableEq, Repr

def Encoding.name : Encoding → String
  | .utf8 => "utf-8"
  | .utf16le => "utf-16-le"
  | .utf16be => "utf-16-be"

inductive Reason
  | startByte
  | continuationByte
  | endOfData
  | truncatedUnit
  | loneTrail
  | brokenPair
  deriving DecidableEq, Repr

def Reason.message : Reason → String
  | .startByte => "invalid start byte"
  | .continuationByte => "invalid continuation byte"
  | .endOfData => "unexpected end of data"
  | .truncatedUnit => "truncated data"
  | .loneTrail => "illegal encoding"
  | .brokenPair => "illegal UTF-16 surrogate"

/-- The bytes that cannot be read: the offset of the first, the first one, how many, and why. -/
structure Fault where
  offset : Nat
  byte : UInt8
  length : Nat
  reason : Reason
  deriving DecidableEq, Repr

def Fault.message (e : Encoding) (f : Fault) : String :=
  if f.length = 1 then
    s!"'{e.name}' codec can't decode byte 0x{Text.hex 2 f.byte.toNat} in position {f.offset}: " ++
      f.reason.message
  else
    let last := f.offset + f.length - 1
    s!"'{e.name}' codec can't decode bytes in position {f.offset}-{last}: {f.reason.message}"

/-- One step of a decoder: a character and its width in bytes, or the fault in front. -/
inductive Step
  | char (c : Char) (width : Nat)
  | cut (length : Nat) (reason : Reason)
  | bad (length : Nat) (reason : Reason)

def isTail (b : UInt8) : Bool := 0x80 ≤ b && b ≤ 0xBF

def secondByte (b : UInt8) : UInt8 × UInt8 :=
  if b = 0xE0 then (0xA0, 0xBF)
  else if b = 0xED then (0x80, 0x9F)
  else if b = 0xF0 then (0x90, 0xBF)
  else if b = 0xF4 then (0x80, 0x8F)
  else (0x80, 0xBF)

def tailBits (b : UInt8) : Nat := b.toNat % 64

def utf8Step : List UInt8 → Step
  | [] => .cut 0 .endOfData
  | b :: rest =>
    let second := secondByte b
    let fits (c : UInt8) : Bool := second.1 ≤ c && c ≤ second.2
    if b < 0x80 then .char (Char.ofNat b.toNat) 1
    else if b < 0xC2 || 0xF4 < b then .bad 1 .startByte
    else if b < 0xE0 then
      match rest with
      | [] => .cut 1 .endOfData
      | c :: _ =>
        if fits c then .char (Char.ofNat (b.toNat % 32 * 64 + tailBits c)) 2
        else .bad 1 .continuationByte
    else if b < 0xF0 then
      match rest with
      | [] => .cut 1 .endOfData
      | c :: rest' =>
        if !fits c then .bad 1 .continuationByte
        else match rest' with
          | [] => .cut 2 .endOfData
          | d :: _ =>
            if isTail d then
              .char (Char.ofNat ((b.toNat % 16 * 64 + tailBits c) * 64 + tailBits d)) 3
            else .bad 2 .continuationByte
    else
      match rest with
      | [] => .cut 1 .endOfData
      | c :: rest' =>
        if !fits c then .bad 1 .continuationByte
        else match rest' with
          | [] => .cut 2 .endOfData
          | d :: rest'' =>
            if !isTail d then .bad 2 .continuationByte
            else match rest'' with
              | [] => .cut 3 .endOfData
              | e :: _ =>
                if isTail e then
                  .char (Char.ofNat
                    (((b.toNat % 8 * 64 + tailBits c) * 64 + tailBits d) * 64 + tailBits e)) 4
                else .bad 3 .continuationByte

def isLead (u : Nat) : Bool := 0xD800 ≤ u && u < 0xDC00

def isTrail (u : Nat) : Bool := 0xDC00 ≤ u && u < 0xE000

/-- The unit of two bytes is given by its low and its high byte, in the order of the encoding. -/
def utf16Step (unit : UInt8 → UInt8 → Nat) : List UInt8 → Step
  | [] => .cut 0 .truncatedUnit
  | [_] => .cut 1 .truncatedUnit
  | a :: b :: rest =>
    let u := unit a b
    if isTrail u then .bad 2 .loneTrail
    else if !isLead u then .char (Char.ofNat u) 2
    else match rest with
      | [] => .cut 2 .endOfData
      | [_] => .cut 3 .endOfData
      | c :: d :: _ =>
        let v := unit c d
        if isTrail v then .char (Char.ofNat (0x10000 + (u - 0xD800) * 0x400 + (v - 0xDC00))) 4
        else .bad 2 .brokenPair

def Encoding.step : Encoding → List UInt8 → Step
  | .utf8 => utf8Step
  | .utf16le => utf16Step fun a b => a.toNat + 256 * b.toNat
  | .utf16be => utf16Step fun a b => 256 * a.toNat + b.toNat

/-- What could be read, the bytes that were left, and the fault that ended the reading, if any. -/
structure Reading where
  chars : List Char
  left : List UInt8
  fault : Option Fault

/-- Reads on from an offset, `skip` bytes of it being those of a character already read; `final`
when no more bytes will follow. -/
def readFrom (e : Encoding) (final : Bool) (offset skip : Nat) (read : List Char) :
    List UInt8 → Reading
  | [] => ⟨read.reverse, [], none⟩
  | b :: rest =>
    match skip with
    | skip + 1 => readFrom e final (offset + 1) skip read rest
    | 0 =>
      match e.step (b :: rest) with
      | .char c width => readFrom e final (offset + 1) (width - 1) (c :: read) rest
      | .cut length reason =>
        ⟨read.reverse, b :: rest, if final then some ⟨offset, b, length, reason⟩ else none⟩
      | .bad length reason => ⟨read.reverse, b :: rest, some ⟨offset, b, length, reason⟩⟩

def decodeFrom (e : Encoding) (final : Bool) (offset : Nat) (bytes : List UInt8) : Reading :=
  readFrom e final offset 0 [] bytes

def decode (e : Encoding) (bytes : List UInt8) : Except Fault (List Char) :=
  let r := decodeFrom e true 0 bytes
  match r.fault with
  | some f => .error f
  | none => .ok r.chars

end ProfilerBootstrap.Decoding
