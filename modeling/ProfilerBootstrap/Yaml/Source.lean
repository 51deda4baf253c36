import ProfilerBootstrap.Yaml.Error

namespace ProfilerBootstrap.Yaml.Source

def blockSize : Nat := 4096

/-- A byte order mark tells UTF-16 from UTF-8. -/
def encoding : List UInt8 → Decoding.Encoding
  | 0xFF :: 0xFE :: _ => .utf16le
  | 0xFE :: 0xFF :: _ => .utf16be
  | _ => .utf8

def isAllowed (c : Char) : Bool :=
  let n := c.toNat
  n = 9 || n = 10 || n = 13 || (32 ≤ n && n ≤ 126) || n = 0x85 || (0xA0 ≤ n && n ≤ 0xD7FF) ||
    (0xE000 ≤ n && n ≤ 0xFFFD) || 0x10000 ≤ n

/-- Reads block after block, the next one having `size` bytes, until one is empty. `left` is what
the last block held of a character that goes on in the next one, `offset` the bytes and `index` the
characters before it. -/
def readBlocks (e : Decoding.Encoding) (size offset index : Nat) (left rest : List UInt8) :
    Nat → Stream Char
  | 0 => ⟨[], none⟩
  | more + 1 =>
    let bytes := left ++ rest.take size
    let r := Decoding.decodeFrom e rest.isEmpty offset bytes
    match r.fault, r.chars.findIdx? (!isAllowed ·) with
    | some f, _ => ⟨[], some (.undecodable f)⟩
    | none, some i => ⟨[], some (.forbidden (r.chars.getD i endChar) (index + i))⟩
    | none, none =>
      if rest.isEmpty then ⟨r.chars, none⟩
      else
        let s := readBlocks e blockSize (offset + (bytes.length - r.left.length))
          (index + r.chars.length) r.left (rest.drop size) more
        ⟨r.chars ++ s.items, s.error⟩

/-- A document of one block or less is read at once; otherwise the first read takes two blocks and
the others one each. -/
def read (bytes : List UInt8) : Stream Char :=
  let e := encoding bytes
  if bytes.length ≤ blockSize then readBlocks e 0 0 0 bytes [] 1
  else readBlocks e (2 * blockSize) 0 0 [] bytes (bytes.length / blockSize + 2)

end ProfilerBootstrap.Yaml.Source
