import Scriptorium.Bytes
import Scriptorium.Text.Basic

/-! Text as bytes in UTF-8. Decoding never fails: each maximal run of bytes that begins a character
but cannot become one reads as one replacement character. Reading strictly accepts only bytes that
are the encoding of a text. -/

namespace Scriptorium.Text

def encode (s : Text) : Bytes := s.flatMap String.utf8EncodeChar

/-- The number of bytes of the encoding. -/
def byteLength (s : Text) : Nat := s.foldr (fun c n => c.utf8Size + n) 0

/-- A character in the making: how many bytes are missing, the bits so far, and the bounds of the
byte that comes next. -/
structure Partial where
  missing : Nat
  bits : Nat
  low : UInt8
  high : UInt8

/-- What has been decoded, from right to left, and the character in the making. -/
structure Decoder where
  decoded : Text
  pending : Option Partial

namespace Decoder

def emit (d : Decoder) (c : Char) : Decoder := ⟨c :: d.decoded, none⟩

def replacement : Char := '\ufffd'

/-- Reads a byte with no character in the making. -/
def start (d : Decoder) (b : UInt8) : Decoder :=
  let begun (missing : Nat) (mask : UInt8) (low high : UInt8) : Decoder :=
    ⟨d.decoded, some ⟨missing, (b &&& mask).toNat, low, high⟩⟩
  if b < 0x80 then d.emit (Char.ofNat b.toNat)
  else if b < 0xc2 then d.emit replacement
  else if b < 0xe0 then begun 1 0x1f 0x80 0xbf
  else if b = 0xe0 then begun 2 0x0f 0xa0 0xbf
  else if b = 0xed then begun 2 0x0f 0x80 0x9f
  else if b < 0xf0 then begun 2 0x0f 0x80 0xbf
  else if b = 0xf0 then begun 3 0x07 0x90 0xbf
  else if b < 0xf4 then begun 3 0x07 0x80 0xbf
  else if b = 0xf4 then begun 3 0x07 0x80 0x8f
  else d.emit replacement

def feed (d : Decoder) (b : UInt8) : Decoder :=
  match d.pending with
  | none => d.start b
  | some p =>
    if p.low ≤ b && b ≤ p.high then
      let bits := 64 * p.bits + (b &&& 0x3f).toNat
      if p.missing ≤ 1 then d.emit (Char.ofNat bits)
      else ⟨d.decoded, some ⟨p.missing - 1, bits, 0x80, 0xbf⟩⟩
    else (d.emit replacement).start b

def finish (d : Decoder) : Text :=
  (if d.pending.isSome then replacement :: d.decoded else d.decoded).reverse

end Decoder

def decode (bs : Bytes) : Text := (bs.foldl Decoder.feed ⟨[], none⟩).finish

/-- The text that `bs` encodes, if there is one. -/
def decodeStrict? (bs : Bytes) : Option Text :=
  if encode (decode bs) = bs then some (decode bs) else none

end Scriptorium.Text
