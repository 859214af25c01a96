import Scriptorium.Bytes

/-! How an ELF image writes numbers: its word size decides how long an address is and where the
fields of a record stand, its byte order how the bytes of a field make a number. -/

namespace Scriptorium.Elf

inductive ByteOrder
  | little
  | big

/-- The number that bytes make. -/
def ByteOrder.number : ByteOrder → Bytes → Nat
  | .little, bs => bs.foldr (fun b n => b.toNat + 256 * n) 0
  | .big, bs => bs.foldl (fun n b => 256 * n + b.toNat) 0

/-- The word size: 32 bits or 64. -/
inductive Width
  | narrow
  | wide

def Width.pick {α : Type} : Width → α → α → α
  | .narrow, a, _ => a
  | .wide, _, a => a

structure Encoding where
  width : Width
  order : ByteOrder

namespace Encoding

/-- The number in the `size` bytes of a record that start at one of two offsets. -/
def field (e : Encoding) (record : Bytes) (size : Nat) (narrow wide : Nat) : Nat :=
  e.order.number ((record.drop (e.width.pick narrow wide)).take size)

def byte (e : Encoding) (record : Bytes) (narrow wide : Nat) : Nat := e.field record 1 narrow wide

def half (e : Encoding) (record : Bytes) (narrow wide : Nat) : Nat := e.field record 2 narrow wide

def word (e : Encoding) (record : Bytes) (narrow wide : Nat) : Nat := e.field record 4 narrow wide

def address (e : Encoding) (record : Bytes) (narrow wide : Nat) : Nat :=
  e.field record (e.width.pick 4 8) narrow wide

end Encoding

/-! ### Pieces of an image -/

/-- The bytes from `offset` on, if there are `size` of them. -/
def slice? (image : Bytes) (offset size : Nat) : Option Bytes :=
  if offset + size ≤ image.length then some ((image.drop offset).take size) else none

/-- The whole records of `size` bytes in `bs`. -/
def records (size : Nat) (bs : Bytes) : List Bytes :=
  (List.range (bs.length / size)).map fun k => (bs.drop (k * size)).take size

end Scriptorium.Elf
