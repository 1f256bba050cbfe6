import SourceLocator.Text

/-!
UTF-8 with replacement. A byte string is cut into pieces, each a well-formed character or a maximal
ill-formed subpart: a first byte with the longest run of followers that some character allows after
it. An ill-formed piece reads as U+FFFD, so decoding never fails and loses no byte.

Positions are converted by the count of continuation bytes, which needs no decoding.
-/

set_option autoImplicit false

namespace SourceLocator.Utf8

structure ByteRange where
  low : UInt8
  high : UInt8
deriving DecidableEq, Repr

def ByteRange.contains (range : ByteRange) (b : UInt8) : Bool := range.low ≤ b && b ≤ range.high

def tail : ByteRange := ⟨0x80, 0xBF⟩

-- What may follow a first byte; `none` where no character begins with it. The narrower ranges after
-- E0, ED, F0 and F4 leave out overlong forms, surrogates and numbers above 10FFFF.
def followers (b : UInt8) : Option (List ByteRange) :=
  if b ≤ 0x7F then some []
  else if b < 0xC2 then none
  else if b ≤ 0xDF then some [tail]
  else if b = 0xE0 then some [⟨0xA0, 0xBF⟩, tail]
  else if b = 0xED then some [⟨0x80, 0x9F⟩, tail]
  else if b ≤ 0xEF then some [tail, tail]
  else if b = 0xF0 then some [⟨0x90, 0xBF⟩, tail, tail]
  else if b ≤ 0xF3 then some [tail, tail, tail]
  else if b = 0xF4 then some [⟨0x80, 0x8F⟩, tail, tail]
  else none

def fitting : List ByteRange → Bytes → Bytes
  | [], _ => []
  | _, [] => []
  | range :: ranges, b :: rest => if range.contains b then b :: fitting ranges rest else []

def leading (b : UInt8) : Nat → Nat
  | 0 => b.toNat
  | 1 => b.toNat % 0x20
  | 2 => b.toNat % 0x10
  | _ => b.toNat % 0x08

def scalar (b : UInt8) (tails : Bytes) : Nat :=
  tails.foldl (fun n t => n * 0x40 + t.toNat % 0x40) (leading b tails.length)

def replacement : Char := '\uFFFD'

structure Piece where
  bytes : Bytes
  char : Char
deriving DecidableEq, Repr

def piece (b : UInt8) (rest : Bytes) : Piece :=
  match followers b with
  | none => ⟨[b], replacement⟩
  | some ranges =>
    let tails := fitting ranges rest
    if tails.length = ranges.length then ⟨b :: tails, Char.ofNat (scalar b tails)⟩
    else ⟨b :: tails, replacement⟩

def pieces : Bytes → List Piece
  | [] => []
  | b :: rest =>
    let front := piece b rest
    front :: pieces (rest.drop (front.bytes.length - 1))
termination_by bytes => bytes.length

def decode (bytes : Bytes) : Text := (pieces bytes).map Piece.char

def encode (text : Text) : Bytes := text.flatMap String.utf8EncodeChar

-- Whether the bytes are what some text is encoded as; an ill-formed piece is never the encoding of
-- the character it reads as.
def wellFormed (bytes : Bytes) : Bool := encode (decode bytes) == bytes

def isContinuation (b : UInt8) : Bool := tail.contains b

def continuationsFrom (start : Nat) : Bytes → List Nat
  | [] => []
  | b :: rest =>
    if isContinuation b then start :: continuationsFrom (start + 1) rest
    else continuationsFrom (start + 1) rest

def continuations (bytes : Bytes) : List Nat := continuationsFrom 0 bytes

-- The character offset of a byte position: the position less the continuation bytes before it.
def charOffset (continuations : List Nat) (position : Int) : Int :=
  position - (continuations.takeWhile fun (mark : Nat) => (mark : Int) < position).length

theorem fitting_prefix (ranges : List ByteRange) (bytes : Bytes) : fitting ranges bytes <+: bytes := by
  induction ranges generalizing bytes with
  | nil => simp [fitting]
  | cons range ranges ih =>
    cases bytes with
    | nil => simp [fitting]
    | cons b rest =>
      simp only [fitting]
      split
      · exact (List.cons_prefix_cons).2 ⟨rfl, ih rest⟩
      · simp

end SourceLocator.Utf8
