/-!
# Docdown.Text.Utf8

Reading bytes as UTF-8 text.  Every longest run of bytes that starts a
character but cannot be completed, and every byte that starts none, becomes one
replacement character U+FFFD; nothing is refused and a byte-order mark is kept.
-/

namespace Docdown.Text.Utf8

/-- What stands for bytes that are no character. -/
def replacement : Char := '\uFFFD'

/-- A character whose first bytes have been read: how many more bytes it takes,
the range the next one has to lie in, and the bits so far. -/
structure Pending where
  missing : Nat
  low : Nat
  high : Nat
  bits : Nat
deriving DecidableEq, Repr

/-- The character begun by a byte that is not ASCII.  The second byte is
restricted so that no character has two spellings and none is a surrogate or
beyond U+10FFFF. -/
def lead? (b : Nat) : Option Pending :=
  if 0xC2 ≤ b ∧ b ≤ 0xDF then some ⟨1, 0x80, 0xBF, b - 0xC0⟩
  else if b = 0xE0 then some ⟨2, 0xA0, 0xBF, 0⟩
  else if b = 0xED then some ⟨2, 0x80, 0x9F, 0xD⟩
  else if 0xE1 ≤ b ∧ b ≤ 0xEF then some ⟨2, 0x80, 0xBF, b - 0xE0⟩
  else if b = 0xF0 then some ⟨3, 0x90, 0xBF, 0⟩
  else if b = 0xF4 then some ⟨3, 0x80, 0x8F, 4⟩
  else if 0xF1 ≤ b ∧ b ≤ 0xF3 then some ⟨3, 0x80, 0xBF, b - 0xF0⟩
  else none

/-- The text read so far, newest character first, and the character begun. -/
structure State where
  done : List Char
  pending : Option Pending

/-- Reads a byte with which no earlier byte belongs together. -/
def State.begin (done : List Char) (b : Nat) : State :=
  if b < 0x80 then ⟨Char.ofNat b :: done, none⟩
  else match lead? b with
    | some p => ⟨done, some p⟩
    | none => ⟨replacement :: done, none⟩

/-- Reads a byte.  One that cannot continue the character begun ends it as a
replacement character and is read afresh. -/
def State.read (s : State) (b : Nat) : State :=
  match s.pending with
  | none => .begin s.done b
  | some p =>
    if p.low ≤ b ∧ b ≤ p.high then
      let bits := p.bits * 0x40 + (b - 0x80)
      if p.missing ≤ 1 then ⟨Char.ofNat bits :: s.done, none⟩
      else ⟨s.done, some ⟨p.missing - 1, 0x80, 0xBF, bits⟩⟩
    else .begin (replacement :: s.done) b

/-- The text read; a character left unfinished is one replacement character. -/
def State.finish (s : State) : List Char :=
  match s.pending with
  | none => s.done.reverse
  | some _ => (replacement :: s.done).reverse

/-- The text of a whole byte sequence. -/
def decode (bytes : List UInt8) : List Char :=
  (bytes.foldl (fun (s : State) b => s.read b.toNat) ⟨[], none⟩).finish

/-- The text held by a file's bytes. -/
def text (bytes : ByteArray) : String := String.ofList (decode bytes.data.toList)

end Docdown.Text.Utf8
