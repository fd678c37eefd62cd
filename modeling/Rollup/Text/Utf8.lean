/-!
The UTF-8 bytes of a text, and the text of bytes that may be damaged.
-/
namespace Rollup.Text

/-- The bytes of one character. -/
def charBytes (c : Char) : List Nat :=
  let n := c.toNat
  if n < 0x80 then [n]
  else if n < 0x800 then [0xc0 + n / 0x40, 0x80 + n % 0x40]
  else if n < 0x10000 then [0xe0 + n / 0x1000, 0x80 + n / 0x40 % 0x40, 0x80 + n % 0x40]
  else [0xf0 + n / 0x40000, 0x80 + n / 0x1000 % 0x40, 0x80 + n / 0x40 % 0x40, 0x80 + n % 0x40]

/-- The bytes of a text. -/
def bytes (text : String) : List Nat :=
  text.toList.flatMap charBytes

/-- What a byte sequence may go on with after its first byte: how many bytes follow, the range of
the next one, and the bits that the first byte gives. -/
structure Lead where
  more : Nat
  low : Nat
  high : Nat
  bits : Nat

/-- How a first byte above the ASCII range goes on; none if no sequence starts with it. The ranges
leave out overlong forms, surrogates and numbers beyond the last code point. -/
def lead? (first : Nat) : Option Lead :=
  if 0xc2 ≤ first ∧ first ≤ 0xdf then some ⟨1, 0x80, 0xbf, first - 0xc0⟩
  else if first = 0xe0 then some ⟨2, 0xa0, 0xbf, 0⟩
  else if first = 0xed then some ⟨2, 0x80, 0x9f, 0xd⟩
  else if 0xe1 ≤ first ∧ first ≤ 0xef then some ⟨2, 0x80, 0xbf, first - 0xe0⟩
  else if first = 0xf0 then some ⟨3, 0x90, 0xbf, 0⟩
  else if 0xf1 ≤ first ∧ first ≤ 0xf3 then some ⟨3, 0x80, 0xbf, first - 0xf0⟩
  else if first = 0xf4 then some ⟨3, 0x80, 0x8f, 4⟩
  else none

/-- Reads the bytes one by one. The first argument is none between characters; inside one it holds
what is still expected. A sequence that breaks off counts as one replacement character, and the byte
that broke it is read afresh. -/
def decodeFrom : Option Lead → List Nat → List Char
  | none, [] => []
  | some _, [] => ['\ufffd']
  | none, byte :: rest =>
    if byte < 0x80 then Char.ofNat byte :: decodeFrom none rest
    else
      match lead? byte with
      | some lead => decodeFrom (some lead) rest
      | none => '\ufffd' :: decodeFrom none rest
  | some lead, byte :: rest =>
    if lead.low ≤ byte ∧ byte ≤ lead.high then
      let bits := lead.bits * 0x40 + (byte - 0x80)
      if lead.more ≤ 1 then Char.ofNat bits :: decodeFrom none rest
      else decodeFrom (some ⟨lead.more - 1, 0x80, 0xbf, bits⟩) rest
    else if byte < 0x80 then '\ufffd' :: Char.ofNat byte :: decodeFrom none rest
    else
      match lead? byte with
      | some next => '\ufffd' :: decodeFrom (some next) rest
      | none => '\ufffd' :: '\ufffd' :: decodeFrom none rest

/-- The text of the bytes, with a replacement character for each damaged sequence. -/
def ofBytes (input : List Nat) : String :=
  String.ofList (decodeFrom none input)

end Rollup.Text
