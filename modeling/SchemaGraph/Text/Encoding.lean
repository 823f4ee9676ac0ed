import SchemaGraph.Text.Symbol

/-!
# Bytes as text

The bytes of a document may be those of UTF-8, UTF-16 or UTF-32. Documents start with two ASCII
characters, so the places of the zero bytes among the first four tell which one it is. Halves of
surrogate pairs are let through. Where text is only shown, bytes of UTF-8 that stand for nothing
are replaced, as many at a time as could have begun a character.
-/

namespace SchemaGraph.Text

inductive Encoding where
  | utf8
  | utf16 (bigEndian : Bool)
  | utf32 (bigEndian : Bool)
  deriving Repr, DecidableEq

/-- The encoding of a document, judged by where its first zero bytes are. -/
def Encoding.ofBytes : List UInt8 → Encoding
  | [0, _] => .utf16 true
  | [_, 0] => .utf16 false
  | 0 :: 0 :: _ :: _ :: _ => .utf32 true
  | 0 :: _ :: _ :: _ :: _ => .utf16 true
  | _ :: 0 :: 0 :: 0 :: _ => .utf32 false
  | _ :: 0 :: _ :: _ :: _ => .utf16 false
  | _ => .utf8

/-- The two-byte units of bytes; none if one byte is left over. -/
def units16? (bigEndian : Bool) : List UInt8 → Option (List Nat)
  | a :: b :: rest =>
    let u := if bigEndian then a.toNat * 256 + b.toNat else b.toNat * 256 + a.toNat
    (units16? bigEndian rest).map (u :: ·)
  | [_] => none
  | [] => some []

def ofUnits : List Nat → List Symbol
  | u :: v :: rest =>
    if isHighHalf u && isLowHalf v then .char (joinHalves u v) :: ofUnits rest
    else .ofNumber u :: ofUnits (v :: rest)
  | [u] => [.ofNumber u]
  | [] => []

def ofBytes32? (bigEndian : Bool) : List UInt8 → Option (List Symbol)
  | a :: b :: c :: d :: rest =>
    let number := fun (w x y z : UInt8) =>
      ((w.toNat * 256 + x.toNat) * 256 + y.toNat) * 256 + z.toNat
    let n := if bigEndian then number a b c d else number d c b a
    if n < 0x110000 then (ofBytes32? bigEndian rest).map (.ofNumber n :: ·) else none
  | [] => some []
  | _ => none

/-- A character of UTF-8 of which some bytes have been read. -/
structure Begun where
  value : Nat
  missing : Nat
  /-- The range of the next byte. -/
  low : Nat
  high : Nat

inductive FirstByte where
  | whole (c : Char)
  | begun (b : Begun)
  | stray

def firstByte (b : Nat) : FirstByte :=
  if b < 0x80 then .whole (Char.ofNat b)
  else if 0xC2 ≤ b && b < 0xE0 then .begun ⟨b % 32, 1, 0x80, 0xBF⟩
  else if b == 0xE0 then .begun ⟨b % 16, 2, 0xA0, 0xBF⟩
  else if b == 0xED then .begun ⟨b % 16, 2, 0x80, 0x9F⟩
  else if 0xE1 ≤ b && b < 0xF0 then .begun ⟨b % 16, 2, 0x80, 0xBF⟩
  else if b == 0xF0 then .begun ⟨b % 8, 3, 0x90, 0xBF⟩
  else if b == 0xF4 then .begun ⟨b % 8, 3, 0x80, 0x8F⟩
  else if 0xF1 ≤ b && b < 0xF4 then .begun ⟨b % 8, 3, 0x80, 0xBF⟩
  else .stray

def replacement : Char := Char.ofNat 0xFFFD

/-- The characters that bytes are shown as, after what has been begun. -/
def shownFrom (begun : Option Begun) : List UInt8 → List Char
  | [] => if begun.isSome then [replacement] else []
  | byte :: rest =>
    let b := byte.toNat
    let fresh := match firstByte b with
      | .whole c => c :: shownFrom none rest
      | .begun next => shownFrom (some next) rest
      | .stray => replacement :: shownFrom none rest
    match begun with
    | none => fresh
    | some p =>
      if p.low ≤ b && b ≤ p.high then
        let value := p.value * 64 + b % 64
        if p.missing == 1 then Char.ofNat value :: shownFrom none rest
        else shownFrom (some ⟨value, p.missing - 1, 0x80, 0xBF⟩) rest
      else replacement :: fresh

/-- The text that bytes of UTF-8 are shown as. -/
def shownBytes (bytes : List UInt8) : String := keep (String.ofList (shownFrom none bytes))

/-- The bytes of a text in UTF-8. A half has none of its own. -/
def bytesOf (s : String) : List UInt8 :=
  (symbols s.toList).flatMap fun x =>
    match x with
    | .char c => (String.singleton c).toUTF8.toList
    | .half _ => (String.singleton replacement).toUTF8.toList

/-- The text of bytes of UTF-8. -/
def ofUtf8? (bytes : List UInt8) : Option String := (String.fromUTF8? ⟨bytes.toArray⟩).map keep

/-- The symbols of a document. A byte order mark of UTF-8 in front is dropped. -/
def decode? (bytes : List UInt8) : Option (List Symbol) :=
  match Encoding.ofBytes bytes with
  | .utf16 bigEndian => (units16? bigEndian bytes).map ofUnits
  | .utf32 bigEndian => ofBytes32? bigEndian bytes
  | .utf8 =>
    (ofUtf8? bytes).map fun s =>
      match symbols s.toList with
      | x :: rest => if x == .ofNumber 0xFEFF then rest else x :: rest
      | [] => []

end SchemaGraph.Text

/-!
## Base 64

Four characters of base 64 stand for three bytes, and equals signs fill up the last four. Other
characters are skipped. A sign that can end the text ends it, wherever it stands.
-/

namespace SchemaGraph.Text

def digit64? (c : Char) : Option Nat :=
  if c.isUpper then some (c.toNat - 'A'.toNat)
  else if c.isLower then some (c.toNat - 'a'.toNat + 26)
  else if c.isDigit then some (c.toNat - '0'.toNat + 52)
  else if c == '+' then some 62
  else if c == '/' then some 63
  else none

/-- The bytes of the rest of a text. The last `count` digits fill no group yet, `left` is what they
stand for beyond the last byte, and `pads` equals signs stand behind them. None if the text ends in
such a group. -/
def ofBase64? (count left pads : Nat) : List Char → Option (List UInt8)
  | [] => if count == 0 then some [] else none
  | c :: cs =>
    if c == '=' then
      if 2 ≤ count && 4 ≤ count + (pads + 1) then some []
      else ofBase64? count left (if 2 ≤ count then pads + 1 else pads) cs
    else
      match digit64? c with
      | none => ofBase64? count left pads cs
      | some d =>
        let n := left * 64 + d
        match count with
        | 0 => ofBase64? 1 n 0 cs
        | 1 => (ofBase64? 2 (n % 16) 0 cs).map (UInt8.ofNat (n / 16) :: ·)
        | 2 => (ofBase64? 3 (n % 4) 0 cs).map (UInt8.ofNat (n / 4) :: ·)
        | _ => (ofBase64? 0 0 0 cs).map (UInt8.ofNat n :: ·)

def bytesOfBase64? (s : String) : Option (List UInt8) := ofBase64? 0 0 0 s.toList

end SchemaGraph.Text
