/-!
# UTF-8

Octets and characters. Decoding never fails: it yields the characters it finds and, between them,
the octets that belong to none. An ill-formed sequence is cut at the first octet that cannot
continue it, so each `Symbol.malformed` is the longest run that could still have become a
character. A text is well formed if no symbol is malformed; the lossy reading writes one
replacement character for each malformed symbol.
-/

namespace Transcoding.Text

/-- What a reader sees in a sequence of octets. -/
inductive Symbol where
  /-- A character, however many octets it takes. -/
  | char (c : Char)
  /-- Octets that belong to no character. -/
  | malformed (octets : List UInt8)
  deriving DecidableEq

/-- The number of octets a symbol stands for. -/
def Symbol.octetCount : Symbol → Nat
  | .char c => c.utf8Size
  | .malformed octets => octets.length

/-- A character of which some octets are still to come. -/
structure PendingChar where
  /-- The octets read so far. -/
  octets : List UInt8
  /-- The bits read so far. -/
  bits : Nat
  /-- How many octets are still to come. -/
  missing : Nat
  /-- The least octet that may come next. -/
  low : UInt8
  /-- The greatest octet that may come next. -/
  high : UInt8

/-- What the first octet of a character says about the octets to come. An octet that starts no
character stands alone. -/
def startChar (b : UInt8) : Symbol ⊕ PendingChar :=
  let pending (mask : Nat) (missing : Nat) (low high : UInt8) : Symbol ⊕ PendingChar :=
    .inr { octets := [b], bits := b.toNat % mask, missing, low, high }
  if b < 0x80 then .inl (.char (Char.ofNat b.toNat))
  else if b < 0xC2 then .inl (.malformed [b])
  else if b < 0xE0 then pending 0x20 1 0x80 0xBF
  else if b = 0xE0 then pending 0x10 2 0xA0 0xBF
  else if b = 0xED then pending 0x10 2 0x80 0x9F
  else if b < 0xF0 then pending 0x10 2 0x80 0xBF
  else if b = 0xF0 then pending 0x08 3 0x90 0xBF
  else if b < 0xF4 then pending 0x08 3 0x80 0xBF
  else if b = 0xF4 then pending 0x08 3 0x80 0x8F
  else .inl (.malformed [b])

/-- The symbols completed by the next octet, and what is pending after it. -/
def decodeStep (pending : Option PendingChar) (b : UInt8) : List Symbol × Option PendingChar :=
  let afresh : List Symbol × Option PendingChar :=
    match startChar b with
    | .inl symbol => ([symbol], none)
    | .inr p => ([], some p)
  match pending with
  | none => afresh
  | some p =>
    if p.low ≤ b && b ≤ p.high then
      let bits := p.bits * 0x40 + b.toNat % 0x40
      if p.missing ≤ 1 then ([.char (Char.ofNat bits)], none)
      else ([], some { octets := p.octets ++ [b], bits, missing := p.missing - 1,
                       low := 0x80, high := 0xBF })
    else (.malformed p.octets :: afresh.1, afresh.2)

/-- The symbols of the octets that follow a pending character. -/
def decodeFrom : Option PendingChar → List UInt8 → List Symbol
  | none, [] => []
  | some p, [] => [.malformed p.octets]
  | pending, b :: bs =>
    let (symbols, next) := decodeStep pending b
    symbols ++ decodeFrom next bs

/-- The symbols of a sequence of octets. -/
def decodeOctets (octets : List UInt8) : List Symbol := decodeFrom none octets

/-- The characters of the symbols, if all are characters. -/
def charsOf? : List Symbol → Option (List Char)
  | [] => some []
  | .char c :: rest => (charsOf? rest).map (c :: ·)
  | .malformed _ :: _ => none

/-- The text of well-formed octets. -/
def ofOctets? (octets : List UInt8) : Option String :=
  (charsOf? (decodeOctets octets)).map String.ofList

/-- The text of the octets, with a replacement character for each malformed symbol. -/
def ofOctetsLossy (octets : List UInt8) : String :=
  String.ofList <| (decodeOctets octets).map fun
    | .char c => c
    | .malformed _ => '\uFFFD'

/-- The octets of a text. -/
def toOctets (text : List Char) : List UInt8 := text.flatMap String.utf8EncodeChar

end Transcoding.Text
