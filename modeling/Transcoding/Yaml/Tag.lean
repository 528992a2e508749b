import Transcoding.Text.Decimal
import Transcoding.Yaml.Symbol

/-!
# Tags

A tag says what a node is meant to be. It is written as a handle and a suffix, and the handle
stands for the start of the tag: `!!` stands for `tag:yaml.org,2002:`, `!` for itself, and others
are declared before the document. A tag between angle brackets is written out, without a handle.
-/

namespace Transcoding.Yaml

open Transcoding.Text

/-- A tag as its octets: percent signs may spell octets that are not text. -/
abbrev Tag := List UInt8

/-- The octets of an ASCII text. -/
def asciiOctets (text : List Char) : List UInt8 := text.map fun c => UInt8.ofNat c.toNat

/-- The tag of the null value. -/
def Tag.null : Tag := asciiOctets "tag:yaml.org,2002:null".toList

/-- The tag of the truth values. -/
def Tag.bool : Tag := asciiOctets "tag:yaml.org,2002:bool".toList

/-- The tag that asks for no type. -/
def Tag.nonspecific : Tag := asciiOctets ['!']

/-- A tag as it is written: a handle, which may be empty, and a suffix. -/
structure TagMark where
  handle : List Char
  suffix : List UInt8

/-- The handles that need no declaration. -/
def standardHandles : List (List Char × List UInt8) :=
  [(['!'], asciiOctets ['!']), (['!', '!'], asciiOctets "tag:yaml.org,2002:".toList)]

/-- The tag that is meant, by the declared handles. -/
def TagMark.resolve? (declared : List (List Char × List UInt8)) (mark : TagMark) : Option Tag :=
  if mark.handle.isEmpty then some mark.suffix
  else ((declared ++ standardHandles).lookup mark.handle).map (· ++ mark.suffix)

/-- A character of a tag. A comma and square brackets are wanted only where nothing else can use
them. -/
def isTagChar (brackets : Bool) (c : Char) : Bool :=
  c.isAlphanum || "_-;/?:@&=+$.!~*'()".toList.contains c
    || (brackets && ",[]".toList.contains c)

/-- The octet that two hexadecimal digits spell. -/
def hexOctet? : List Symbol → Option UInt8
  | high :: low :: _ => do
    return UInt8.ofNat ((← hexDigit? high.char) * 16 + (← hexDigit? low.char))
  | _ => none

/-- How many octets follow the first octet of a character. -/
def followingOctets? (octet : UInt8) : Option Nat :=
  if octet < 0x80 then some 0
  else if octet < 0xC0 then none
  else if octet < 0xE0 then some 1
  else if octet < 0xF0 then some 2
  else if octet < 0xF8 then some 3
  else none

/-- Reads the octets of a tag after `octets`, last one first. The first `skip` symbols belong to an
octet that has been read, and `missing` octets of a character are still to come. -/
def tagOctetsFrom? (brackets : Bool) :
    Nat → Nat → List UInt8 → List Symbol → Option (List UInt8 × List Symbol)
  | _, missing, octets, [] => if missing = 0 then some (octets.reverse, []) else none
  | skip + 1, missing, octets, _ :: rest => tagOctetsFrom? brackets skip missing octets rest
  | 0, missing, octets, symbol :: rest =>
    if symbol.char == '%' then
      match hexOctet? rest with
      | none => none
      | some octet =>
        match missing with
        | 0 =>
          match followingOctets? octet with
          | none => none
          | some count => tagOctetsFrom? brackets 2 count (octet :: octets) rest
        | missing + 1 =>
          if 0x80 ≤ octet && octet < 0xC0 then
            tagOctetsFrom? brackets 2 missing (octet :: octets) rest
          else none
    else if missing != 0 then none
    else if isTagChar brackets symbol.char then
      tagOctetsFrom? brackets 0 0 (UInt8.ofNat symbol.char.toNat :: octets) rest
    else some (octets.reverse, symbol :: rest)

/-- Reads the octets of a tag. -/
def tagOctets? (brackets : Bool) (symbols : List Symbol) : Option (List UInt8 × List Symbol) :=
  tagOctetsFrom? brackets 0 0 [] symbols

/-- The handle after an exclamation mark: a name and another mark, if they are there. -/
def handleName? (symbols : List Symbol) : Option (List Char × List Symbol) :=
  let name := takeName symbols
  match symbols.drop name.length with
  | symbol :: rest => if symbol.char == '!' then some ('!' :: name ++ ['!'], rest) else none
  | [] => none

/-- Reads a tag between angle brackets after the opening one. -/
def verbatimTag? (symbols : List Symbol) : Option (TagMark × List Symbol) := do
  let (suffix, rest) ← tagOctets? true symbols
  match rest with
  | symbol :: rest =>
    if symbol.char == '>' && !suffix.isEmpty then return ({ handle := [], suffix }, rest) else none
  | [] => none

/-- Reads a tag after its exclamation mark. A mark with nothing after it is the tag that asks for no
type. -/
def tagMark? (symbols : List Symbol) : Option (TagMark × List Symbol) :=
  match symbols with
  | symbol :: rest =>
    if symbol.char == '<' then verbatimTag? rest
    else match handleName? symbols with
      | some (handle, rest) => do
        let (suffix, rest) ← tagOctets? false rest
        if suffix.isEmpty then none else return ({ handle, suffix }, rest)
      | none => do
        let (suffix, rest) ← tagOctets? false symbols
        if suffix.isEmpty then return ({ handle := [], suffix := Tag.nonspecific }, rest)
        else return ({ handle := ['!'], suffix }, rest)
  | [] => some ({ handle := [], suffix := Tag.nonspecific }, [])

end Transcoding.Yaml
