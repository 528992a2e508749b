import Transcoding.Text.Cut
import Transcoding.Text.Utf8

/-!
# Requests

The parts of an HTTP request that a server looks at: the method, the path and the query parameters
of the target, and the body. The path is taken as it is written. Query parameters are decoded from
the form encoding.
-/

namespace Transcoding

open Transcoding.Text

/-- A request. -/
structure Request where
  method : String
  path : String
  query : List (String × String)
  body : List UInt8

/-! ## Methods -/

/-- A character of an HTTP token. -/
def isTokenChar (c : Char) : Bool :=
  c.isAlphanum || "!#$%&'*+-.^_`|~".toList.contains c

/-- Whether a text can be an HTTP method. -/
def isToken (text : String) : Bool := text != "" && text.toList.all isTokenChar

/-! ## Targets -/

/-- A character of a path: neither a blank nor a control, no delimiter, and of those that should be
encoded only the quote and the braces. -/
def isPathChar (c : Char) : Bool :=
  '!' ≤ c && c != '\x7f' && !"#<>?`".toList.contains c

/-- A character of a query: neither a blank nor a control, and no quote, hash or angle bracket. -/
def isQueryChar (c : Char) : Bool :=
  '!' ≤ c && c != '\x7f' && !"\"#<>".toList.contains c

/-- A path and a query, if there is one. -/
structure Target where
  path : String
  query : Option (List Char)

/-- Reads a path and what follows it. A fragment is not part of the target. -/
def Target.ofPath? (text : List Char) : Option Target :=
  let path := text.takeWhile fun c => c != '?' && c != '#'
  if path.all isPathChar then
    let path := if path.isEmpty then "/" else String.ofList path
    match text.dropWhile fun c => c != '?' && c != '#' with
    | '?' :: rest =>
      let query := rest.takeWhile (· != '#')
      if query.all isQueryChar then some { path, query := some query } else none
    | _ => some { path, query := none }
  else none

/-! ### Hosts -/

/-- A character that can name a host or a user. -/
def isHostChar (c : Char) : Bool := c.isAlphanum || "!$&'()*+,-.;=_~".toList.contains c

/-- What is known of a host that has been read up to some character. -/
structure HostReading where
  /-- The colons since the user or the brackets ended. -/
  colons : Nat := 0
  opened : Bool := false
  closed : Bool := false
  /-- Whether there is a percent sign since the user or the brackets ended. -/
  percent : Bool := false

/-- The greatest number of colons in one part of a host: seven inside an address, and one more. -/
def maxColons : Nat := 8

/-- Reads one more character of a host. The end of a user and the end of an address between
brackets start a new part. -/
def HostReading.next? (reading : HostReading) (c : Char) : Option HostReading :=
  if c = ':' then
    if reading.colons < maxColons then some { reading with colons := reading.colons + 1 } else none
  else if c = '[' then
    if reading.percent || reading.opened then none else some { reading with opened := true }
  else if c = ']' then
    if reading.opened && !reading.closed then
      some { reading with closed := true, colons := 0, percent := false }
    else none
  else if c = '@' then some { reading with colons := 0, percent := false }
  else if c = '%' then some { reading with percent := true }
  else if isHostChar c then some reading
  else none

/-- Whether a text names a host, perhaps with a user before it and a number after it. Percent signs
stand only in the user or between brackets, which come in a pair, and at most one colon comes after
them. -/
def isHost (text : List Char) : Bool :=
  match text.foldlM HostReading.next? {} with
  | some reading =>
    reading.opened == reading.closed && reading.colons ≤ 1 && !reading.percent
      && text.getLast? != some '@'
  | none => false

/-! ### Reading targets -/

/-- A character of the name of a scheme. -/
def isSchemeChar (c : Char) : Bool := c.isAlphanum || "+-.~".toList.contains c

/-- The greatest number of characters of a scheme. -/
def maxSchemeSize : Nat := 64

/-- The text after the name of a scheme, a colon and two slashes. -/
def afterScheme? (text : List Char) : Option (List Char) :=
  if (text.takeWhile isSchemeChar).length ≤ maxSchemeSize then
    "://".toList.isPrefixOf? (text.dropWhile isSchemeChar)
  else none

/-- The greatest number of octets of a target. -/
def maxTargetSize : Nat := 65534

/-- Reads the target of a request: a path, a star, a scheme with a host and a path, or a host
alone, which has no path. -/
def Target.read? (text : String) : Option Target :=
  if maxTargetSize < text.utf8ByteSize then none
  else match text.toList with
    | [] => none
    | ['*'] => some { path := "*", query := none }
    | '/' :: rest => Target.ofPath? ('/' :: rest)
    | chars =>
      match afterScheme? chars with
      | some rest =>
        let endsHost (c : Char) : Bool := c == '/' || c == '?' || c == '#'
        let host := rest.takeWhile (!endsHost ·)
        if !host.isEmpty && isHost host then Target.ofPath? (rest.dropWhile (!endsHost ·))
        else none
      | none => if isHost chars then some { path := "", query := none } else none

/-! ## Query parameters -/

/-- The value of an octet that is a hexadecimal digit. -/
def octetHexValue? (octet : UInt8) : Option UInt8 :=
  if 0x30 ≤ octet && octet ≤ 0x39 then some (octet - 0x30)
  else if 0x41 ≤ octet && octet ≤ 0x46 then some (octet - 0x41 + 10)
  else if 0x61 ≤ octet && octet ≤ 0x66 then some (octet - 0x61 + 10)
  else none

/-- The octet that a percent sign and two octets after it spell. -/
def percentOctet? (percent : UInt8) (a b : Option UInt8) : Option UInt8 := do
  if percent = 0x25 then return (← octetHexValue? (← a)) * 16 + (← octetHexValue? (← b)) else none

/-- Decodes percent signs. `skip` octets belong to the octet before them. -/
def percentDecode : Nat → List UInt8 → List UInt8
  | _, [] => []
  | skip + 1, _ :: rest => percentDecode skip rest
  | 0, octet :: rest =>
    match percentOctet? octet rest[0]? rest[1]? with
    | some decoded => decoded :: percentDecode 2 rest
    | none => octet :: percentDecode 0 rest

/-- Decodes a name or a value: a plus is a space, a percent sign and two digits are an octet. -/
def formDecode (text : List Char) : String :=
  ofOctetsLossy <| percentDecode 0 <| (toOctets text).map fun octet =>
    if octet = 0x2B then 0x20 else octet

/-- Reads query parameters. -/
def queryPairs (query : List Char) : List (String × String) :=
  ((fields '&' query).filter (!·.isEmpty)).map fun piece =>
    match cutAt '=' piece with
    | some (name, value) => (formDecode name, formDecode value)
    | none => (formDecode piece, "")

/-! ## Reading -/

/-- Why a request cannot be read. -/
inductive RequestError where
  | invalidMethod
  | invalidTarget
  deriving DecidableEq

/-- Reads a request. -/
def Request.read (method target : String) (body : List UInt8) : Except RequestError Request :=
  if !isToken method then .error .invalidMethod
  else match Target.read? target with
    | none => .error .invalidTarget
    | some { path, query } =>
      .ok { method, path, query := (query.map queryPairs).getD [], body }

/-- The verb whose routes serve a request: those of GET also serve HEAD. -/
def Request.verb (request : Request) : String :=
  if request.method = "HEAD" then "GET" else request.method

end Transcoding
