/-
# Hosts

The host of an address is a domain name, an address of version 4 or of version 6. A domain name is
brought into its ASCII form first: characters are mapped to lower case, labels outside ASCII are
coded. A name that ends in a number must be an address of version 4.
-/

import DynamicContent.Json.Parser
import DynamicContent.Text.LetterCase
import DynamicContent.Url.Percent
import DynamicContent.Url.Punycode

namespace DynamicContent.Url

/-- Why a text is not an address. -/
inductive UrlError where
  | emptyHost
  | domainName
  | port
  | ipv4
  | ipv6
  | domainCharacter
  | withoutBase
deriving DecidableEq

/-- The wording of an error. -/
def UrlError.message : UrlError → String
  | emptyHost => "empty host"
  | domainName => "invalid international domain name"
  | port => "invalid port number"
  | ipv4 => "invalid IPv4 address"
  | ipv6 => "invalid IPv6 address"
  | domainCharacter => "invalid domain character"
  | withoutBase => "relative URL without a base"

/-- A host. The parts of an address are numbers of 8 bits in version 4 and of 16 bits in version 6. -/
inductive Host where
  | domain (name : String)
  | ipv4 (address : Nat)
  | ipv6 (pieces : List Nat)

/-! ## Domain names -/

/-- Characters that a domain name leaves out. -/
def isIgnoredInDomain (c : Char) : Bool :=
  let n := c.toNat
  [0xAD, 0x34F, 0x200B, 0x2060, 0x2064, 0xFEFF].contains n || (0x180B ≤ n && n ≤ 0x180F) ||
    (0xFE00 ≤ n && n ≤ 0xFE0F)

/-- Characters that no domain name holds: controls, blanks, joiners without a context, marks of
direction, and code points that are not for interchange. -/
def isRefusedInDomain (c : Char) : Bool :=
  let n := c.toNat
  (0x80 ≤ n && n ≤ 0xA0) || Text.isBlank c || (0x200C ≤ n && n ≤ 0x200F) ||
    (0x2028 ≤ n && n ≤ 0x202E) || (0x2061 ≤ n && n ≤ 0x206F) || (0xE000 ≤ n && n ≤ 0xF8FF) ||
    (0xFDD0 ≤ n && n ≤ 0xFDEF) || (0xFFF0 ≤ n && n ≤ 0xFFFF) || n % 0x10000 ≥ 0xFFFE || 0xE0000 ≤ n

/-- What a character becomes in a domain name; `none` if no name may hold it. -/
def mapDomainChar? (c : Char) : Option (List Char) :=
  let n := c.toNat
  if n < 0x80 then some [c.toLower]
  else if n == 0x3002 || n == 0xFF0E || n == 0xFF61 then some ['.']
  else if 0xFF01 ≤ n && n ≤ 0xFF5E then some [(Char.ofNat (n - 0xFEE0)).toLower]
  else if isIgnoredInDomain c then some []
  else if isRefusedInDomain c then none
  else some (Text.lowerChar c)

/-- The ASCII characters that no domain name holds. -/
def isForbiddenInDomain (c : Char) : Bool :=
  c.toNat ≤ 0x20 || c.toNat == 0x7F || "%#/:<>?@[\\]^|".toList.contains c

/-- The ASCII form of a mapped label. A label that is given in coded form must be the code of a label
outside ASCII that mapping leaves as it is. -/
def labelToAscii? (label : List Char) : Option (List Char) :=
  let ascii := label.all (·.toNat < 0x80)
  match Text.afterStart? "xn--".toList label with
  | some code => do
    let decoded ← if ascii then Punycode.decode? code else none
    if decoded.all (·.toNat < 0x80) then none
    else if decoded.all (fun c => mapDomainChar? c == some [c]) then some label
    else none
  | none => if ascii then some label else some ("xn--".toList ++ Punycode.encode label)

/-- The ASCII form of a domain name. -/
def domainToAscii? (name : List Char) : Option String := do
  let mapped ← name.mapM mapDomainChar?
  let labels ← (Text.splitAtEach (· == '.') mapped.flatten).mapM labelToAscii?
  let ascii := List.flatten (labels.intersperse ['.'])
  if ascii.any isForbiddenInDomain then none else some (String.ofList ascii)

/-! ## Addresses of version 4 -/

/-- A number in base 10, in base 16 after `0x` or in base 8 after `0`; the outer `none` means that the
text is not one, the inner that it has over 32 bits. -/
def ipv4Number? (cs : List Char) : Option (Option Nat) :=
  let number (base : Nat) (digits : List Char) : Option (Option Nat) :=
    (digits.mapM fun c => (Json.hexValue? c).filter (· < base)).map fun values =>
      let n := values.foldl (fun n d => base * n + d) 0
      if n < 4294967296 then some n else none
  match cs with
  | [] => none
  | '0' :: 'x' :: rest | '0' :: 'X' :: rest => number 16 rest
  | '0' :: c :: rest => number 8 (c :: rest)
  | _ => number 10 cs

/-- Whether the last label of a name is a number. -/
def endsInNumber (name : List Char) : Bool :=
  let labels := (Text.splitAtEach (· == '.') name).reverse
  let last := match labels with
    | [] :: label :: _ => label
    | label :: _ => label
    | [] => []
  (!last.isEmpty && last.all Char.isDigit) || (ipv4Number? last).isSome

/-- The address of version 4 that a name stands for. -/
def ipv4OfName? (name : List Char) : Option Nat := do
  let labels := Text.splitAtEach (· == '.') name
  let labels := if labels.getLast? == some [] then labels.dropLast else labels
  if 4 < labels.length then none
  else
    let numbers ← labels.mapM fun label => (ipv4Number? label).join
    let last ← numbers.getLast?
    let front := numbers.dropLast
    if last < Nat.pow 256 (4 - front.length) && front.all (· ≤ 255) then
      some (front.zipIdx.foldl (fun total (n, i) => total + n * Nat.pow 256 (3 - i)) last)
    else none

/-- The text of an address of version 4. -/
def ipv4Text (address : Nat) : String :=
  String.intercalate "." ([3, 2, 1, 0].map fun i => Number.natString (address / Nat.pow 256 i % 256))

/-! ## Addresses of version 6 -/

/-- The last two pieces, written as an address of version 4 in four decimal numbers. -/
def ipv6Tail? (cs : List Char) : Option (List Nat) := do
  let numbers ← (Text.splitAtEach (· == '.') cs).mapM fun label =>
    if label.isEmpty || !label.all Char.isDigit || (label.head? == some '0' && 1 < label.length) then
      none
    else (Number.natOfDigits? label).filter (· ≤ 255)
  match numbers with
  | [a, b, c, d] => some [256 * a + b, 256 * c + d]
  | _ => none

/-- How many of the eight places are taken; a double colon stands for at least one. -/
def ipv6Places (pieces : List Nat) (gap : Option Nat) : Nat :=
  if gap.isSome then pieces.length + 1 else pieces.length

/-- Reads pieces after those already read; `gap` is the place of the double colon. The first argument
bounds the number of steps. -/
def ipv6Pieces? : Nat → List Nat → Option Nat → List Char → Option (List Nat × Option Nat)
  | _, pieces, gap, [] => some (pieces, gap)
  | 0, _, _, _ => none
  | n + 1, pieces, gap, c :: cs =>
    if ipv6Places pieces gap == 8 then none
    else if c == ':' then
      if gap.isSome then none else ipv6Pieces? n pieces (some pieces.length) cs
    else
      let digits := ((c :: cs).take 4).takeWhile fun c => (Json.hexValue? c).isSome
      let value := digits.foldl (fun n c => 16 * n + (Json.hexValue? c).getD 0) 0
      match (c :: cs).drop digits.length with
      | '.' :: _ =>
        if digits.isEmpty || 6 < ipv6Places pieces gap then none
        else (ipv6Tail? (c :: cs)).map fun tail => (pieces ++ tail, gap)
      | ':' :: rest => if rest.isEmpty then none else ipv6Pieces? n (pieces ++ [value]) gap rest
      | [] => some (pieces ++ [value], gap)
      | _ => none

/-- The eight pieces of an address of version 6. -/
def ipv6OfText? (cs : List Char) : Option (List Nat) := do
  let (pieces, gap) ← match cs with
    | ':' :: ':' :: rest => ipv6Pieces? (cs.length + 1) [] (some 0) rest
    | ':' :: _ => none
    | _ => ipv6Pieces? (cs.length + 1) [] none cs
  match gap with
  | some i => some (pieces.take i ++ List.replicate (8 - pieces.length) 0 ++ pieces.drop i)
  | none => if pieces.length == 8 then some pieces else none

/-- The place and length of the first longest run of zeros. -/
def longestZeros (pieces : List Nat) : Nat × Nat :=
  (List.range pieces.length).foldl (fun best i =>
    let run := ((pieces.drop i).takeWhile (· == 0)).length
    if best.2 < run then (i, run) else best) (0, 0)

/-- The text of an address of version 6. -/
def ipv6Text (pieces : List Nat) : String :=
  let texts (pieces : List Nat) :=
    String.intercalate ":" (pieces.map fun n => String.ofList (Nat.toDigits 16 n))
  let (start, size) := longestZeros pieces
  if size < 2 then texts pieces
  else texts (pieces.take start) ++ "::" ++ texts (pieces.drop (start + size))

/-! ## Hosts as text -/

namespace Host

/-- The text of a host. -/
def text : Host → String
  | domain name => name
  | ipv4 address => ipv4Text address
  | ipv6 pieces => "[" ++ ipv6Text pieces ++ "]"

/-- The host in brackets, after the opening one. -/
def ofBrackets (rest : List Char) : Except UrlError Host :=
  match rest.reverse with
  | ']' :: inside =>
    match ipv6OfText? inside.reverse with
    | some pieces => .ok (ipv6 pieces)
    | none => .error .ipv6
  | _ => .error .ipv6

/-- The host of an address of the web. -/
def ofText (cs : List Char) : Except UrlError Host :=
  match cs with
  | '[' :: rest => ofBrackets rest
  | _ =>
    match (Text.ofUtf8Bytes? (percentDecode cs)).bind domainToAscii? with
    | none => .error .domainName
    | some name =>
      if name.isEmpty then .error .emptyHost
      else if endsInNumber name.toList then
        match ipv4OfName? name.toList with
        | some address => .ok (ipv4 address)
        | none => .error .ipv4
      else .ok (domain name)

/-- The host of an address of another scheme, which is taken as it is. -/
def ofOpaque (cs : List Char) : Except UrlError Host :=
  match cs with
  | '[' :: rest => ofBrackets rest
  | _ =>
    if cs.any fun c => c == '\x00' || "\t\n\r #/:<>?@[\\]^|".toList.contains c then
      .error .domainCharacter
    else .ok (domain (String.ofList (percentEncode isControlOrNotAscii cs)))

end Host

end DynamicContent.Url
