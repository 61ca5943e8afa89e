/-
# Scalars of configuration documents

Texts, numbers, truth values and dates as they are written in documents of the TOML format, version
1.1. Every reader takes what it reads off the front of the text.
-/

import DynamicContent.Calendar.Reading
import DynamicContent.Json.Parser

namespace DynamicContent.Toml

/-- Spaces and tabs. -/
def isSpace (c : Char) : Bool := c == ' ' || c == '\t'

/-- The text without spaces at its front. -/
def skipSpaces (cs : List Char) : List Char := cs.dropWhile isSpace

/-- Whether a character may stand in a comment or a text: everything but control characters, of which
the tab is allowed. -/
def isPlain (c : Char) : Bool := c == '\t' || (0x20 ≤ c.toNat && c.toNat != 0x7F)

/-- The end of a line at the front of a text. -/
def takeNewline? : List Char → Option (List Char)
  | '\n' :: cs => some cs
  | '\r' :: '\n' :: cs => some cs
  | _ => none

/-! ## Texts -/

/-- So many hexadecimal digits as a character. -/
def takeCodePoint? (count : Nat) (cs : List Char) : Option (Char × List Char) := do
  let digits := cs.take count
  if digits.length == count then
    let values ← digits.mapM Json.hexValue?
    let n := values.foldl (fun n d => 16 * n + d) 0
    if n.isValidChar then some (Char.ofNat n, cs.drop count) else none
  else none

/-- The character that an escape stands for, read after its backslash. -/
def takeEscape? : List Char → Option (Char × List Char)
  | 'b' :: cs => some ('\x08', cs)
  | 't' :: cs => some ('\t', cs)
  | 'n' :: cs => some ('\n', cs)
  | 'f' :: cs => some ('\x0c', cs)
  | 'r' :: cs => some ('\r', cs)
  | 'e' :: cs => some ('\x1b', cs)
  | '"' :: cs => some ('"', cs)
  | '\\' :: cs => some ('\\', cs)
  | 'x' :: cs => takeCodePoint? 2 cs
  | 'u' :: cs => takeCodePoint? 4 cs
  | 'U' :: cs => takeCodePoint? 8 cs
  | _ => none

/-- The rest of a text in double quotes. The first argument bounds the number of characters. -/
def takeBasic? : Nat → List Char → Option (List Char × List Char)
  | 0, _ => none
  | _ + 1, [] => none
  | _ + 1, '"' :: cs => some ([], cs)
  | n + 1, '\\' :: cs => do
    let (c, cs) ← takeEscape? cs
    let (text, rest) ← takeBasic? n cs
    some (c :: text, rest)
  | n + 1, c :: cs => do
    if isPlain c then
      let (text, rest) ← takeBasic? n cs
      some (c :: text, rest)
    else none

/-- The rest of a text in single quotes. -/
def takeLiteral? : List Char → Option (List Char × List Char)
  | [] => none
  | '\'' :: cs => some ([], cs)
  | c :: cs => if isPlain c then (takeLiteral? cs).map fun (text, rest) => (c :: text, rest) else none

/-- Up to two further quotes at the end of a text of several lines belong to the text. -/
def takeClosing? (quote : Char) (cs : List Char) : Option (List Char × List Char) :=
  let quotes := cs.takeWhile (· == quote)
  if 3 ≤ quotes.length && quotes.length ≤ 5 then
    some (List.replicate (quotes.length - 3) quote, cs.drop quotes.length)
  else none

/-- Blanks, at least one end of a line among them, after a backslash at the end of a line. -/
def skipFolded? (cs : List Char) : Option (List Char) :=
  let rest := cs.dropWhile fun c => isSpace c || c == '\n' || c == '\r'
  if (cs.take (cs.length - rest.length)).contains '\n' then some rest else none

/-- The rest of a text of several lines. A quote followed by fewer than two others is part of it. -/
def takeLong? (quote : Char) : Nat → List Char → Option (List Char × List Char)
  | 0, _ => none
  | _ + 1, [] => none
  | n + 1, c :: cs =>
    if c == quote then
      match takeClosing? quote (c :: cs) with
      | some closing => some closing
      | none =>
        if (c :: cs).take 3 == [quote, quote, quote] then none
        else (takeLong? quote n cs).map fun (text, rest) => (c :: text, rest)
    else if c == '\\' && quote == '"' then
      match skipFolded? cs with
      | some rest => takeLong? quote n rest
      | none => do
        let (c, cs) ← takeEscape? cs
        let (text, rest) ← takeLong? quote n cs
        some (c :: text, rest)
    else
      match takeNewline? (c :: cs) with
      | some rest => (takeLong? quote n rest).map fun (text, rest) => ('\n' :: text, rest)
      | none =>
        if isPlain c then (takeLong? quote n cs).map fun (text, rest) => (c :: text, rest) else none

/-- The text without an end of a line at its front. -/
def dropNewline (cs : List Char) : List Char := (takeNewline? cs).getD cs

/-- A text of one line. -/
def takeLine? : List Char → Option (List Char × List Char)
  | '"' :: cs => takeBasic? (cs.length + 1) cs
  | '\'' :: cs => takeLiteral? cs
  | _ => none

/-- A text. -/
def takeText? : List Char → Option (List Char × List Char)
  | '"' :: '"' :: '"' :: cs => takeLong? '"' (cs.length + 1) (dropNewline cs)
  | '\'' :: '\'' :: '\'' :: cs => takeLong? '\'' (cs.length + 1) (dropNewline cs)
  | cs => takeLine? cs

/-! ## Numbers -/

/-- Digits without the underscores between them; `none` if an underscore has no digit on both sides. -/
def joinDigits? (isDigit : Char → Bool) (cs : List Char) : Option (List Char) :=
  let groups := Text.splitAtEach (· == '_') cs
  if groups.all fun group => !group.isEmpty && group.all isDigit then some groups.flatten else none

/-- An integer of 64 bits, signed or not. -/
def integer? (negative : Bool) (n : Nat) : Option Json :=
  let value : Int := if negative then -(n : Int) else n
  if Number.int64Min ≤ value ∧ value ≤ Number.nat64Max then some (.int value) else none

/-- An unsigned integer with a mark of its base. -/
def basedInteger? (base : Nat) (digits : List Char) : Option Json := do
  let isDigit (c : Char) : Bool := ((Json.hexValue? c).map fun d => decide (d < base)).getD false
  let digits ← joinDigits? isDigit digits
  integer? false (digits.foldl (fun n c => base * n + (Json.hexValue? c).getD 0) 0)

/-- Digits that do not begin with a zero, unless they are one zero. -/
def plainDigits? (cs : List Char) : Option (List Char) := do
  let digits ← joinDigits? Char.isDigit cs
  if digits.head? == some '0' && digits.length != 1 then none else some digits

/-- A number without its sign. The two that are not finite have no JSON form and are null. -/
def unsigned? (negative : Bool) (cs : List Char) : Option Json :=
  match cs with
  | ['i', 'n', 'f'] | ['n', 'a', 'n'] => some .null
  | _ =>
    let (whole, rest) := (cs.takeWhile fun c => c.isDigit || c == '_',
      cs.dropWhile fun c => c.isDigit || c == '_')
    match rest with
    | [] => do integer? negative (Number.digitsValue 0 (← plainDigits? whole))
    | _ => do
      let whole ← plainDigits? whole
      let (fraction, rest) ← match rest with
        | '.' :: cs => do
          let fraction ← joinDigits? Char.isDigit (cs.takeWhile fun c => c.isDigit || c == '_')
          some ('.' :: fraction, cs.dropWhile fun c => c.isDigit || c == '_')
        | _ => some ([], rest)
      let exponent ← match rest with
        | [] => some []
        | e :: cs =>
          if e == 'e' || e == 'E' then do
            let (minus, digits) := Number.takeSign cs
            let digits ← joinDigits? Char.isDigit digits
            some ('e' :: (if minus then '-' :: digits else digits))
          else none
      let sign := if negative then ['-'] else []
      match Number.Extended64.ofText? (sign ++ whole ++ fraction ++ exponent) with
      | some (.finite x) => some (.float x)
      | _ => none

/-- A number. -/
def number? (cs : List Char) : Option Json :=
  match cs with
  | '0' :: 'x' :: digits => basedInteger? 16 digits
  | '0' :: 'o' :: digits => basedInteger? 8 digits
  | '0' :: 'b' :: digits => basedInteger? 2 digits
  | _ =>
    let (negative, digits) := Number.takeSign cs
    unsigned? negative digits

/-! ## Dates -/

/-- A time of day, whose seconds may be left out, and its text. -/
def takeTime? (cs : List Char) : Option (String × List Char) := do
  let (hour, cs) ← Calendar.takeDigits? 2 cs
  let (minute, cs) ← Calendar.takeDigits? 2 (← Calendar.takeChar? ':' cs)
  let (second, cs) ← match cs with
    | ':' :: rest => Calendar.takeDigits? 2 rest
    | _ => some (0, cs)
  let (fraction, cs) ← match cs with
    | '.' :: rest => Calendar.takeFraction? rest
    | _ => some (0, cs)
  if hour < 24 && minute < 60 && second ≤ 60 then
    let digits := (Calendar.padded 9 fraction).toList
    let fraction := (digits.reverse.dropWhile (· == '0')).reverse
    some (Calendar.padded 2 hour ++ ":" ++ Calendar.padded 2 minute ++ ":" ++
      Calendar.padded 2 second ++ (if fraction.isEmpty then "" else "." ++ String.ofList fraction), cs)
  else none

/-- An offset at the end of a date, and its text. -/
def offset? (cs : List Char) : Option String :=
  match cs with
  | [] => some ""
  | ['Z'] | ['z'] => some "Z"
  | _ => (Calendar.offsetOfText? (· == '-') cs).map fun _ => String.ofList cs

/-- A date, a time of day or both, in its one written form. -/
def dateText? (cs : List Char) : Option String :=
  match Calendar.takeDate? cs with
  | some (date, rest) =>
    if !date.isValid then none
    else
      match rest with
      | [] => some (Calendar.dateText date)
      | mark :: rest => do
        if mark == 'T' || mark == 't' || mark == ' ' then
          let (time, rest) ← takeTime? rest
          some (Calendar.dateText date ++ "T" ++ time ++ (← offset? rest))
        else none
  | none => do
    let (time, rest) ← takeTime? cs
    if rest.isEmpty then some time else none

/-- A date as JSON: an object with its text under a reserved name. -/
def dateValue (text : String) : Json := .object [("$__toml_private_datetime", .string text)]

/-- The characters of numbers, truth values and dates. -/
def isBareChar (c : Char) : Bool :=
  c.isAlphanum || c == '+' || c == '-' || c == '_' || c == '.' || c == ':'

/-- The word at the front of a text. A space between a date and a time is part of it. -/
def takeBare (cs : List Char) : List Char × List Char :=
  let word := cs.takeWhile isBareChar
  let rest := cs.drop word.length
  match rest with
  | ' ' :: c :: more =>
    if c.isDigit && (Calendar.takeDate? word).any (·.2.isEmpty) then
      let time := (c :: more).takeWhile isBareChar
      (word ++ ' ' :: time, (c :: more).drop time.length)
    else (word, rest)
  | _ => (word, rest)

/-- A scalar without quotes. -/
def bareValue? (word : List Char) : Option Json :=
  if word == "true".toList then some (.bool true)
  else if word == "false".toList then some (.bool false)
  else (number? word).orElse fun _ => (dateText? word).map dateValue

end DynamicContent.Toml
