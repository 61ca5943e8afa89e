/-
# Blank characters, trimming, words and bytes

A character is blank if it has the Unicode property `White_Space`. Trimming, splitting into words and
cutting at a separator are functions on lists of characters, which is where proofs about them live;
the functions on `String` are the same functions read through `String.toList`. The bytes of a text are
those of its UTF-8 encoding.
-/

namespace DynamicContent.Text

/-- The characters with the Unicode property `White_Space`. -/
def isBlank (c : Char) : Bool :=
  let n := c.toNat
  (9 ≤ n && n ≤ 13) || n == 0x20 || n == 0x85 || n == 0xA0 || n == 0x1680 ||
    (0x2000 ≤ n && n ≤ 0x200A) || n == 0x2028 || n == 0x2029 || n == 0x202F || n == 0x205F ||
    n == 0x3000

/-- Control characters: the general category `Cc`. -/
def isControl (c : Char) : Bool :=
  let n := c.toNat
  n < 0x20 || (0x7F ≤ n && n < 0xA0)

/-- Drops blanks at the front. -/
def trimStartChars (cs : List Char) : List Char := cs.dropWhile isBlank

/-- Drops blanks at the end. -/
def trimEndChars (cs : List Char) : List Char := (cs.reverse.dropWhile isBlank).reverse

/-- Drops blanks at both ends. -/
def trimChars (cs : List Char) : List Char := trimEndChars (trimStartChars cs)

/-- Drops blanks at the front. -/
def trimStart (s : String) : String := String.ofList (trimStartChars s.toList)

/-- Drops blanks at both ends. -/
def trim (s : String) : String := String.ofList (trimChars s.toList)

/-- Cuts a list at every member that satisfies `p`; the cutting members are dropped, so `n` of them
give `n + 1` pieces. -/
def splitAtEach {α : Type} (p : α → Bool) : List α → List (List α)
  | [] => [[]]
  | c :: cs =>
    if p c then [] :: splitAtEach p cs
    else
      match splitAtEach p cs with
      | [] => [[c]]
      | piece :: pieces => (c :: piece) :: pieces

theorem splitAtEach_ne_nil {α : Type} (p : α → Bool) (cs : List α) : splitAtEach p cs ≠ [] := by
  cases cs with
  | nil => simp [splitAtEach]
  | cons c cs =>
    unfold splitAtEach
    split
    · simp
    · split <;> simp

/-- The pieces of a text between the characters that satisfy `p`. -/
def splitString (p : Char → Bool) (s : String) : List String :=
  (splitAtEach p s.toList).map String.ofList

/-- The pieces of a text between commas. -/
def splitCommas (s : String) : List String := splitString (· == ',') s

/-- The maximal runs of characters that are not blank. -/
def words (s : String) : List String :=
  ((splitAtEach isBlank s.toList).filter (!·.isEmpty)).map String.ofList

/-- What follows `start` in a list of characters that begins with it. -/
def afterStart? : List Char → List Char → Option (List Char)
  | [], cs => some cs
  | _ :: _, [] => none
  | p :: ps, c :: cs => if p = c then afterStart? ps cs else none

theorem afterStart?_eq_some_iff {start cs rest : List Char} :
    afterStart? start cs = some rest ↔ cs = start ++ rest := by
  induction start generalizing cs with
  | nil => simp [afterStart?]
  | cons p ps ih =>
    cases cs with
    | nil => simp [afterStart?]
    | cons c cs =>
      simp only [afterStart?, List.cons_append, List.cons.injEq]
      split
      · next h => simp [ih, h]
      · next h => simp only [reduceCtorEq, false_iff, not_and]; exact fun h' => absurd h'.symm h

/-- The text before and the text after the first place where `sep` occurs. -/
def cutChars (sep : List Char) : List Char → Option (List Char × List Char)
  | [] => if sep.isEmpty then some ([], []) else none
  | c :: cs =>
    match afterStart? sep (c :: cs) with
    | some rest => some ([], rest)
    | none => (cutChars sep cs).map fun parts => (c :: parts.1, parts.2)

/-- The text before and the text after the first place where `sep` occurs. -/
def cut (sep s : String) : Option (String × String) :=
  (cutChars sep.toList s.toList).map fun parts => (String.ofList parts.1, String.ofList parts.2)

/-- The text before and the text after the last place where the character `sep` occurs. -/
def cutLast (sep : Char) (s : String) : Option (String × String) :=
  (cutChars [sep] s.toList.reverse).map fun parts =>
    (String.ofList parts.2.reverse, String.ofList parts.1.reverse)

/-- Whether `part` occurs in `s` as consecutive characters. -/
def occursIn (part s : List Char) : Bool := (cutChars part s).isSome

/-- Whether `part` occurs in `s` as consecutive characters. -/
def contains (s part : String) : Bool := occursIn part.toList s.toList

/-- What follows `start` in `s`, if `s` begins with it. -/
def dropPrefix? (start s : String) : Option String :=
  (afterStart? start.toList s.toList).map fun rest => String.ofList rest

/-- Whether `s` begins with `start`. -/
def startsWith (s start : String) : Bool := start.toList.isPrefixOf s.toList

/-- Whether `s` ends with `last`. -/
def endsWith (s last : String) : Bool := last.toList.reverse.isPrefixOf s.toList.reverse

/-- The characters `A` to `Z` become `a` to `z`; every other character stays. -/
def asciiLower (s : String) : String := String.ofList (s.toList.map Char.toLower)

/-- The characters `a` to `z` become `A` to `Z`; every other character stays. -/
def asciiUpper (s : String) : String := String.ofList (s.toList.map Char.toUpper)

/-- Equality up to the case of ASCII letters. -/
def eqIgnoringCase (s t : String) : Bool := asciiLower s == asciiLower t

/-- The texts of a list, one after the other, with `sep` between neighbours. -/
def join (sep : String) (texts : List String) : String := String.intercalate sep texts

/-- A text repeated `n` times. -/
def replicate (n : Nat) (s : String) : String := String.join (List.replicate n s)

/-- The number of bytes of the UTF-8 encoding. -/
def byteLength : List Char → Nat
  | [] => 0
  | c :: cs => c.utf8Size + byteLength cs

/-- The bytes of the UTF-8 encoding of a text. -/
def utf8Bytes (cs : List Char) : List UInt8 := cs.flatMap String.utf8EncodeChar

/-- The text that bytes encode; `none` if they are not the encoding of a text. -/
def ofUtf8Bytes? (bytes : List UInt8) : Option (List Char) :=
  (String.fromUTF8? ⟨bytes.toArray⟩).map String.toList

end DynamicContent.Text
