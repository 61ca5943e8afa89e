/-
# Text with shortcodes

A text falls into pieces: runs of literal text, escaped tags and shortcodes. A shortcode is an opening
tag and, unless the tag closes itself, everything up to the first closing tag that follows; without a
closing tag it is the opening tag alone. `[[tag]]` is escaped and stands for `[tag]`. A bracket that
begins none of these is literal.

Each piece keeps its own source, so that the sources of the pieces together are the text again.
-/

import DynamicContent.Shortcode.Attributes

namespace DynamicContent.Shortcode

/-- A piece of text. Of a shortcode, `opening` is what stands between the name and the end of the
opening tag, and `enclosed` what stands before the closing tag, if there is one. -/
inductive Piece where
  | literal (run : List Char)
  | escaped (source : List Char)
  | shortcode (opening : List Char) (enclosed : Option (List Char))
deriving DecidableEq, Inhabited

/-- The closing tag. -/
def closingTag (tag : List Char) : List Char := '[' :: '/' :: (tag ++ [']'])

/-- The text that a piece was read from. -/
def Piece.source (tag : List Char) : Piece → List Char
  | literal run => run
  | escaped source => source
  | shortcode opening enclosed =>
    '[' :: (tag ++ (opening ++ ']' :: (enclosed.map fun content => content ++ closingTag tag).getD []))

/-- Whether the name of a tag ends before a text. -/
def endsName : List Char → Bool
  | [] => false
  | c :: _ => Text.isBlank c || c = ']' || c = '/'

/-- What stands before the bracket that ends an opening tag, and what follows it. Brackets in quotes do
not count; a further opening bracket outside of them ends the search in vain. -/
def takeOpening? (quote : Option Char) : List Char → Option (List Char × List Char)
  | [] => none
  | c :: cs =>
    match quote with
    | some q =>
      (takeOpening? (if c = q then none else some q) cs).map fun (opening, rest) =>
        (c :: opening, rest)
    | none =>
      if c = ']' then some ([], cs)
      else if c = '[' then none
      else
        (takeOpening? (if isQuote c then some c else none) cs).map fun (opening, rest) =>
          (c :: opening, rest)

/-- The attributes in an opening tag, and whether the tag closes itself. -/
def openingParts (opening : List Char) : List Char × Bool :=
  let trimmed := Text.trimEndChars opening
  if trimmed.getLast? = some '/' then (trimmed.dropLast, true) else (trimmed, false)

/-- An escaped tag at the front of a text. -/
def escapedAt? (tag cs : List Char) : Option Piece := do
  let after ← Text.afterStart? ('[' :: '[' :: tag) cs
  if endsName after then
    let (before, _) ← Text.cutChars [']', ']'] cs
    some (.escaped (before ++ [']', ']']))
  else none

/-- A shortcode at the front of a text. -/
def shortcodeAt? (tag cs : List Char) : Option Piece := do
  let after ← Text.afterStart? ('[' :: tag) cs
  if endsName after then
    let (opening, rest) ← takeOpening? none after
    if (openingParts opening).2 then some (.shortcode opening none)
    else some (.shortcode opening ((Text.cutChars (closingTag tag) rest).map (·.1)))
  else none

/-- An escaped tag or a shortcode at the front of a text. -/
def pieceAt? (tag : List Char) : List Char → Option Piece
  | '[' :: cs => (escapedAt? tag ('[' :: cs)).orElse fun _ => shortcodeAt? tag ('[' :: cs)
  | _ => none

/-- The literal run read so far, if it is not empty. -/
def flush (pending : List Char) : List Piece :=
  if pending.isEmpty then [] else [.literal pending.reverse]

/-- The pieces of a text, after so many characters that belong to the piece before. What is pending of a
literal run is kept in reverse. -/
def piecesFrom (tag : List Char) : List Char → Nat → List Char → List Piece
  | pending, _, [] => flush pending
  | pending, skip + 1, _ :: cs => piecesFrom tag pending skip cs
  | pending, 0, c :: cs =>
    match pieceAt? tag (c :: cs) with
    | some piece => flush pending ++ piece :: piecesFrom tag [] ((piece.source tag).length - 1) cs
    | none => piecesFrom tag (c :: pending) 0 cs

/-- The pieces of a text. -/
def pieces (tag cs : List Char) : List Piece := piecesFrom tag [] 0 cs

/-- What a piece is replaced by: a literal run by what `literal` makes of it, an escaped tag by itself
without its outer brackets, and a shortcode by what `render` makes of its attributes and content. -/
def Piece.expand {m : Type → Type} [Monad m] (literal : String → m String)
    (render : Attributes → String → m String) : Piece → m String
  | .literal run => literal (String.ofList run)
  | .escaped source => pure (String.ofList source.tail.dropLast)
  | .shortcode opening enclosed =>
    render (attributes (openingParts opening).1) (String.ofList (enclosed.getD []))

/-- What pieces are replaced by, in their order. -/
def expandPieces {m : Type → Type} [Monad m] (literal : String → m String)
    (render : Attributes → String → m String) : List Piece → m String
  | [] => pure ""
  | piece :: rest => do
    let first ← piece.expand literal render
    let others ← expandPieces literal render rest
    pure (first ++ others)

/-- The text with its pieces replaced. -/
def expand {m : Type → Type} [Monad m] (tag text : String) (literal : String → m String)
    (render : Attributes → String → m String) : m String :=
  expandPieces literal render (pieces tag.toList text.toList)

/-- The parts of the content of a loop before and after the mark `[tag else]`; the second is empty
without the mark. -/
def splitElse (tag content : String) : String × String :=
  (Text.cut ("[" ++ tag ++ " else]") content).getD (content, "")

end DynamicContent.Shortcode
