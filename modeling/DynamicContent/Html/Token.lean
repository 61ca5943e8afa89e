/-
# Tokens of markup

Where the parts of an HTML document begin and end: tags with their attributes, comments, document
types and character data. What a start tag does to the reading of the text after it is left to the
caller, who also knows whether character data sections are open to it.
-/

namespace DynamicContent.Html

/-- The blanks between the parts of a tag. -/
def isTagBlank (c : Char) : Bool :=
  c == ' ' || c == '\n' || c == '\t' || c == '\r' || c == '\x0c'

/-- What may follow a tag name. -/
def endsTagName (c : Char) : Bool := isTagBlank c || c == '/' || c == '>'

/-- A tag. Names are in lower case; attribute values are as written, and a name that is repeated is
listed as often. -/
structure Tag where
  name : String
  attributes : List (String × String)
  selfClosing : Bool

/-- A part of a document that is not text. -/
inductive Markup where
  | startTag (tag : Tag)
  | endTag (tag : Tag)
  | comment (text : String)
  | doctype
  | characterData (text : List Char)
  /-- An end tag without a name. -/
  | emptyEndTag
  /-- A tag that the end of the document cuts off. -/
  | unfinished

/-- How text is read: until markup, until the end tag of the element that was opened last, with the
rules for scripts, or to the end of the document. -/
inductive TextMode where
  | data
  | escapable
  | raw
  | script
  | plain
deriving DecidableEq

/-- A name in lower case. -/
def lowerName (cs : List Char) : String := String.ofList (cs.map Char.toLower)

/-- The value of an attribute after the equals sign, and what follows; `none` if the document ends in
quotes. -/
def takeAttributeValue? (cs : List Char) : Option (List Char × List Char) :=
  let cs := cs.dropWhile isTagBlank
  let quotedBy (quote : Char) (cs : List Char) :=
    match cs.dropWhile (· != quote) with
    | [] => none
    | _ :: rest => some (cs.takeWhile (· != quote), rest)
  match cs with
  | '"' :: rest => quotedBy '"' rest
  | '\'' :: rest => quotedBy '\'' rest
  | _ =>
    let ends c := isTagBlank c || c == '>'
    some (cs.takeWhile (!ends ·), cs.dropWhile (!ends ·))

/-- The attributes of a tag, whether it closes itself, and what follows the tag; `none` if the
document ends first. The first argument bounds the number of characters. -/
def takeAttributes? : Nat → List Char → Option (List (String × String) × Bool × List Char)
  | 0, _ => none
  | n + 1, cs =>
    match cs.dropWhile isTagBlank with
    | [] => none
    | '>' :: rest => some ([], false, rest)
    | '/' :: '>' :: rest => some ([], true, rest)
    | '/' :: rest => takeAttributes? n rest
    | c :: rest => do
      let more c := !(endsTagName c || c == '=')
      let name := lowerName (c :: rest.takeWhile more)
      match (rest.dropWhile more).dropWhile isTagBlank with
      | '=' :: rest =>
        let (value, rest) ← takeAttributeValue? rest
        let (attributes, selfClosing, rest) ← takeAttributes? n rest
        some ((name, String.ofList value) :: attributes, selfClosing, rest)
      | rest =>
        let (attributes, selfClosing, rest) ← takeAttributes? n rest
        some ((name, "") :: attributes, selfClosing, rest)

/-- The tag whose name begins here, and what follows it. -/
def takeTag? (cs : List Char) : Option (Tag × List Char) := do
  let name := lowerName (cs.takeWhile (!endsTagName ·))
  let rest := cs.dropWhile (!endsTagName ·)
  let (attributes, selfClosing, rest) ← takeAttributes? (rest.length + 1) rest
  some (⟨name, attributes, selfClosing⟩, rest)

/-- The text of a comment and what follows it. A comment ends at two dashes and `>`, with an
exclamation mark between them or not, or at the end of the document. -/
def takeComment : List Char → List Char × List Char
  | [] => ([], [])
  | '-' :: '-' :: '>' :: rest => ([], rest)
  | '-' :: '-' :: '!' :: '>' :: rest => ([], rest)
  | c :: rest =>
    let (text, rest) := takeComment rest
    (c :: text, rest)

/-- The text up to `>` and what follows it. -/
def takeToClose (cs : List Char) : List Char × List Char :=
  (cs.takeWhile (· != '>'), (cs.dropWhile (· != '>')).drop 1)

/-- The text of a character data section and what follows it. -/
def takeCharacterData : List Char → List Char × List Char
  | [] => ([], [])
  | ']' :: ']' :: '>' :: rest => ([], rest)
  | c :: rest =>
    let (text, rest) := takeCharacterData rest
    (c :: text, rest)

/-- Whether the text after `<` makes markup of it. -/
def startsMarkup : List Char → Bool
  | '/' :: _ :: _ => true
  | '!' :: _ => true
  | '?' :: _ => true
  | c :: _ => c.isAlpha
  | [] => false

/-- Whether a text begins with a word, in any case of its letters. -/
def startsWithWord (word : String) (cs : List Char) : Bool :=
  word.toList.isPrefixOf (cs.map Char.toLower |>.take word.length)

/-- A comment, with the two short forms that end at once. -/
def commentAfterDashes (cs : List Char) : Markup × List Char :=
  match cs with
  | '>' :: rest => (.comment "", rest)
  | '-' :: '>' :: rest => (.comment "", rest)
  | _ =>
    let (text, rest) := takeComment cs
    (.comment (String.ofList text), rest)

/-- A comment made of text up to `>`. -/
def looseComment (cs : List Char) : Markup × List Char :=
  let (text, rest) := takeToClose cs
  (.comment (String.ofList text), rest)

/-- The markup after `<`, where `startsMarkup` holds, and what follows it. -/
def takeMarkup (characterData : Bool) (cs : List Char) : Markup × List Char :=
  match cs with
  | '/' :: '>' :: rest => (.emptyEndTag, rest)
  | '/' :: c :: rest =>
    if c.isAlpha then
      match takeTag? (c :: rest) with
      | some (tag, rest) => (.endTag tag, rest)
      | none => (.unfinished, [])
    else looseComment (c :: rest)
  | '!' :: '-' :: '-' :: rest => commentAfterDashes rest
  | '!' :: rest =>
    if startsWithWord "doctype" rest then (.doctype, (takeToClose (rest.drop 7)).2)
    else if characterData && "[CDATA[".toList.isPrefixOf rest then
      let (text, rest) := takeCharacterData (rest.drop 7)
      (.characterData text, rest)
    else looseComment rest
  | '?' :: _ => looseComment cs
  | _ =>
    match takeTag? cs with
    | some (tag, rest) => (.startTag tag, rest)
    | none => (.unfinished, [])

/-- The text before the next markup, and the rest. -/
def takeData : List Char → List Char × List Char
  | [] => ([], [])
  | c :: cs =>
    if c == '<' && startsMarkup cs then ([], c :: cs)
    else
      let (text, rest) := takeData cs
      (c :: text, rest)

/-- Whether a text begins with `word` and a character that ends a tag name. -/
def startsWithTagName (word : String) (cs : List Char) : Bool :=
  startsWithWord word cs && ((cs.drop word.length).head?.map endsTagName).getD false

/-- Whether the text after `<` is the end tag of an element. -/
def startsEndTag (name : String) : List Char → Bool
  | '/' :: cs => startsWithTagName name cs
  | _ => false

/-- The text before the end tag of an element, and the rest. -/
def takeRaw (name : String) : List Char → List Char × List Char
  | [] => ([], [])
  | c :: cs =>
    if c == '<' && startsEndTag name cs then ([], c :: cs)
    else
      let (text, rest) := takeRaw name cs
      (c :: text, rest)

/-- Where the text of a script stands: outside comments, inside one, or inside a script that is
itself written inside a comment. -/
inductive ScriptState where
  | code
  | comment
  | nested
deriving DecidableEq

/-- The text of a script before its end tag, and the rest. The number counts the dashes that were
just read, up to two. -/
def takeScript (name : String) : ScriptState → Nat → List Char → List Char × List Char
  | _, _, [] => ([], [])
  | state, dashes, c :: cs =>
    let next (state : ScriptState) (dashes : Nat) :=
      let (text, rest) := takeScript name state dashes cs
      (c :: text, rest)
    if c == '<' then
      match state with
      | .code =>
        if startsEndTag name cs then ([], c :: cs)
        else if "!--".toList.isPrefixOf cs then next .comment 0
        else next .code 0
      | .comment =>
        if startsEndTag name cs then ([], c :: cs)
        else if startsWithTagName "script" cs then next .nested 0
        else next .comment 0
      | .nested => if startsEndTag "script" cs then next .comment 0 else next .nested 0
    else if state == .code then next .code 0
    else if c == '-' then next state (min 2 (dashes + 1))
    else if c == '>' && dashes == 2 then next .code 0
    else next state 0

/-- The text that a mode reads, and the rest. The name is that of the element opened last. -/
def takeText (mode : TextMode) (name : String) (cs : List Char) : List Char × List Char :=
  match mode with
  | .data => takeData cs
  | .escapable | .raw => takeRaw name cs
  | .script => takeScript name .code 0 cs
  | .plain => (cs, [])

/-! ## Kinds of elements

What the reading of markup has to know about the names of elements. -/

/-- The three vocabularies of a document. -/
inductive Namespace where
  | html
  | svg
  | mathMl
deriving DecidableEq, Inhabited

/-- Elements of HTML without content. -/
def isVoid (name : String) : Bool :=
  ["area", "base", "basefont", "bgsound", "br", "col", "embed", "hr", "img", "input", "keygen",
    "link", "meta", "param", "source", "track", "wbr"].contains name

/-- How the content of an element of HTML is read. -/
def textModeOf (name : String) : TextMode :=
  if name == "textarea" || name == "title" then .escapable
  else if name == "plaintext" then .plain
  else if name == "script" then .script
  else if ["style", "iframe", "xmp", "noembed", "noframes", "noscript"].contains name then .raw
  else .data

/-- Start tags that end foreign content. -/
def leavesForeign (name : String) : Bool :=
  ["b", "big", "blockquote", "body", "br", "center", "code", "dd", "div", "dl", "dt", "em", "embed",
    "h1", "h2", "h3", "h4", "h5", "h6", "head", "hr", "i", "img", "li", "listing", "menu", "meta",
    "nobr", "ol", "p", "pre", "ruby", "s", "small", "span", "strong", "strike", "sub", "sup",
    "table", "tt", "u", "ul", "var"].contains name

/-- Elements whose content is HTML again. -/
def isIntegrationPoint (ns : Namespace) (name : String) : Bool :=
  match ns with
  | .html => false
  | .svg => ["desc", "title", "foreignobject"].contains name
  | .mathMl => ["mi", "mo", "mn", "ms", "mtext"].contains name

end DynamicContent.Html
