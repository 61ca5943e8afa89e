/-
# The state of tree construction

Which elements are open, which formatting is to be opened again, and the elementary steps on them.
The innermost open element comes first; the formatting elements are listed in the order in which they
were opened.
-/

import DynamicContent.Html.Tree

namespace DynamicContent.Html

/-- How tags are treated: by where they stand. -/
inductive Mode where
  | body
  | text
  | table
  | tableText
  | caption
  | columnGroup
  | tableBody
  | row
  | cell
  | select
  | selectInTable
  | template
deriving DecidableEq, Inhabited

/-- A formatting element, or a border that opening again does not cross. -/
inductive Formatting where
  | marker
  | element (id : Nat)
deriving DecidableEq

/-- The state of tree construction. -/
structure Builder where
  nodes : Nodes
  opened : List Nat
  formatting : List Formatting
  mode : Mode
  returnMode : Mode
  templateModes : List Mode
  tableText : List Char
  form : Option Nat
  fostering : Bool
  textMode : TextMode
  lastStart : String
  skipNewline : Bool

/-- A step of tree construction. -/
abbrev Build := StateM Builder

namespace Builder

/-- The number of the root element. -/
def root : Nat := 0

/-- The state at the start of a fragment. -/
def start : Builder :=
  { nodes := #[⟨.element .html "html" [], none, []⟩], opened := [root], formatting := [],
    mode := .body, returnMode := .body, templateModes := [], tableText := [], form := none,
    fostering := false, textMode := .data, lastStart := "", skipNewline := false }

/-- The innermost open element. -/
def current (b : Builder) : Nat := b.opened.headD root

/-- Whether the innermost open element is one of HTML with one of the names. -/
def currentIs (b : Builder) (names : List String) : Bool := b.nodes.isHtml b.current names

/-! ## Scopes -/

/-- Elements that every scope ends at. -/
def endsScope (nodes : Nodes) (id : Nat) : Bool :=
  let name := nodes.name id
  match nodes.ns id with
  | .html =>
    ["applet", "caption", "html", "table", "td", "th", "marquee", "object", "template"].contains name
  | .mathMl => ["mi", "mo", "mn", "ms", "mtext", "annotation-xml"].contains name
  | .svg => ["foreignobject", "desc", "title"].contains name

/-- Whether an element that satisfies `wanted` is open inside the innermost one that `stops`. -/
def findsInScope (b : Builder) (stops wanted : Nat → Bool) : Bool :=
  match b.opened.find? fun id => wanted id || stops id with
  | some id => wanted id
  | none => false

/-- Whether an element with one of the names is open in scope. -/
def inScope (b : Builder) (names : List String) : Bool :=
  b.findsInScope (endsScope b.nodes) (b.nodes.isHtml · names)

/-- The scope of list items. -/
def inListItemScope (b : Builder) (names : List String) : Bool :=
  b.findsInScope (fun id => endsScope b.nodes id || b.nodes.isHtml id ["ol", "ul"])
    (b.nodes.isHtml · names)

/-- The scope of paragraphs. -/
def inButtonScope (b : Builder) (names : List String) : Bool :=
  b.findsInScope (fun id => endsScope b.nodes id || b.nodes.isHtml id ["button"])
    (b.nodes.isHtml · names)

/-- The scope of the parts of a table. -/
def inTableScope (b : Builder) (names : List String) : Bool :=
  b.findsInScope (b.nodes.isHtml · ["html", "table", "template"]) (b.nodes.isHtml · names)

/-- The scope of the parts of a choice. -/
def inSelectScope (b : Builder) (names : List String) : Bool :=
  b.findsInScope (!b.nodes.isHtml · ["optgroup", "option"]) (b.nodes.isHtml · names)

/-- Whether a template is open. -/
def hasTemplate (b : Builder) : Bool := b.opened.any (b.nodes.isHtml · ["template"])

/-- Elements that are more than formatting. -/
def isSpecial (nodes : Nodes) (id : Nat) : Bool :=
  let name := nodes.name id
  match nodes.ns id with
  | .html =>
    ["address", "applet", "area", "article", "aside", "base", "basefont", "bgsound", "blockquote",
      "body", "br", "button", "caption", "center", "col", "colgroup", "dd", "details", "dir", "div",
      "dl", "dt", "embed", "fieldset", "figcaption", "figure", "footer", "form", "frame", "frameset",
      "h1", "h2", "h3", "h4", "h5", "h6", "head", "header", "hgroup", "hr", "html", "iframe", "img",
      "input", "keygen", "li", "link", "listing", "main", "marquee", "menu", "meta", "nav",
      "noembed", "noframes", "noscript", "object", "ol", "p", "param", "plaintext", "pre", "script",
      "search", "section", "select", "source", "style", "summary", "table", "tbody", "td",
      "template", "textarea", "tfoot", "th", "thead", "title", "tr", "track", "ul", "wbr",
      "xmp"].contains name
  | .mathMl => ["mi", "mo", "mn", "ms", "mtext", "annotation-xml"].contains name
  | .svg => ["foreignobject", "desc", "title"].contains name

/-! ## Places and insertion -/

/-- The node that holds what is put into an element: for a template the node of its content. -/
def contentOf (b : Builder) (id : Nat) : Nat :=
  if b.nodes.isHtml id ["template"] then
    ((b.nodes.node id).children.find? fun c =>
      match (b.nodes.node c).kind with
      | .template => true
      | _ => false).getD id
  else id

/-- Where a new node goes, if `target` is where it is wanted. What does not belong into a table goes
before the table. -/
def placeIn (b : Builder) (target : Nat) : Place :=
  if b.fostering && b.nodes.isHtml target ["table", "tbody", "tfoot", "thead", "tr"] then
    match b.opened.find? (b.nodes.isHtml · ["table", "template"]) with
    | none => ⟨root, none⟩
    | some id =>
      if b.nodes.isHtml id ["template"] then ⟨b.contentOf id, none⟩
      else
        match (b.nodes.node id).parent with
        | some parent => ⟨parent, some id⟩
        | none => ⟨b.contentOf (((b.opened.dropWhile (· != id)).drop 1).headD root), none⟩
  else ⟨b.contentOf target, none⟩

/-- Where a new node goes. -/
def place (b : Builder) : Place := b.placeIn b.current

/-- Puts text where a new node goes. -/
def insertText (content : List Char) : Build Unit :=
  modify fun b => { b with nodes := b.nodes.insertText content b.place }

/-- Puts an element where a new node goes and opens it. -/
def insertElement (ns : Namespace) (name : String) (attributes : List (String × String)) :
    Build Nat := do
  let b ← get
  let (nodes, id) := b.nodes.add (.element ns name attributes)
  let nodes := nodes.insert id b.place
  let nodes :=
    if ns == .html && name == "template" then
      let (nodes, content) := nodes.add .template
      nodes.insert content ⟨id, none⟩
    else nodes
  set { b with nodes, opened := id :: b.opened }
  return id

/-- Puts the element of a tag and opens it. -/
def insertTag (tag : Tag) : Build Unit := do
  let _ ← insertElement .html tag.name tag.attributes

/-- Closes the innermost open element. -/
def pop : Build Unit := modify fun b => { b with opened := b.opened.drop 1 }

/-- Puts the element of a tag, which stays empty. -/
def insertVoid (tag : Tag) : Build Unit := do
  insertTag tag
  pop

/-- Closes elements up to and including the innermost one that satisfies `wanted`. -/
def popThrough (wanted : Nodes → Nat → Bool) : Build Unit :=
  modify fun b => { b with opened := (b.opened.dropWhile (!wanted b.nodes ·)).drop 1 }

/-- Closes elements up to and including the innermost one with one of the names. -/
def popThroughNames (names : List String) : Build Unit :=
  popThrough fun nodes id => nodes.isHtml id names

/-- Closes elements until the innermost one has one of the names. -/
def popToNames (names : List String) : Build Unit :=
  modify fun b => { b with opened := b.opened.dropWhile (!b.nodes.isHtml · names) }

/-- Elements whose end tag may be left out. -/
def impliedEnds : List String := ["dd", "dt", "li", "optgroup", "option", "p", "rb", "rp", "rt", "rtc"]

/-- Closes elements whose end tag may be left out, but none with the given name. -/
def closeImplied (except : String) : Build Unit :=
  modify fun b =>
    { b with opened := b.opened.dropWhile (b.nodes.isHtml · (impliedEnds.filter (· != except))) }

/-- Closes elements whose end tag may be left out, those of tables too. -/
def closeImpliedThoroughly : Build Unit :=
  let names := impliedEnds ++ ["caption", "colgroup", "tbody", "td", "tfoot", "th", "thead", "tr"]
  modify fun b => { b with opened := b.opened.dropWhile (b.nodes.isHtml · names) }

/-- Closes a paragraph that is open in scope. -/
def closeParagraph : Build Unit := do
  if (← get).inButtonScope ["p"] then
    closeImplied "p"
    popThroughNames ["p"]

/-! ## Formatting elements -/

/-- Lists a border. -/
def addMarker : Build Unit := modify fun b => { b with formatting := b.formatting ++ [.marker] }

/-- Forgets the formatting elements after the last border, and the border. -/
def clearToMarker : Build Unit :=
  modify fun b =>
    { b with
      formatting := ((b.formatting.reverse.dropWhile (· != .marker)).drop 1).reverse }

/-- The formatting elements after the last border, the last one first. -/
def activeFormatting (b : Builder) : List Nat :=
  (b.formatting.reverse.takeWhile (· != .marker)).filterMap fun entry =>
    match entry with
    | .element id => some id
    | .marker => none

/-- Whether two tags have the same attributes, in whatever order. -/
def sameAttributes (a b : List (String × String)) : Bool :=
  a.length == b.length && a.all b.contains

/-- Lists a formatting element. Of four equal ones the first is forgotten. -/
def addFormatting (id : Nat) : Build Unit :=
  modify fun b =>
    let same := b.activeFormatting.filter fun other =>
      b.nodes.name other == b.nodes.name id &&
        sameAttributes (b.nodes.attributes other) (b.nodes.attributes id)
    let formatting := match same.drop 2 with
      | [] => b.formatting
      | _ => b.formatting.filter (· != Formatting.element (same.getLastD id))
    { b with formatting := formatting ++ [.element id] }

/-- Opens again the formatting elements that were closed since the last one that is open. -/
def reopenFormatting : Build Unit := do
  let b ← get
  let closed := (b.activeFormatting.takeWhile (!b.opened.contains ·)).reverse
  for id in closed do
    let b ← get
    let new ← insertElement .html (b.nodes.name id) (b.nodes.attributes id)
    modify fun b =>
      { b with
        formatting := b.formatting.map fun entry =>
          if entry == Formatting.element id then .element new else entry }

/-- Replaces a number in a list. -/
def replaceIn (old new : Nat) (ids : List Nat) : List Nat :=
  ids.map fun id => if id == old then new else id

/-- Inserts a number before another in a list. -/
def insertBefore {α : Type} [BEq α] (new other : α) (items : List α) : List α :=
  items.takeWhile (· != other) ++ new :: items.dropWhile (· != other)

/-- Inserts a number after another in a list. -/
def insertAfter {α : Type} [BEq α] (new other : α) (items : List α) : List α :=
  items.takeWhile (· != other) ++ other :: new :: (items.dropWhile (· != other)).drop 1

/-- The part of adoption that goes up from the furthest block to the formatting element: copies the
formatting between them. Gives the node that is to be moved, and the formatting element after which
the new one is listed, if it is not where the old one was. The list holds the open elements above,
innermost first; the number counts them. -/
def adoptUpwards (formattingId block : Nat) :
    List Nat → Nat → Nat → Option Nat → Build (Nat × Option Nat)
  | [], _, last, bookmark => return (last, bookmark)
  | id :: above, count, last, bookmark => do
    if id == formattingId then return (last, bookmark)
    let b ← get
    let listed := b.formatting.contains (.element id)
    if listed && count ≤ 3 then
      let (nodes, new) :=
        b.nodes.add (.element .html (b.nodes.name id) (b.nodes.attributes id))
      let nodes := nodes.insert last ⟨new, none⟩
      set { b with
            nodes
            opened := replaceIn id new b.opened
            formatting := b.formatting.map fun entry =>
              if entry == Formatting.element id then .element new else entry }
      adoptUpwards formattingId block above (count + 1) new
        (if last == block then some new else bookmark)
    else
      set { b with
            opened := b.opened.filter (· != id)
            formatting := b.formatting.filter (· != Formatting.element id) }
      adoptUpwards formattingId block above (count + 1) last bookmark

/-- One round of adoption for a formatting element that is open around a block. -/
def adopt (formattingId block : Nat) : Build Unit := do
  let b ← get
  let ancestor := ((b.opened.dropWhile (· != formattingId)).drop 1).headD root
  let above := (b.opened.dropWhile (· != block)).drop 1
  let (last, bookmark) ← adoptUpwards formattingId block above 1 block none
  let b ← get
  let nodes := b.nodes.insert last (b.placeIn ancestor)
  let (nodes, new) :=
    nodes.add (.element .html (nodes.name formattingId) (nodes.attributes formattingId))
  let nodes := nodes.moveChildren block new
  let nodes := nodes.insert new ⟨block, none⟩
  let formatting := match bookmark with
    | some id => insertAfter (Formatting.element new) (.element id) b.formatting
    | none => insertBefore (Formatting.element new) (.element formattingId) b.formatting
  set { b with
        nodes
        formatting := formatting.filter (· != Formatting.element formattingId)
        opened := insertBefore new block (b.opened.filter (· != formattingId)) }

/-- Closes the innermost element with a name that nothing special stands inside. -/
def closeOrdinary (name : String) : Build Unit := do
  let b ← get
  match b.opened.find? fun id => b.nodes.isHtml id [name] || isSpecial b.nodes id with
  | some id =>
    if b.nodes.isHtml id [name] then
      closeImplied name
      popThrough fun _ other => other == id
  | none => pure ()

/-- Closes a formatting element, splitting it where blocks are open inside it. The first argument
bounds the number of rounds. -/
def closeFormattingRounds (name : String) : Nat → Build Unit
  | 0 => pure ()
  | n + 1 => do
    let b ← get
    match b.activeFormatting.find? (b.nodes.name · == name) with
    | none => closeOrdinary name
    | some id =>
      if !b.opened.contains id then
        set { b with formatting := b.formatting.filter (· != Formatting.element id) }
      else if !b.findsInScope (endsScope b.nodes) (· == id) then pure ()
      else
        match ((b.opened.takeWhile (· != id)).filter (isSpecial b.nodes)).getLast? with
        | none =>
          set { b with
                opened := (b.opened.dropWhile (· != id)).drop 1
                formatting := b.formatting.filter (· != Formatting.element id) }
        | some block =>
          adopt id block
          closeFormattingRounds name n

/-- Closes a formatting element. -/
def closeFormatting (name : String) : Build Unit := do
  let b ← get
  if b.currentIs [name] && !b.formatting.contains (.element b.current) then pop
  else closeFormattingRounds name 8

/-! ## Modes -/

/-- Sets the mode. -/
def setMode (mode : Mode) : Build Unit := modify fun b => { b with mode }

/-- The mode that the open elements, innermost first, ask for. -/
def modeOf (b : Builder) : List Nat → Mode
  | [] => .body
  | [_] => .body
  | id :: outer =>
    if b.nodes.ns id != .html then b.modeOf outer
    else
      match b.nodes.name id with
      | "select" =>
        match outer.find? (b.nodes.isHtml · ["template", "table"]) with
        | some other => if b.nodes.isHtml other ["table"] then .selectInTable else .select
        | none => .select
      | "td" | "th" => .cell
      | "tr" => .row
      | "tbody" | "thead" | "tfoot" => .tableBody
      | "caption" => .caption
      | "colgroup" => .columnGroup
      | "table" => .table
      | "template" => b.templateModes.headD .template
      | "body" => .body
      | _ => b.modeOf outer

/-- Sets the mode that the open elements ask for. -/
def resetMode : Build Unit := modify fun b => { b with mode := b.modeOf b.opened }

/-- Opens an element whose content is text. -/
def insertTextElement (tag : Tag) : Build Unit := do
  insertTag tag
  modify fun b =>
    { b with returnMode := b.mode, mode := .text, textMode := textModeOf tag.name }

/-- Closes a template. -/
def closeTemplate : Build Unit := do
  if (← get).hasTemplate then
    closeImpliedThoroughly
    popThroughNames ["template"]
    clearToMarker
    modify fun b => { b with templateModes := b.templateModes.drop 1 }
    resetMode

/-- Closes a cell of a table. -/
def closeCell : Build Unit := do
  closeImplied ""
  popThroughNames ["td", "th"]
  clearToMarker
  setMode .row

end Builder

end DynamicContent.Html
