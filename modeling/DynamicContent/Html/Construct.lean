/-
# Tree construction

The tree of a fragment that stands inside a block. Each mode says what a tag or a run of text does to
the open elements; a tag that a mode leaves to another is processed again there.
-/

import DynamicContent.Html.Builder
import DynamicContent.Html.Reference

namespace DynamicContent.Html

/-- What tree construction consumes: runs of text that are all blank or not blank at all, tags, and
the end. -/
inductive Piece where
  | text (blank : Bool) (content : List Char)
  | open (tag : Tag)
  | close (name : String)
  | finish

/-- What a rule of a mode decides: the piece is dealt with, or belongs to a mode. -/
inductive Verdict where
  | done
  | again (mode : Mode)

namespace Builder

/-- Sets the mode and has the piece processed there. -/
def retry (mode : Mode) : Build Verdict := do
  setMode mode
  return .again mode

/-- Sets the mode that the open elements ask for and has the piece processed there. -/
def retryReset : Build Verdict := do
  resetMode
  return .again (← get).mode

/-- Ends a rule. -/
def finished (action : Build Unit) : Build Verdict := do
  action
  return .done

/-- A rule that ignores its piece. -/
def ignored : Build Verdict := return .done

/-! ## Elements anywhere in a body -/

/-- Elements that end a paragraph and are otherwise ordinary. -/
def blocks : List String :=
  ["address", "article", "aside", "blockquote", "center", "details", "dialog", "dir", "div", "dl",
    "fieldset", "figcaption", "figure", "footer", "header", "hgroup", "main", "menu", "nav", "ol",
    "p", "search", "section", "summary", "ul"]

/-- The headings. -/
def headings : List String := ["h1", "h2", "h3", "h4", "h5", "h6"]

/-- Elements that change the look of the text inside them, links apart. -/
def formattingNames : List String :=
  ["b", "big", "code", "em", "font", "i", "s", "small", "strike", "strong", "tt", "u"]

/-- Elements that may stand in the head of a document. -/
def headNames : List String :=
  ["base", "basefont", "bgsound", "link", "meta", "noframes", "script", "style", "template", "title"]

/-- The start tag of an element that may stand in the head of a document. -/
def openHead (tag : Tag) : Build Unit := do
  if ["base", "basefont", "bgsound", "link", "meta"].contains tag.name then insertVoid tag
  else if tag.name == "template" then
    insertTag tag
    addMarker
    modify fun b => { b with mode := .template, templateModes := .template :: b.templateModes }
  else insertTextElement tag

/-- Closes an open item of a list before another one of the given names opens. -/
def closeItem (names : List String) : Build Unit := do
  let b ← get
  let stops (id : Nat) :=
    b.nodes.isHtml id names || (isSpecial b.nodes id && !b.nodes.isHtml id ["address", "div", "p"])
  match b.opened.find? stops with
  | some id =>
    if b.nodes.isHtml id names then
      let name := b.nodes.name id
      closeImplied name
      popThroughNames [name]
  | none => pure ()

/-- The start tag of an item of a list. -/
def openItem (tag : Tag) (names : List String) : Build Unit := do
  closeItem names
  closeParagraph
  insertTag tag

/-- The start tag of a link. A link that is open ends first. -/
def openLink (tag : Tag) : Build Unit := do
  let b ← get
  match b.activeFormatting.find? (b.nodes.name · == "a") with
  | some id =>
    closeFormatting "a"
    modify fun b =>
      { b with
        opened := b.opened.filter (· != id)
        formatting := b.formatting.filter (· != Formatting.element id) }
  | none => pure ()
  reopenFormatting
  insertTag tag
  addFormatting (← get).current

/-- The start tag of foreign content. -/
def openForeign (ns : Namespace) (tag : Tag) : Build Unit := do
  let _ ← insertElement ns tag.name tag.attributes
  if tag.selfClosing then pop

/-- The start tag of a choice. -/
def openSelect (tag : Tag) : Build Unit := do
  reopenFormatting
  insertTag tag
  modify fun b =>
    let inTable := [Mode.table, .caption, .tableBody, .row, .cell].contains b.mode
    { b with mode := if inTable then .selectInTable else .select }

/-- A start tag in a body. -/
def openInBody (tag : Tag) : Build Unit := do
  let name := tag.name
  if headNames.contains name then openHead tag
  else if blocks.contains name then
    closeParagraph
    insertTag tag
  else if headings.contains name then
    closeParagraph
    if (← get).currentIs headings then pop
    insertTag tag
  else if formattingNames.contains name then
    reopenFormatting
    insertTag tag
    addFormatting (← get).current
  else
    match name with
    | "html" | "body" | "frameset" | "caption" | "col" | "colgroup" | "frame" | "head" | "tbody"
    | "td" | "tfoot" | "th" | "thead" | "tr" => pure ()
    | "pre" | "listing" =>
      closeParagraph
      insertTag tag
      modify fun b => { b with skipNewline := true }
    | "form" =>
      let b ← get
      if b.form.isNone || b.hasTemplate then
        closeParagraph
        insertTag tag
        modify fun b => if b.hasTemplate then b else { b with form := some b.current }
    | "li" => openItem tag ["li"]
    | "dd" | "dt" => openItem tag ["dd", "dt"]
    | "plaintext" =>
      closeParagraph
      insertTag tag
      modify fun b => { b with textMode := .plain }
    | "button" =>
      if (← get).inScope ["button"] then
        closeImplied ""
        popThroughNames ["button"]
      reopenFormatting
      insertTag tag
    | "a" => openLink tag
    | "nobr" =>
      reopenFormatting
      if (← get).inScope ["nobr"] then
        closeFormatting "nobr"
        reopenFormatting
      insertTag tag
      addFormatting (← get).current
    | "applet" | "marquee" | "object" =>
      reopenFormatting
      insertTag tag
      addMarker
    | "table" =>
      closeParagraph
      insertTag tag
      setMode .table
    | "area" | "br" | "embed" | "img" | "keygen" | "wbr" | "input" =>
      reopenFormatting
      insertVoid tag
    | "image" =>
      reopenFormatting
      insertVoid { tag with name := "img" }
    | "param" | "source" | "track" => insertVoid tag
    | "hr" =>
      closeParagraph
      insertVoid tag
    | "textarea" =>
      insertTextElement tag
      modify fun b => { b with skipNewline := true }
    | "xmp" =>
      closeParagraph
      reopenFormatting
      insertTextElement tag
    | "iframe" | "noembed" | "noscript" => insertTextElement tag
    | "select" => openSelect tag
    | "optgroup" | "option" =>
      if (← get).currentIs ["option"] then pop
      reopenFormatting
      insertTag tag
    | "rb" | "rtc" =>
      if (← get).inScope ["ruby"] then closeImplied ""
      insertTag tag
    | "rp" | "rt" =>
      if (← get).inScope ["ruby"] then closeImplied "rtc"
      insertTag tag
    | "math" =>
      reopenFormatting
      openForeign .mathMl tag
    | "svg" =>
      reopenFormatting
      openForeign .svg tag
    | _ =>
      reopenFormatting
      insertTag tag

/-- The end tag of a form. -/
def closeForm : Build Unit := do
  let b ← get
  if b.hasTemplate then
    if b.inScope ["form"] then
      closeImplied ""
      popThroughNames ["form"]
  else
    set { b with form := none }
    match b.form with
    | none => pure ()
    | some id =>
      if b.findsInScope (endsScope b.nodes) (· == id) then
        closeImplied ""
        modify fun b => { b with opened := b.opened.filter (· != id) }

/-- An end tag in a body. -/
def closeInBody (name : String) : Build Unit := do
  if name == "p" then
    if !(← get).inButtonScope ["p"] then insertTag ⟨"p", [], false⟩
    closeParagraph
  else if blocks.contains name || ["button", "listing", "pre"].contains name then
    if (← get).inScope [name] then
      closeImplied ""
      popThroughNames [name]
  else if headings.contains name then
    if (← get).inScope headings then
      closeImplied ""
      popThroughNames headings
  else if formattingNames.contains name || name == "a" || name == "nobr" then closeFormatting name
  else
    match name with
    | "html" | "body" => pure ()
    | "template" => closeTemplate
    | "form" => closeForm
    | "li" =>
      if (← get).inListItemScope ["li"] then
        closeImplied "li"
        popThroughNames ["li"]
    | "dd" | "dt" =>
      if (← get).inScope [name] then
        closeImplied name
        popThroughNames [name]
    | "applet" | "marquee" | "object" =>
      if (← get).inScope [name] then
        closeImplied ""
        popThroughNames [name]
        clearToMarker
    | "br" =>
      reopenFormatting
      insertVoid ⟨"br", [], false⟩
    | _ => closeOrdinary name

/-- The rules of a template at the end of the text: it is closed. -/
def finishTemplate : Build Verdict := do
  if (← get).hasTemplate then
    popThroughNames ["template"]
    clearToMarker
    modify fun b => { b with templateModes := b.templateModes.drop 1 }
    retryReset
  else ignored

/-- A piece in a body. -/
def inBody : Piece → Build Verdict
  | .text _ content => finished do
    reopenFormatting
    insertText content
  | .open tag => finished (openInBody tag)
  | .close name => finished (closeInBody name)
  | .finish => do if (← get).templateModes.isEmpty then ignored else finishTemplate

/-! ## Tables -/

/-- Start tags of the parts of a table that end a cell, a row or a caption. -/
def tableParts : List String :=
  ["caption", "col", "colgroup", "tbody", "td", "tfoot", "th", "thead", "tr"]

/-- The groups of rows. -/
def rowGroups : List String := ["tbody", "tfoot", "thead"]

/-- A piece that does not belong into a table: it goes before it. -/
def foster (piece : Piece) : Build Verdict := do
  modify fun b => { b with fostering := true }
  let verdict ← inBody piece
  modify fun b => { b with fostering := false }
  return verdict

/-- Closes elements up to the table. -/
def popToTable : Build Unit := popToNames ["table", "template", "html"]

/-- A start tag in a table. -/
def openInTable (tag : Tag) : Build Verdict := do
  match tag.name with
  | "caption" => finished do
    popToTable
    addMarker
    insertTag tag
    setMode .caption
  | "colgroup" => finished do
    popToTable
    insertTag tag
    setMode .columnGroup
  | "col" =>
    popToTable
    insertTag ⟨"colgroup", [], false⟩
    retry .columnGroup
  | "tbody" | "tfoot" | "thead" => finished do
    popToTable
    insertTag tag
    setMode .tableBody
  | "td" | "th" | "tr" =>
    popToTable
    insertTag ⟨"tbody", [], false⟩
    retry .tableBody
  | "table" =>
    if (← get).inTableScope ["table"] then
      popThroughNames ["table"]
      retryReset
    else ignored
  | "style" | "script" | "template" => finished (openHead tag)
  | "input" =>
    let hidden := tag.attributes.any fun a =>
      a.1 == "type" && a.2.toList.map Char.toLower == "hidden".toList
    if hidden then finished (insertVoid tag) else foster (.open tag)
  | "form" => finished do
    let b ← get
    if b.form.isNone && !b.hasTemplate then
      insertTag tag
      modify fun b => { b with form := some b.current }
      pop
  | _ => foster (.open tag)

/-- A piece in a table. -/
def inTable (piece : Piece) : Build Verdict := do
  match piece with
  | .text _ _ =>
    if (← get).currentIs ("table" :: "template" :: "tr" :: rowGroups) then
      modify fun b => { b with tableText := [], returnMode := b.mode }
      retry .tableText
    else foster piece
  | .open tag => openInTable tag
  | .close name =>
    if name == "table" then
      if (← get).inTableScope ["table"] then finished do
        popThroughNames ["table"]
        resetMode
      else ignored
    else if name == "body" || name == "html" || tableParts.contains name then ignored
    else if name == "template" then finished closeTemplate
    else foster piece
  | .finish => inBody piece

/-- Ends a text in a table: text that is blank stays in the table, other text goes before it. Gives the
mode that the text was in. -/
def endTableText : Build Mode := do
  let b ← get
  let _ ← if b.tableText.all isTagBlank then finished (insertText b.tableText)
    else foster (.text false b.tableText)
  setMode b.returnMode
  return b.returnMode

/-- A piece after text in a table. -/
def inTableText (piece : Piece) : Build Verdict := do
  match piece with
  | .text _ content =>
    finished (modify fun b => { b with tableText := b.tableText ++ content })
  | _ => return .again (← endTableText)

/-- A piece in a caption. -/
def inCaption (piece : Piece) : Build Verdict := do
  let close : Build Unit := do
    closeImplied ""
    popThroughNames ["caption"]
    clearToMarker
    setMode .table
  let closeAndRetry : Build Verdict := do
    if (← get).inTableScope ["caption"] then
      close
      return .again .table
    else ignored
  match piece with
  | .close "caption" => if (← get).inTableScope ["caption"] then finished close else ignored
  | .close "table" => closeAndRetry
  | .close name =>
    if name == "body" || name == "html" || tableParts.contains name then ignored else inBody piece
  | .open tag => if tableParts.contains tag.name then closeAndRetry else inBody piece
  | _ => inBody piece

/-- A piece in a group of columns. -/
def inColumnGroup (piece : Piece) : Build Verdict := do
  let leave : Build Verdict := do
    if (← get).currentIs ["colgroup"] then
      pop
      retry .table
    else ignored
  match piece with
  | .text true content => finished (insertText content)
  | .text false _ => leave
  | .open tag =>
    match tag.name with
    | "html" => ignored
    | "col" => finished (insertVoid tag)
    | "template" => finished (openHead tag)
    | _ => leave
  | .close "colgroup" =>
    if (← get).currentIs ["colgroup"] then finished do
      pop
      setMode .table
    else ignored
  | .close "col" => ignored
  | .close "template" => finished closeTemplate
  | .close _ => leave
  | .finish => inBody piece

/-- A piece in a group of rows. -/
def inTableBody (piece : Piece) : Build Verdict := do
  let popToGroup := popToNames ("template" :: "html" :: rowGroups)
  let leave : Build Verdict := do
    if (← get).inTableScope rowGroups then
      popToGroup
      pop
      retry .table
    else ignored
  match piece with
  | .open tag =>
    if tag.name == "tr" then finished do
      popToGroup
      insertTag tag
      setMode .row
    else if tag.name == "td" || tag.name == "th" then do
      popToGroup
      insertTag ⟨"tr", [], false⟩
      retry .row
    else if tableParts.contains tag.name then leave
    else inTable piece
  | .close name =>
    if rowGroups.contains name then
      if (← get).inTableScope [name] then finished do
        popToGroup
        pop
        setMode .table
      else ignored
    else if name == "table" then leave
    else if name == "body" || name == "html" || tableParts.contains name then ignored
    else inTable piece
  | _ => inTable piece

/-- A piece in a row. -/
def inRow (piece : Piece) : Build Verdict := do
  let popToRow := popToNames ["tr", "template", "html"]
  let leave : Build Verdict := do
    if (← get).inTableScope ["tr"] then
      popToRow
      pop
      retry .tableBody
    else ignored
  match piece with
  | .open tag =>
    if tag.name == "td" || tag.name == "th" then finished do
      popToRow
      insertTag tag
      setMode .cell
      addMarker
    else if tableParts.contains tag.name then leave
    else inTable piece
  | .close name =>
    if name == "tr" then
      if (← get).inTableScope ["tr"] then finished do
        popToRow
        pop
        setMode .tableBody
      else ignored
    else if name == "table" then leave
    else if rowGroups.contains name then
      if (← get).inTableScope [name] then leave else ignored
    else if name == "body" || name == "html" || tableParts.contains name then ignored
    else inTable piece
  | _ => inTable piece

/-- A piece in a cell. -/
def inCell (piece : Piece) : Build Verdict := do
  match piece with
  | .open tag =>
    if tableParts.contains tag.name then
      if (← get).inTableScope ["td", "th"] then
        closeCell
        return .again .row
      else ignored
    else inBody piece
  | .close name =>
    if name == "td" || name == "th" then
      if (← get).inTableScope [name] then finished do
        closeImplied ""
        popThroughNames [name]
        clearToMarker
        setMode .row
      else ignored
    else if ["body", "caption", "col", "colgroup", "html"].contains name then ignored
    else if name == "table" || name == "tr" || rowGroups.contains name then
      if (← get).inTableScope [name] then
        closeCell
        return .again .row
      else ignored
    else inBody piece
  | _ => inBody piece

/-! ## Choices and templates -/

/-- A piece in a choice. -/
def inSelect (piece : Piece) : Build Verdict := do
  let popOption : Build Unit := do if (← get).currentIs ["option"] then pop
  let popGroup : Build Unit := do if (← get).currentIs ["optgroup"] then pop
  match piece with
  | .text _ content => finished (insertText content)
  | .open tag =>
    match tag.name with
    | "option" => finished do
      popOption
      insertTag tag
    | "optgroup" => finished do
      popOption
      popGroup
      insertTag tag
    | "hr" => finished do
      popOption
      popGroup
      insertVoid tag
    | "select" => finished do
      if (← get).inSelectScope ["select"] then
        popThroughNames ["select"]
        resetMode
    | "input" | "keygen" | "textarea" =>
      if (← get).inSelectScope ["select"] then
        popThroughNames ["select"]
        retryReset
      else ignored
    | "script" | "template" => finished (openHead tag)
    | _ => ignored
  | .close "optgroup" => finished do
    let b ← get
    if b.currentIs ["option"] && b.nodes.isHtml ((b.opened.drop 1).headD root) ["optgroup"] then pop
    popGroup
  | .close "option" => finished popOption
  | .close "select" => finished do
    if (← get).inSelectScope ["select"] then
      popThroughNames ["select"]
      resetMode
  | .close "template" => finished closeTemplate
  | .close _ => ignored
  | .finish => inBody piece

/-- A piece in a choice inside a table. -/
def inSelectInTable (piece : Piece) : Build Verdict := do
  let names := ["caption", "table", "tr", "td", "th"] ++ rowGroups
  let leave : Build Verdict := do
    popThroughNames ["select"]
    retryReset
  match piece with
  | .open tag => if names.contains tag.name then leave else inSelect piece
  | .close name =>
    if names.contains name then
      if (← get).inTableScope [name] then leave else ignored
    else inSelect piece
  | _ => inSelect piece

/-- A piece in a template. -/
def inTemplate (piece : Piece) : Build Verdict := do
  let retryAs (mode : Mode) : Build Verdict := do
    modify fun b => { b with templateModes := mode :: b.templateModes.drop 1 }
    retry mode
  match piece with
  | .text _ _ => inBody piece
  | .open tag =>
    if headNames.contains tag.name then finished (openHead tag)
    else
      match tag.name with
      | "caption" | "colgroup" | "tbody" | "tfoot" | "thead" => retryAs .table
      | "col" => retryAs .columnGroup
      | "tr" => retryAs .tableBody
      | "td" | "th" => retryAs .row
      | _ => retryAs .body
  | .close "template" => finished closeTemplate
  | .close _ => ignored
  | .finish => finishTemplate

/-- A piece inside an element whose content is text. -/
def inText (piece : Piece) : Build Verdict := do
  match piece with
  | .text _ content => finished (insertText content)
  | .open _ => ignored
  | .close _ => finished do
    pop
    modify fun b => { b with mode := b.returnMode }
  | .finish =>
    pop
    retry (← get).returnMode

/-- A piece by the rules of a mode. -/
def byMode : Mode → Piece → Build Verdict
  | .body => inBody
  | .text => inText
  | .table => inTable
  | .tableText => inTableText
  | .caption => inCaption
  | .columnGroup => inColumnGroup
  | .tableBody => inTableBody
  | .row => inRow
  | .cell => inCell
  | .select => inSelect
  | .selectInTable => inSelectInTable
  | .template => inTemplate

/-! ## Foreign content -/

/-- Whether content of HTML stands in a foreign element, apart from text and any start tag. -/
def isTextPoint (b : Builder) (id : Nat) : Bool :=
  b.nodes.ns id == .mathMl && isIntegrationPoint .mathMl (b.nodes.name id)

/-- Whether content of HTML stands in a foreign element. -/
def isHtmlPoint (b : Builder) (id : Nat) : Bool :=
  let name := b.nodes.name id
  match b.nodes.ns id with
  | .html => false
  | .svg => isIntegrationPoint .svg name
  | .mathMl =>
    name == "annotation-xml" && (b.nodes.attributes id).any fun a =>
      a.1 == "encoding" &&
        ["text/html", "application/xhtml+xml"].contains (String.ofList (a.2.toList.map Char.toLower))

/-- Whether a piece is processed by the rules of foreign content. -/
def isForeign (b : Builder) (piece : Piece) : Bool :=
  let id := b.current
  if b.nodes.ns id == .html then false
  else
    match piece with
    | .finish => false
    | .text _ _ => !(b.isTextPoint id || b.isHtmlPoint id)
    | .open tag =>
      !((b.isTextPoint id && tag.name != "mglyph" && tag.name != "malignmark") || b.isHtmlPoint id ||
        (b.nodes.ns id == .mathMl && b.nodes.name id == "annotation-xml" && tag.name == "svg"))
    | .close _ => true

/-- Whether a start tag ends foreign content. -/
def endsForeign (tag : Tag) : Bool :=
  leavesForeign tag.name ||
    (tag.name == "font" && tag.attributes.any (["color", "face", "size"].contains ·.1))

/-- Leaves foreign content and has the piece processed by the mode. -/
def leaveForeign : Build Verdict := do
  modify fun b =>
    { b with
      opened := b.opened.dropWhile fun id =>
        !(b.nodes.ns id == .html || b.isTextPoint id || b.isHtmlPoint id) }
  return .again (← get).mode

/-- An end tag in foreign content. -/
def closeInForeign (name : String) : Build Verdict := do
  let b ← get
  match b.opened.find? fun id => b.nodes.ns id == .html || b.nodes.name id == name with
  | some id =>
    if b.nodes.ns id == .html then return .again b.mode
    else finished (popThrough fun _ other => other == id)
  | none => ignored

/-- A piece in foreign content. -/
def inForeign (piece : Piece) : Build Verdict := do
  match piece with
  | .text _ content => finished (insertText content)
  | .open tag =>
    if endsForeign tag then leaveForeign
    else
      let b ← get
      finished (openForeign (b.nodes.ns b.current) tag)
  | .close name => if name == "br" || name == "p" then leaveForeign else closeInForeign name
  | .finish => ignored

/-- Processes a piece by the rules of a mode and of those it is passed on to. The first argument
bounds how often that happens. -/
def processIn : Nat → Mode → Piece → Build Unit
  | 0, _, _ => pure ()
  | n + 1, mode, piece => do
    match ← byMode mode piece with
    | .done => pure ()
    | .again mode => processIn n mode piece

/-- Processes a piece. -/
def process (piece : Piece) : Build Unit := do
  let b ← get
  let bound := 4 * b.opened.length + 16
  if b.isForeign piece then
    match ← inForeign piece with
    | .done => pure ()
    | .again mode => processIn bound mode piece
  else processIn bound b.mode piece

end Builder

/-! ## From text to tree -/

/-- The replacement for a character that markup cannot hold. -/
def replaceNull (c : Char) : Char := if c.toNat == 0 then Char.ofNat 0xFFFD else c

/-- Line ends as line feeds. -/
def normalizeNewlines : List Char → List Char
  | [] => []
  | '\r' :: '\n' :: cs => '\n' :: normalizeNewlines cs
  | c :: cs => (if c == '\r' then '\n' else c) :: normalizeNewlines cs

/-- The attributes of a tag with references replaced; a repeated name counts once. -/
def decodeAttributes (attributes : List (String × String)) : List (String × String) :=
  attributes.foldl (fun done (name, value) =>
    let name := String.ofList (name.toList.map replaceNull)
    if done.any (·.1 == name) then done
    else
      let value := (decodeReferences true value.toList).map replaceNull
      done ++ [(name, String.ofList value)]) []

/-- Text in runs that are all blank or not blank at all. The first argument bounds their number. -/
def textRuns : Nat → List Char → List Piece
  | _, [] => []
  | 0, _ => []
  | n + 1, c :: cs =>
    let blank := isTagBlank c
    let run := (c :: cs).takeWhile (isTagBlank · == blank)
    .text blank run :: textRuns n ((c :: cs).dropWhile (isTagBlank · == blank))

namespace Builder

/-- Processes text as it stands in the source. -/
def processText (source : List Char) : Build Unit := do
  let b ← get
  let decoded := match b.textMode with
    | .data | .escapable => decodeReferences false source
    | _ => source
  let content :=
    if b.textMode == .data && b.nodes.ns b.current == .html then decoded.filter (·.toNat != 0)
    else decoded.map replaceNull
  let content := match b.skipNewline, content with
    | true, '\n' :: rest => rest
    | _, _ => content
  if !source.isEmpty then modify fun b => { b with skipNewline := false }
  for piece in textRuns (content.length + 1) content do process piece

/-- Processes what is not text. -/
def processMarkup (markup : Markup) : Build Unit := do
  modify fun b => { b with skipNewline := false }
  match markup with
  | .startTag tag =>
    modify fun b => { b with lastStart := tag.name }
    process (.open
      { tag with
        name := String.ofList (tag.name.toList.map replaceNull)
        attributes := decodeAttributes tag.attributes })
  | .endTag tag =>
    modify fun b => if b.textMode == .plain then b else { b with textMode := .data }
    process (.close (String.ofList (tag.name.toList.map replaceNull)))
  | .characterData content => do
    for piece in textRuns (content.length + 1) (content.map replaceNull) do process piece
  | .comment _ => do
    if (← get).mode == .tableText then
      let _ ← endTableText
  | .doctype => pure ()
  | .emptyEndTag => pure ()
  | .unfinished => pure ()

/-- Processes a text to its end. The first argument bounds the number of parts. -/
def processAll : Nat → List Char → Build Unit
  | 0, _ => pure ()
  | _, [] => process .finish
  | n + 1, cs => do
    let b ← get
    let (text, rest) := takeText b.textMode b.lastStart cs
    processText text
    match rest with
    | [] => process .finish
    | _ :: inside =>
      let b ← get
      let (markup, rest) := takeMarkup (b.nodes.ns b.current != .html) inside
      processMarkup markup
      processAll n rest

end Builder

/-- The trees of a text with markup. -/
def parseFragment (source : String) : List Tree :=
  let cs := normalizeNewlines source.toList
  let cs := match cs with
    | c :: rest => if c.toNat == 0xFEFF then rest else cs
    | [] => []
  let (_, b) := (Builder.processAll (cs.length + 1) cs).run Builder.start
  (b.nodes.node Builder.root).children.filterMap (b.nodes.tree? b.nodes.size)

end DynamicContent.Html
