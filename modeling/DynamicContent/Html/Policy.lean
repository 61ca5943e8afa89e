/-
# What markup may stay

A policy says which elements, attributes and schemes of addresses survive cleaning. Everything else
is taken out: an element that is not allowed leaves its content behind, except for scripts and styles.
Of a style attribute those declarations are kept that can neither run code nor fetch a style sheet.
-/

import DynamicContent.Html.Token
import DynamicContent.Text.Blank
import DynamicContent.Url.Basic

namespace DynamicContent.Html

/-! ## Style attributes -/

/-- What no declaration may contain, in any case of its letters. -/
def forbiddenInStyle : List String :=
  ["expression(", "javascript:", "vbscript:", "-moz-binding", "behavior:", "behaviour:", "@import",
    "url("]

/-- Whether a declaration is harmless. -/
def isSafeDeclaration (declaration : List Char) : Bool :=
  let lower := declaration.map Char.toLower
  !forbiddenInStyle.any fun part => Text.occursIn part.toList lower

/-- The declarations of a style that are kept, without blanks at their ends. -/
def keptDeclarations (style : List Char) : List (List Char) :=
  ((Text.splitAtEach (· == ';') style).map Text.trimChars).filter fun declaration =>
    !declaration.isEmpty && isSafeDeclaration declaration

/-- Declarations as the value of a style attribute. -/
def joinDeclarations (declarations : List (List Char)) : List Char :=
  List.flatten (declarations.intersperse [';', ' '])

/-- The harmless part of a style; `none` if nothing is left. -/
def safeStyle? (style : List Char) : Option (List Char) :=
  match keptDeclarations style with
  | [] => none
  | kept => some (joinDeclarations kept)

/-! ## Policies -/

/-- The policies: for the markup of posts, and the same with one custom element more. -/
inductive Profile where
  | post
  | qrCode
  | spoiler
deriving DecidableEq

/-- The elements of posts. -/
def postElements : List String :=
  ["a", "abbr", "article", "audio", "b", "blockquote", "br", "caption", "cite", "code", "del", "div",
    "dd", "dl", "dt", "em", "figcaption", "figure", "h1", "h2", "h3", "h4", "h5", "h6", "hr", "i",
    "img", "ins", "kbd", "li", "mark", "ol", "p", "pre", "q", "s", "section", "small", "source",
    "span", "strong", "sub", "sup", "table", "tbody", "td", "tfoot", "th", "thead", "time", "tr",
    "track", "u", "ul", "video"]

/-- The elements of a profile. -/
def Profile.allowsElement (profile : Profile) (name : String) : Bool :=
  postElements.contains name || (profile == .qrCode && name == "qr-code") ||
    (profile == .spoiler && name == "spoiler-span")

/-- Attributes that every element may have. -/
def isGeneralAttribute (name : String) : Bool :=
  ["class", "id", "title", "lang", "dir", "aria-hidden", "aria-label", "role"].contains name ||
    Text.startsWith name "data-"

/-- Attributes that an element may have besides the general ones. -/
def ownAttributes (element : String) : List String :=
  match element with
  | "a" => ["href", "hreflang", "target"]
  | "blockquote" | "q" => ["cite"]
  | "del" | "ins" => ["cite", "datetime"]
  | "hr" => ["align", "size", "width"]
  | "img" =>
    ["align", "alt", "height", "src", "width", "loading", "decoding", "srcset", "sizes"]
  | "ol" => ["start"]
  | "table" => ["align", "char", "charoff", "summary"]
  | "tbody" | "tfoot" | "thead" | "tr" => ["align", "char", "charoff"]
  | "td" => ["align", "char", "charoff", "colspan", "headers", "rowspan"]
  | "th" => ["align", "char", "charoff", "colspan", "headers", "rowspan", "scope"]
  | "video" =>
    ["src", "poster", "width", "height", "controls", "autoplay", "loop", "muted", "playsinline",
      "preload"]
  | "audio" => ["src", "controls", "autoplay", "loop", "muted", "preload"]
  | "source" => ["src", "type"]
  | "track" => ["src", "kind", "srclang", "label"]
  | "time" => ["datetime"]
  | "qr-code" =>
    ["contents", "style", "module-color", "position-ring-color", "position-center-color"]
  | "spoiler-span" =>
    ["scale", "min-velocity", "max-velocity", "particle-lifetime", "density", "reveal-duration",
      "spawn-stop-delay", "monitor-position", "fps"]
  | _ => []

/-- Schemes of addresses in attributes. -/
def attributeSchemes : List String :=
  ["bitcoin", "ftp", "ftps", "geo", "http", "https", "im", "irc", "ircs", "magnet", "mailto", "mms",
    "mx", "news", "nntp", "openpgp4fpr", "sip", "sms", "smsto", "ssh", "tel", "url", "webcal",
    "wtai", "xmpp"]

/-- Whether the value of an attribute is an address. -/
def isAddress (element name : String) : Bool :=
  name == "href" || name == "src" || (element == "a" && name == "ping") ||
    (element == "video" && name == "poster")

/-- Whether an address may stay: it is relative or has an allowed scheme. -/
def allowsAddress (value : String) : Bool :=
  match Url.parse value with
  | .ok url => attributeSchemes.contains url.scheme
  | .error .withoutBase => true
  | .error _ => false

/-- Whether an attribute of an element may stay. -/
def allowsAttribute (element name value : String) : Bool :=
  (isGeneralAttribute name || (ownAttributes element).contains name) &&
    (!isAddress element name || allowsAddress value)

/-- Names of elements of the vocabulary for graphics, in lower case throughout. -/
def graphicsNames : List String :=
  ["a", "animate", "circle", "defs", "desc", "discard", "ellipse", "filter", "g", "image", "line",
    "marker", "mask", "metadata", "mpath", "path", "pattern", "polygon", "polyline", "rect",
    "script", "set", "stop", "style", "svg", "switch", "symbol", "text", "title", "tspan", "use",
    "view"]

/-- Names of elements of the vocabulary for formulas. -/
def formulaNames : List String :=
  ["abs", "and", "annotation", "annotation-xml", "apply", "approx", "arccos", "arccosh", "arccot",
    "arccoth", "arccsc", "arccsch", "arcsec", "arcsech", "arcsin", "arcsinh", "arctan", "arctanh",
    "arg", "bind", "bvar", "card", "cartesianproduct", "cbytes", "ceiling", "cerror", "ci", "cn",
    "codomain", "complexes", "compose", "condition", "conjugate", "cos", "cosh", "cot", "coth",
    "cs", "csc", "csch", "csymbol", "curl", "declare", "degree", "determinant", "diff",
    "divergence", "divide", "domain", "domainofapplication", "emptyset", "eq", "equivalent",
    "eulergamma", "exists", "exp", "exponentiale", "factorial", "factorof", "false", "floor", "fn",
    "forall", "gcd", "geq", "grad", "gt", "ident", "image", "imaginary", "imaginaryi", "implies",
    "in", "infinity", "int", "integers", "intersect", "interval", "inverse", "lambda", "laplacian",
    "lcm", "leq", "limit", "list", "ln", "log", "logbase", "lowlimit", "lt", "maction",
    "maligngroup", "malignmark", "math", "matrix", "matrixrow", "max", "mean", "median", "menclose",
    "merror", "mfenced", "mfrac", "mglyph", "mi", "min", "minus", "mlabeledtr", "mlongdiv",
    "mmultiscripts", "mn", "mo", "mode", "moment", "momentabout", "mover", "mpadded", "mphantom",
    "mprescripts", "mroot", "mrow", "ms", "mscarries", "mscarry", "msgroup", "msline", "mspace",
    "msqrt", "msrow", "mstack", "mstyle", "msub", "msubsup", "msup", "mtable", "mtd", "mtext",
    "mtr", "munder", "munderover", "naturalnumbers", "neq", "none", "not", "notanumber", "notin",
    "notprsubset", "notsubset", "or", "otherwise", "outerproduct", "partialdiff", "pi", "piece",
    "piecewise", "plus", "power", "primes", "product", "prsubset", "quotient", "rationals", "real",
    "reals", "reln", "rem", "root", "scalarproduct", "sdev", "sec", "sech", "selector", "semantics",
    "sep", "set", "setdiff", "share", "sin", "sinh", "span", "subset", "sum", "tan", "tanh",
    "tendsto", "times", "transpose", "true", "union", "uplimit", "variance", "vector",
    "vectorproduct", "xor"]

/-- Whether an element stands in the vocabulary that its name belongs to, given that what encloses it
after cleaning is always HTML. One that does not would be read in another way the next time, so it is
dropped with its content. -/
def isInOwnNamespace (ns : Namespace) (name : String) : Bool :=
  match ns with
  | .svg => name == "svg"
  | .mathMl => name == "math"
  | .html =>
    !(graphicsNames.contains name || formulaNames.contains name) ||
      ["title", "style", "font", "a", "script", "span"].contains name

end DynamicContent.Html
