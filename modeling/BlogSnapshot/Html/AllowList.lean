import BlogSnapshot.Html.Element

/-! What a page may contain: the elements, their attributes, and the schemes of links.
-/

namespace BlogSnapshot.Html

/-- The elements that stay. -/
def allowedWords : List String :=
  [
    "a", "abbr", "acronym", "area", "article", "aside", "b", "bdi", "bdo", "blockquote", "br",
    "caption", "center", "cite", "code", "col", "colgroup", "data", "dd", "del", "details",
    "dfn", "div", "dl", "dt", "em", "figcaption", "figure", "footer", "h1", "h2", "h3", "h4",
    "h5", "h6", "header", "hgroup", "hr", "i", "img", "ins", "kbd", "li", "map", "mark", "nav",
    "ol", "p", "pre", "q", "rp", "rt", "rtc", "ruby", "s", "samp", "small", "span", "strike",
    "strong", "sub", "summary", "sup", "table", "tbody", "td", "th", "thead", "time", "tr",
    "tt", "u", "ul", "var", "wbr"
  ]

/-- The elements that go together with their content. -/
def droppedWords : List String :=
  ["script", "style"]

/-- The attributes that every element may have. -/
def commonAttributes : List String :=
  ["lang", "title"]

/-- The further attributes of an element. -/
def ownAttributes (word : String) : List String :=
  match word with
  | "a" => ["href", "hreflang"]
  | "bdo" => ["dir"]
  | "blockquote" | "q" => ["cite"]
  | "col" | "colgroup" => ["align", "char", "charoff", "span"]
  | "del" | "ins" => ["cite", "datetime"]
  | "hr" => ["align", "size", "width"]
  | "img" => ["align", "alt", "height", "src", "width"]
  | "ol" => ["start"]
  | "table" => ["align", "char", "charoff", "summary"]
  | "tbody" | "tfoot" | "thead" | "tr" => ["align", "char", "charoff"]
  | "td" => ["align", "char", "charoff", "colspan", "headers", "rowspan"]
  | "th" => ["align", "char", "charoff", "colspan", "headers", "rowspan", "scope"]
  | _ => []

/-- The attributes whose value is the address of a link. -/
def linkAttributes : List String :=
  ["href", "src"]

/-- The schemes that a link may have. -/
def allowedSchemes : List String :=
  [
    "bitcoin", "ftp", "ftps", "geo", "http", "https", "im", "irc", "ircs", "magnet", "mailto",
    "mms", "mx", "news", "nntp", "openpgp4fpr", "sip", "sms", "smsto", "ssh", "tel", "url",
    "webcal", "wtai", "xmpp"
  ]

/-- Names of elements of a drawing. An element of HTML of such a name is out of place. -/
def drawingWords : List String :=
  [
    "animate", "circle", "defs", "desc", "discard", "ellipse", "filter", "g", "image", "line",
    "marker", "mask", "metadata", "mpath", "path", "pattern", "polygon", "polyline", "rect",
    "set", "stop", "svg", "switch", "symbol", "text", "tspan", "use", "view"
  ]

/-- Names of elements of a formula. An element of HTML of such a name is out of place. -/
def formulaWords : List String :=
  [
    "abs", "and", "annotation", "annotation-xml", "apply", "approx", "arccos", "arccosh",
    "arccot", "arccoth", "arccsc", "arccsch", "arcsec", "arcsech", "arcsin", "arcsinh",
    "arctan", "arctanh", "arg", "bind", "bvar", "card", "cartesianproduct", "cbytes",
    "ceiling", "cerror", "ci", "cn", "codomain", "complexes", "compose", "condition",
    "conjugate", "cos", "cosh", "cot", "coth", "cs", "csc", "csch", "csymbol", "curl",
    "declare", "degree", "determinant", "diff", "divergence", "divide", "domain",
    "domainofapplication", "emptyset", "encoding", "eq", "equivalent", "eulergamma",
    "exists", "exp", "exponentiale", "factorial", "factorof", "false", "floor", "fn",
    "forall", "function", "gcd", "geq", "grad", "gt", "ident", "image", "imaginary",
    "imaginaryi", "implies", "in", "infinity", "int", "integers", "intersect", "interval",
    "inverse", "lambda", "laplacian", "lcm", "leq", "limit", "list", "ln", "log", "logbase",
    "lowlimit", "lt", "maction", "maligngroup", "malignmark", "math", "matrix", "matrixrow",
    "max", "mean", "median", "menclose", "merror", "mfenced", "mfrac", "mglyph", "mi", "min",
    "minus", "mlabeledtr", "mlongdiv", "mmultiscripts", "mn", "mo", "mode", "moment",
    "momentabout", "mover", "mpadded", "mphantom", "mprescripts", "mroot", "mrow", "ms",
    "mscarries", "mscarry", "msgroup", "msline", "mspace", "msqrt", "msrow", "mstack",
    "mstyle", "msub", "msubsup", "msup", "mtable", "mtd", "mtext", "mtr", "munder",
    "munderover", "naturalnumbers", "neq", "none", "not", "notanumber", "notin",
    "notprsubset", "notsubset", "or", "otherwise", "outerproduct", "partialdiff", "pi",
    "piece", "piecewise", "plus", "power", "primes", "product", "prsubset", "quotient",
    "rationals", "real", "reals", "reln", "rem", "root", "scalarproduct", "sdev", "sec",
    "sech", "selector", "semantics", "sep", "set", "setdiff", "share", "sin", "sinh",
    "subset", "sum", "tan", "tanh", "tendsto", "times", "transpose", "true", "union",
    "uplimit", "variance", "vector", "vectorproduct", "xor"
  ]

end BlogSnapshot.Html
