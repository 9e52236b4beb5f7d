import PageGuard.Markup.Token

/-!
# Kinds of elements

Sets of element names that decide how a tag changes the page, and the adjustments of the names of
elements and attributes outside HTML.
-/

namespace PageGuard.Markup

/-! ## HTML elements -/

/-- Elements without content. -/
def voidNames : List String :=
  ["area", "base", "basefont", "bgsound", "br", "col", "embed", "frame", "hr", "img", "input",
    "keygen", "link", "meta", "param", "source", "track", "wbr"]

/-- Elements whose text is written as it stands. -/
def rawTextNames : List String :=
  ["style", "script", "xmp", "iframe", "noembed", "noframes", "plaintext"]

/-- Headings. -/
def headingNames : List String := ["h1", "h2", "h3", "h4", "h5", "h6"]

/-- Formatting elements. -/
def formattingNames : List String :=
  ["a", "b", "big", "code", "em", "font", "i", "nobr", "s", "small", "strike", "strong", "tt", "u"]

/-- Elements that end an enclosing paragraph and may hold blocks. -/
def blockNames : List String :=
  ["address", "article", "aside", "blockquote", "center", "details", "dialog", "dir", "div", "dl",
    "fieldset", "figcaption", "figure", "footer", "header", "hgroup", "main", "menu", "nav", "ol",
    "p", "search", "section", "summary", "ul"]

/-- Elements between which text goes in front of the table. -/
def tableNames : List String := ["table", "tbody", "tfoot", "thead", "tr"]

/-- Groups of table rows. -/
def rowGroupNames : List String := ["tbody", "tfoot", "thead"]

/-- Table cells. -/
def cellNames : List String := ["td", "th"]

/-- Elements whose end tags may be left out. -/
def impliedEndNames : List String :=
  ["dd", "dt", "li", "optgroup", "option", "p", "rb", "rp", "rt", "rtc"]

/-- Elements whose end tags may be left out at the end of a template. -/
def thoroughEndNames : List String :=
  impliedEndNames ++ ["caption", "colgroup", "tbody", "td", "tfoot", "th", "thead", "tr"]

/-- Special elements of HTML. -/
def specialNames : List String :=
  ["address", "applet", "area", "article", "aside", "base", "basefont", "bgsound", "blockquote",
    "body", "br", "button", "caption", "center", "col", "colgroup", "dd", "details", "dir", "div",
    "dl", "dt", "embed", "fieldset", "figcaption", "figure", "footer", "form", "frame", "frameset",
    "h1", "h2", "h3", "h4", "h5", "h6", "head", "header", "hgroup", "hr", "html", "iframe", "img",
    "input", "isindex", "li", "link", "listing", "main", "marquee", "menu", "meta", "nav",
    "noembed", "noframes", "noscript", "object", "ol", "p", "param", "plaintext", "pre", "script",
    "section", "select", "source", "style", "summary", "table", "tbody", "td", "template",
    "textarea", "tfoot", "th", "thead", "title", "tr", "track", "ul", "wbr", "xmp"]

/-- Elements of MathML that hold text. -/
def mathTextNames : List String := ["mi", "mo", "mn", "ms", "mtext"]

/-- Elements of SVG that hold HTML. -/
def svgHtmlNames : List String := ["foreignObject", "desc", "title"]

namespace Element

/-- A special element. -/
def isSpecial (e : Element) : Bool :=
  match e.space with
  | .html => specialNames.contains e.name
  | .mathml => mathTextNames.contains e.name || e.name == "annotation-xml"
  | .svg => svgHtmlNames.contains e.name

/-- An element that bounds the search for an element in scope. -/
def boundsScope (e : Element) : Bool :=
  match e.space with
  | .html =>
    ["applet", "caption", "html", "table", "td", "th", "marquee", "object", "template"].contains
      e.name
  | .mathml => mathTextNames.contains e.name || e.name == "annotation-xml"
  | .svg => svgHtmlNames.contains e.name

/-- An element that bounds the search in list item scope. -/
def boundsListScope (e : Element) : Bool := e.boundsScope || e.isHtml ["ol", "ul"]

/-- An element that bounds the search in button scope. -/
def boundsButtonScope (e : Element) : Bool := e.boundsScope || e.isHtml ["button"]

/-- An element that bounds the search in table scope. -/
def boundsTableScope (e : Element) : Bool := e.isHtml ["html", "table", "template"]

/-- An element that bounds the search in select scope. -/
def boundsSelectScope (e : Element) : Bool := !e.isHtml ["optgroup", "option"]

/-- An element of MathML in which text and most start tags are HTML. -/
def holdsMathText (e : Element) : Bool := e.space = .mathml && mathTextNames.contains e.name

/-- An annotation that declares its content to be HTML. -/
def isHtmlAnnotation (e : Element) : Bool :=
  e.space = .mathml && e.name = "annotation-xml" &&
    match e.attribute? "encoding" with
    | some v =>
      let v := Text.lowerAscii v
      v == "text/html" || v == "application/xhtml+xml"
    | none => false

/-- An element in which everything is HTML. -/
def holdsHtml (e : Element) : Bool :=
  (e.space = .svg && svgHtmlNames.contains e.name) || e.isHtmlAnnotation

end Element

/-! ## Legacy documents -/

/-- Starts of public identifiers of legacy documents. -/
def legacyStarts : List String := [
  "-//advasoft ltd//dtd html 3.0 aswedit + extensions//",
  "-//as//dtd html 3.0 aswedit + extensions//",
  "-//ietf//dtd html 2.0 level 1//", "-//ietf//dtd html 2.0 level 2//",
  "-//ietf//dtd html 2.0 strict level 1//", "-//ietf//dtd html 2.0 strict level 2//",
  "-//ietf//dtd html 2.0 strict//", "-//ietf//dtd html 2.0//", "-//ietf//dtd html 2.1e//",
  "-//ietf//dtd html 3.0//", "-//ietf//dtd html 3.2 final//", "-//ietf//dtd html 3.2//",
  "-//ietf//dtd html 3//", "-//ietf//dtd html level 0//", "-//ietf//dtd html level 1//",
  "-//ietf//dtd html level 2//", "-//ietf//dtd html level 3//",
  "-//ietf//dtd html strict level 0//", "-//ietf//dtd html strict level 1//",
  "-//ietf//dtd html strict level 2//", "-//ietf//dtd html strict level 3//",
  "-//ietf//dtd html strict//", "-//ietf//dtd html//",
  "-//metrius//dtd metrius presentational//",
  "-//microsoft//dtd internet explorer 2.0 html strict//",
  "-//microsoft//dtd internet explorer 2.0 html//",
  "-//microsoft//dtd internet explorer 2.0 tables//",
  "-//microsoft//dtd internet explorer 3.0 html strict//",
  "-//microsoft//dtd internet explorer 3.0 html//",
  "-//microsoft//dtd internet explorer 3.0 tables//",
  "-//netscape comm. corp.//dtd html//", "-//netscape comm. corp.//dtd strict html//",
  "-//o'reilly and associates//dtd html 2.0//",
  "-//o'reilly and associates//dtd html extended 1.0//",
  "-//o'reilly and associates//dtd html extended relaxed 1.0//",
  "-//softquad software//dtd hotmetal pro 6.0::19990601::extensions to html 4.0//",
  "-//softquad//dtd hotmetal pro 4.0::19971010::extensions to html 4.0//",
  "-//spyglass//dtd html 2.0 extended//", "-//sq//dtd html 2.0 hotmetal + extensions//",
  "-//sun microsystems corp.//dtd hotjava html//",
  "-//sun microsystems corp.//dtd hotjava strict html//",
  "-//w3c//dtd html 3 1995-03-24//", "-//w3c//dtd html 3.2 draft//",
  "-//w3c//dtd html 3.2 final//", "-//w3c//dtd html 3.2//", "-//w3c//dtd html 3.2s draft//",
  "-//w3c//dtd html 4.0 frameset//", "-//w3c//dtd html 4.0 transitional//",
  "-//w3c//dtd html experimental 19960712//", "-//w3c//dtd html experimental 970421//",
  "-//w3c//dtd w3 html//", "-//w3o//dtd w3 html 3.0//", "-//webtechs//dtd mozilla html 2.0//",
  "-//webtechs//dtd mozilla html//"]

/-- Public identifiers of legacy documents. -/
def legacyIds : List String :=
  ["-//w3o//dtd w3 html strict 3.0//en//", "-/w3c/dtd html 4.0 transitional/en", "html"]

/-- Starts of public identifiers of legacy documents when there is no system
identifier. -/
def legacyWithoutSystem : List String :=
  ["-//w3c//dtd html 4.01 frameset//", "-//w3c//dtd html 4.01 transitional//"]

/-- Whether a document type makes the page a legacy one, where a table may stand in a
paragraph. -/
def Doctype.isLegacy (d : Doctype) : Bool :=
  let publicId := Text.lowerAscii (d.publicId.getD "")
  let systemId := d.systemId.map Text.lowerAscii
  let startsWith (s : String) := s.toList.isPrefixOf publicId.toList
  d.forceLegacy || d.name != "html" || legacyIds.contains publicId ||
    systemId == some "http://www.ibm.com/data/dtd/v11/ibmxhtml1-transitional.dtd" ||
    legacyStarts.any startsWith || (systemId.isNone && legacyWithoutSystem.any startsWith)

/-! ## Elements outside HTML -/

/-- Start tags that end SVG and MathML. -/
def breakoutNames : List String :=
  ["b", "big", "blockquote", "body", "br", "center", "code", "dd", "div", "dl", "dt", "em",
    "embed", "h1", "h2", "h3", "h4", "h5", "h6", "head", "hr", "i", "img", "li", "listing", "menu",
    "meta", "nobr", "ol", "p", "pre", "ruby", "s", "small", "span", "strong", "strike", "sub",
    "sup", "table", "tt", "u", "ul", "var"]

/-- Names of SVG elements with capitals. -/
def svgNames : List String :=
  ["altGlyph", "altGlyphDef", "altGlyphItem", "animateColor", "animateMotion", "animateTransform",
    "clipPath", "feBlend", "feColorMatrix", "feComponentTransfer", "feComposite",
    "feConvolveMatrix", "feDiffuseLighting", "feDisplacementMap", "feDistantLight", "feDropShadow",
    "feFlood", "feFuncA", "feFuncB", "feFuncG", "feFuncR", "feGaussianBlur", "feImage", "feMerge",
    "feMergeNode", "feMorphology", "feOffset", "fePointLight", "feSpecularLighting", "feSpotLight",
    "feTile", "feTurbulence", "foreignObject", "glyphRef", "linearGradient", "radialGradient",
    "textPath"]

/-- Names of SVG attributes with capitals. -/
def svgAttributeNames : List String :=
  ["attributeName", "attributeType", "baseFrequency", "baseProfile", "calcMode", "clipPathUnits",
    "diffuseConstant", "edgeMode", "filterUnits", "glyphRef", "gradientTransform", "gradientUnits",
    "kernelMatrix", "kernelUnitLength", "keyPoints", "keySplines", "keyTimes", "lengthAdjust",
    "limitingConeAngle", "markerHeight", "markerUnits", "markerWidth", "maskContentUnits",
    "maskUnits", "numOctaves", "pathLength", "patternContentUnits", "patternTransform",
    "patternUnits", "pointsAtX", "pointsAtY", "pointsAtZ", "preserveAlpha", "preserveAspectRatio",
    "primitiveUnits", "refX", "refY", "repeatCount", "repeatDur", "requiredExtensions",
    "requiredFeatures", "specularConstant", "specularExponent", "spreadMethod", "startOffset",
    "stdDeviation", "stitchTiles", "surfaceScale", "systemLanguage", "tableValues", "targetX",
    "targetY", "textLength", "viewBox", "viewTarget", "xChannelSelector", "yChannelSelector",
    "zoomAndPan"]

/-- The name among `names` that a name in lower case stands for, or itself. -/
def recased (names : List String) (name : String) : String :=
  (names.find? fun n => Text.lowerAscii n = name).getD name

/-- Attributes with a namespace, as written: the space and the name in it. -/
def spacedAttributes : List (String × AttributeSpace × String) := [
  ("xlink:actuate", .xlink, "actuate"), ("xlink:arcrole", .xlink, "arcrole"),
  ("xlink:href", .xlink, "href"), ("xlink:role", .xlink, "role"), ("xlink:show", .xlink, "show"),
  ("xlink:title", .xlink, "title"), ("xlink:type", .xlink, "type"), ("xml:lang", .xml, "lang"),
  ("xml:space", .xml, "space"), ("xmlns", .xmlns, "xmlns"), ("xmlns:xlink", .xmlns, "xlink")]

/-- An attribute of an element in a space other than HTML. -/
def foreignAttribute (space : Space) (a : Attribute) : Attribute :=
  match spacedAttributes.find? fun s => s.1 = a.name with
  | some (_, attributeSpace, name) => { a with space := attributeSpace, name }
  | none =>
    match space with
    | .svg => { a with name := recased svgAttributeNames a.name }
    | .mathml => if a.name = "definitionurl" then { a with name := "definitionURL" } else a
    | .html => a

end PageGuard.Markup
