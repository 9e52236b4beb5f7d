import PageGuard.Text.Ascii
import PageGuard.Text.Blank
import PageGuard.Text.Search

/-!
# Styles

The style of an element is what its declarations say, and for properties that they do not name a
default that depends on the tag.  Of several declarations of a property the last one counts.
-/

namespace PageGuard.Style

open Text

/-- Property names in lower case, with their values. -/
abbrev Declarations := List (String × String)

/-- The mark of declarations that win over others; it is no part of the value. -/
def importantMark : List Char := "!important".toList

/-- The value of a declaration. -/
def declaredValue (cs : List Char) : List Char :=
  let value := trim cs
  match beforeEnd? importantMark value with
  | some value => trim value
  | none => value

/-- The declaration that a text writes, if it has a name and a value. -/
def declaration? (cs : List Char) : Option (String × String) := do
  let (name, value) ← splitAtFirst? ':' cs
  let name := (trim name).map asciiLower
  let value := declaredValue value
  if name.isEmpty || value.isEmpty then none
  else return (.ofList name, .ofList value)

/-- The declarations of a style text. -/
def declarations (text : String) : Declarations :=
  (pieces ';' text.toList).filterMap declaration?

/-- The default `display` of a tag. -/
def defaultDisplay (tag : String) : String :=
  let tag := lowerAscii tag
  if ["head", "script", "style", "title", "meta", "link", "template"].contains tag then "none"
  else if tag = "li" then "list-item"
  else if tag = "table" then "table"
  else if tag = "tr" then "table-row"
  else if tag = "td" ∨ tag = "th" then "table-cell"
  else if
    ["html", "body", "div", "section", "article", "aside", "header", "footer", "nav", "main", "p",
      "ul", "ol", "form", "h1", "h2", "h3", "h4", "h5", "h6", "blockquote", "pre",
      "figure"].contains tag
  then "block"
  else "inline"

/-- The default value of a property. -/
def defaultValue (tag property : String) : String :=
  if property = "display" then defaultDisplay tag
  else if property = "position" then "static"
  else if property = "visibility" then "visible"
  else if property = "opacity" then "1"
  else if property = "z-index" then "auto"
  else if property = "float" then "none"
  else if property = "overflow" then "visible"
  else ""

/-- The value of a property, given its name in lower case. -/
def computed (ds : Declarations) (tag property : String) : String :=
  match ds.reverse.find? fun d => d.1 = property with
  | some d => d.2
  | none => defaultValue tag property

/-! ## Probes

A filter of declarations is compared through a probe, an element whose style text is the filter
and a declaration that keeps it out of sight.  What hides the probe does not set a property that
the filter names. -/

/-- The names of the properties that a filter declares, as written. -/
def filterKeys (filter : String) : List String :=
  (pieces ';' filter.toList).map fun d => .ofList (trim (d.takeWhile (· ≠ ':')))

/-- Hides a probe whose filter leaves `display` alone. -/
def hideByDisplay : String := "display: none !important;"

/-- Hides a probe whose filter names `display`. -/
def hideByVisibility : String := "visibility: hidden !important; position: absolute !important;"

/-- The style text of the probe of a filter. -/
def probeText (filter : String) : String :=
  let separator := if filter.toList.getLast? = some ';' then " " else "; "
  let hide :=
    if (filterKeys filter).any fun k => lowerAscii k = "display" then hideByVisibility
    else hideByDisplay
  filter ++ separator ++ hide

end PageGuard.Style
