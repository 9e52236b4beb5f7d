import PageGuard.Markup.Category

/-!
# Text of a page

Nodes are written as HTML.  Attribute values stand between double quotes, void elements have no
end tag, and the text of scripts and styles is written as it stands.
-/

namespace PageGuard.Markup

/-- A character of the text of an element. -/
def textEscape (c : Char) : List Char :=
  if c = '&' then "&amp;".toList
  else if c.toNat = 0xA0 then "&nbsp;".toList
  else if c = '<' then "&lt;".toList
  else if c = '>' then "&gt;".toList
  else [c]

/-- A character of an attribute value. -/
def attributeEscape (c : Char) : List Char :=
  if c = '&' then "&amp;".toList
  else if c.toNat = 0xA0 then "&nbsp;".toList
  else if c = '"' then "&quot;".toList
  else [c]

/-- The name of an attribute with the mark of its namespace. -/
def Attribute.qualifiedName (a : Attribute) : String :=
  match a.space with
  | .plain => a.name
  | .xlink => "xlink:" ++ a.name
  | .xml => "xml:" ++ a.name
  | .xmlns => if a.name = "xmlns" then a.name else "xmlns:" ++ a.name

/-- The text of an attribute, after a space. -/
def Attribute.render (a : Attribute) : List Char :=
  ' ' :: a.qualifiedName.toList ++ "=\"".toList ++ a.value.toList.flatMap attributeEscape ++ ['"']

/-- The start tag of an element. -/
def Element.startTag (e : Element) : List Char :=
  '<' :: e.name.toList ++ e.attributes.flatMap Attribute.render ++ ['>']

/-- The end tag of an element. -/
def Element.endTag (e : Element) : List Char :=
  "</".toList ++ e.name.toList ++ ['>']

mutual

/-- The text of a node; `raw` tells whether text is written as it stands. -/
def Node.render (raw : Bool) : Node → List Char
  | .element e cs =>
    if e.isHtml voidNames then e.startTag
    else e.startTag ++ Node.renderAll (e.isHtml rawTextNames) cs ++ e.endTag
  | .text s => if raw then s.toList else s.toList.flatMap textEscape
  | .comment s => "<!--".toList ++ s.toList ++ "-->".toList
  | .doctype name => "<!DOCTYPE ".toList ++ name.toList ++ ['>']
  | .fragment cs => Node.renderAll raw cs

/-- The text of nodes. -/
def Node.renderAll (raw : Bool) : List Node → List Char
  | [] => []
  | n :: ns => Node.render raw n ++ Node.renderAll raw ns

end

/-- The text of a page. -/
def pageText (nodes : List Node) : String := .ofList (Node.renderAll false nodes)

end PageGuard.Markup
