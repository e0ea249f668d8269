import Shorthand.Text.Basic

/-!
# `Shorthand.Markup.Vocabulary`: names of elements

Which elements stand on one line with their neighbours, which never close, which
hold raw text, and which name an element without one takes below a given parent.
-/

set_option autoImplicit false

namespace Shorthand

namespace Markup

/-- Elements that never have a closing tag. -/
def voidNames : List String := [
  "area", "base", "br", "col", "embed", "hr", "img", "input", "link", "meta", "param",
  "source", "track", "wbr"]

/-- Elements kept on one line with their neighbours. -/
def inlineNames : List String := [
  "a", "abbr", "acronym", "b", "bdi", "bdo", "big", "br", "button", "cite", "code", "del",
  "dfn", "em", "i", "img", "input", "ins", "kbd", "label", "mark", "q", "s", "samp",
  "select", "small", "span", "strike", "strong", "sub", "sup", "textarea", "time", "tt",
  "u", "var"]

/-- Names of elements that are worth completing. -/
def tagNames : List String := [
  "a", "abbr", "address", "area", "article", "aside", "audio", "b", "base", "bdi", "bdo",
  "blockquote", "body", "br", "button", "canvas", "caption", "cite", "code", "col",
  "colgroup", "data", "datalist", "dd", "del", "details", "dfn", "dialog", "div", "dl",
  "dt", "em", "embed", "fieldset", "figcaption", "figure", "footer", "form", "h1", "h2",
  "h3", "h4", "h5", "h6", "head", "header", "hgroup", "hr", "html", "i", "iframe", "img",
  "input", "ins", "kbd", "label", "legend", "li", "link", "main", "map", "mark", "menu",
  "meta", "meter", "nav", "noscript", "object", "ol", "optgroup", "option", "output", "p",
  "picture", "pre", "progress", "q", "rp", "rt", "ruby", "s", "samp", "script", "section",
  "select", "slot", "small", "source", "span", "strong", "style", "sub", "summary", "sup",
  "table", "tbody", "td", "template", "textarea", "tfoot", "th", "thead", "time", "title",
  "tr", "track", "u", "ul", "var", "video", "wbr"]

/-- Whether an element never has a closing tag, in any letter case. -/
def isVoid (name : Text) : Bool :=
  Text.oneOf voidNames (Text.toLower name)

/-- Whether an element stays on one line with its neighbours, in any letter case. -/
def isInlineName (name : Text) : Bool :=
  Text.oneOf inlineNames (Text.toLower name)

/-- Whether an element's body is raw text without tags, in any letter case. -/
def isRawText (name : Text) : Bool :=
  Text.oneOf ["script", "style"] (Text.toLower name)

/-- Whether the children of an element stand at its own depth. -/
def skipsIndent (name : Text) : Bool :=
  Text.oneOf ["html"] name

/-- Whether an element is always a block, even without children. -/
def forcesBlock (name : Text) : Bool :=
  Text.oneOf ["body"] name

/-- The name of an element written without one, by the name of its parent. -/
def implicitName : Option Text → Text
  | none => "div"
  | some parent =>
    let parent := Text.toLower parent
    if Text.oneOf ["ul", "ol"] parent then "li"
    else if Text.oneOf ["table", "tbody", "thead", "tfoot"] parent then "tr"
    else if Text.oneOf ["tr"] parent then "td"
    else if Text.oneOf ["select", "optgroup"] parent then "option"
    else if Text.oneOf ["audio", "video"] parent then "source"
    else if Text.oneOf ["map"] parent then "area"
    else if Text.oneOf ["colgroup"] parent then "col"
    else if Text.oneOf inlineNames parent then "span"
    else "div"

end Markup

end Shorthand
