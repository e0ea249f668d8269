import Shorthand.Text.Basic

/-!
# `Shorthand.Stylesheet.Vocabulary`: properties and their short names

The tables behind stylesheet abbreviations, in the order in which they are
searched.
-/

set_option autoImplicit false

namespace Shorthand

namespace Stylesheet

/-- Properties by short name. -/
def properties : List (String × String) := [
  ("pos", "position"), ("t", "top"), ("r", "right"), ("b", "bottom"), ("l", "left"),
  ("z", "z-index"), ("d", "display"), ("fl", "float"), ("cl", "clear"), ("v", "visibility"),
  ("ov", "overflow"), ("ovx", "overflow-x"), ("ovy", "overflow-y"), ("bxz", "box-sizing"),
  ("w", "width"), ("h", "height"), ("maw", "max-width"), ("mah", "max-height"),
  ("miw", "min-width"), ("mih", "min-height"), ("m", "margin"), ("mt", "margin-top"),
  ("mr", "margin-right"), ("mb", "margin-bottom"), ("ml", "margin-left"), ("p", "padding"),
  ("pt", "padding-top"), ("pr", "padding-right"), ("pb", "padding-bottom"),
  ("pl", "padding-left"), ("bd", "border"), ("bdt", "border-top"), ("bdr", "border-right"),
  ("bdb", "border-bottom"), ("bdl", "border-left"), ("bdc", "border-color"),
  ("bds", "border-style"), ("bdw", "border-width"), ("bdrs", "border-radius"),
  ("bg", "background"), ("bgc", "background-color"), ("bgi", "background-image"),
  ("bgr", "background-repeat"), ("bgp", "background-position"), ("bgsz", "background-size"),
  ("c", "color"), ("op", "opacity"), ("ff", "font-family"), ("fz", "font-size"),
  ("fw", "font-weight"), ("fs", "font-style"), ("lh", "line-height"), ("ta", "text-align"),
  ("td", "text-decoration"), ("tt", "text-transform"), ("ti", "text-indent"),
  ("tsh", "text-shadow"), ("lts", "letter-spacing"), ("ws", "white-space"),
  ("va", "vertical-align"), ("cur", "cursor"), ("ol", "outline"), ("trf", "transform"),
  ("trs", "transition"), ("anim", "animation"), ("bsh", "box-shadow"), ("cnt", "content"),
  ("lis", "list-style"), ("list", "list-style-type"), ("fx", "flex"),
  ("fxd", "flex-direction"), ("fxw", "flex-wrap"), ("fxg", "flex-grow"),
  ("fxsh", "flex-shrink"), ("fxb", "flex-basis"), ("jc", "justify-content"),
  ("ai", "align-items"), ("ac", "align-content"), ("as", "align-self"), ("ord", "order"),
  ("gap", "gap"), ("g", "grid"), ("gtc", "grid-template-columns"),
  ("gtr", "grid-template-rows"), ("zm", "zoom")]

/-- Whole declarations by short name. -/
def declarations : List (String × String) := [
  ("d:n", "display: none"), ("d:b", "display: block"), ("d:i", "display: inline"),
  ("d:ib", "display: inline-block"), ("d:f", "display: flex"),
  ("d:if", "display: inline-flex"), ("d:g", "display: grid"), ("dn", "display: none"),
  ("db", "display: block"), ("dib", "display: inline-block"), ("df", "display: flex"),
  ("dg", "display: grid"), ("pos:a", "position: absolute"), ("pos:r", "position: relative"),
  ("pos:f", "position: fixed"), ("pos:s", "position: static"),
  ("posa", "position: absolute"), ("posr", "position: relative"), ("fl:l", "float: left"),
  ("fl:r", "float: right"), ("fl:n", "float: none"), ("cl:b", "clear: both"),
  ("ta:c", "text-align: center"), ("ta:l", "text-align: left"),
  ("ta:r", "text-align: right"), ("ta:j", "text-align: justify"),
  ("tac", "text-align: center"), ("fw:b", "font-weight: bold"),
  ("fw:n", "font-weight: normal"), ("fwb", "font-weight: bold"),
  ("fs:i", "font-style: italic"), ("td:n", "text-decoration: none"),
  ("td:u", "text-decoration: underline"), ("tt:u", "text-transform: uppercase"),
  ("ov:h", "overflow: hidden"), ("ov:a", "overflow: auto"), ("ov:s", "overflow: scroll"),
  ("v:h", "visibility: hidden"), ("bxz:bb", "box-sizing: border-box"),
  ("cur:p", "cursor: pointer"), ("jc:c", "justify-content: center"),
  ("jc:sb", "justify-content: space-between"), ("ai:c", "align-items: center"),
  ("fxd:c", "flex-direction: column"), ("fxd:r", "flex-direction: row"),
  ("fxw:w", "flex-wrap: wrap"), ("m:a", "margin: auto"), ("bd:n", "border: none")]

/-- Values by the short names that may follow a colon. -/
def keywords : List (String × String) := [
  ("a", "auto"), ("n", "none"), ("i", "inherit"), ("t", "transparent")]

/-- Properties whose numbers take no unit. -/
def unitless : List String := [
  "z-index", "opacity", "line-height", "font-weight", "flex-grow", "flex-shrink", "order",
  "zoom", "flex"]

/-- Grammars by indentation, whose declarations end without a semicolon. -/
def indented : List String := ["sass", "stylus", "sss"]

/-- The entry of a short name. -/
def find? (table : List (String × String)) (name : Text) : Option Text :=
  (table.find? fun entry => entry.1.toList == name).map fun entry => entry.2.toList

end Stylesheet

end Shorthand
