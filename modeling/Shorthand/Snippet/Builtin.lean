import Shorthand.Text.Basic

/-!
# `Shorthand.Snippet.Builtin`: snippets that need no extension

Names of markup snippets with the abbreviations they stand for. `lang` and
`charset` are variables that have values before the abbreviation is read.
-/

set_option autoImplicit false

namespace Shorthand

namespace Snippet

/-- Markup snippets by name. -/
def builtin : List (String × String) := [
  ("!", "\x7b<!DOCTYPE html>\x7d+html[lang=$\x7blang\x7d]>(head>meta[charset=$\x7bcharset\x7d]+meta:vp+title\x7bDocument\x7d)+body"),
  ("doc", "html[lang=$\x7blang\x7d]>(head>meta[charset=$\x7bcharset\x7d]+meta:vp+title\x7bDocument\x7d)+body"),
  ("!!!", "\x7b<!DOCTYPE html>\x7d"),
  ("a", "a[href]"),
  ("a:link", "a[href=\"http://\"]"),
  ("a:mail", "a[href=\"mailto:\"]"),
  ("abbr", "abbr[title]"),
  ("base", "base[href]"),
  ("bdo", "bdo[dir]"),
  ("btn", "button"),
  ("btn:s", "button[type=submit]"),
  ("btn:r", "button[type=reset]"),
  ("form", "form[action]"),
  ("form:get", "form[action method=get]"),
  ("form:post", "form[action method=post]"),
  ("iframe", "iframe[src frameborder=0]"),
  ("img", "img[src alt]"),
  ("input", "input[type=text]"),
  ("inp", "input[type=text name id]"),
  ("input:hidden", "input[type=hidden name]"),
  ("input:h", "input[type=hidden name]"),
  ("input:email", "input[type=email name id]"),
  ("input:password", "input[type=password name id]"),
  ("input:checkbox", "input[type=checkbox name id]"),
  ("input:c", "input[type=checkbox name id]"),
  ("input:radio", "input[type=radio name id]"),
  ("input:r", "input[type=radio name id]"),
  ("input:submit", "input[type=submit value]"),
  ("input:s", "input[type=submit value]"),
  ("label", "label[for]"),
  ("link", "link[rel=stylesheet href]"),
  ("link:css", "link[rel=stylesheet href=style.css]"),
  ("meta:utf", "meta[http-equiv=Content-Type content=\"text/html;charset=UTF-8\"]"),
  ("meta:vp", "meta[name=viewport content=\"width=device-width, initial-scale=1.0\"]"),
  ("opt", "option[value]"),
  ("option", "option[value]"),
  ("script:src", "script[src]"),
  ("select", "select[name id]"),
  ("textarea", "textarea[name cols=30 rows=10]"),
  ("ol+", "ol>li"),
  ("ul+", "ul>li"),
  ("dl+", "dl>dt+dd"),
  ("table+", "table>tr>td"),
  ("tr+", "tr>td"),
  ("select+", "select>option")
]

/-- The abbreviation of a built-in markup snippet. -/
def builtin? (name : Text) : Option Text :=
  (builtin.find? fun entry => entry.1.toList == name).map fun entry => entry.2.toList

/-- Names of the built-in markup snippets. -/
def builtinNames : List Text :=
  builtin.map fun entry => entry.1.toList

end Snippet

end Shorthand
