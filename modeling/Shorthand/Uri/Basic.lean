import Shorthand.Host.Basic

/-!
# `Shorthand.Uri.Basic`: identifiers of documents and files

An identifier in its parts, each in normal form, and the text of the whole. Two
spellings of one identifier have the same parts and so the same text, which documents
are known by.
-/

set_option autoImplicit false

namespace Shorthand

namespace Uri

/-- Who answers for an identifier. -/
structure Authority where
  /-- The user with a password behind a colon, both escaped. -/
  user : Text := []
  host : Host := .absent
  /-- The number of a service that is not the usual one of the scheme. -/
  service : Option Nat := none
  deriving DecidableEq, Repr

/-- An authority as it is written. -/
def Authority.toText (a : Authority) : Text :=
  (if a.user = [] then [] else a.user ++ ['@']) ++ a.host.toText ++
    match a.service with
    | some n => ':' :: Text.ofNat n
    | none => []

/-- A path, escaped. -/
inductive Path where
  /-- Segments from the root on. Without any segment there is no path. -/
  | rooted (segments : List Text)
  /-- A text without structure. -/
  | flat (text : Text)
  deriving DecidableEq, Repr

namespace Path

/-- A path as it is written. -/
def toText : Path → Text
  | .rooted segments => segments.flatMap ('/' :: ·)
  | .flat text => text

/-- Whether the text of a path would be read as an authority if nothing stood before it. -/
def looksLikeAuthority : Path → Bool
  | .rooted ([] :: _ :: _) => true
  | _ => false

end Path

end Uri

/-- An identifier in normal form. -/
structure Uri where
  scheme : Text
  authority : Option Uri.Authority := none
  path : Uri.Path := .rooted []
  query : Option Text := none
  fragment : Option Text := none
  deriving DecidableEq, Repr

namespace Uri

/-- The text of an identifier. -/
def toText (u : Uri) : Text :=
  let part (mark : Text) : Option Text → Text
    | some t => mark ++ t
    | none => []
  let guard : Text := if u.authority.isNone ∧ u.path.looksLikeAuthority then ['/', '.'] else []
  u.scheme ++ [':'] ++ part ['/', '/'] (u.authority.map Authority.toText) ++ guard ++
    u.path.toText ++ part ['?'] u.query ++ part ['#'] u.fragment

end Uri

end Shorthand
