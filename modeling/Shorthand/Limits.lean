/-!
# `Shorthand.Limits`: bounds on what an abbreviation may ask for

An abbreviation is short and its expansion need not be. These bounds keep every
expansion finite and small.
-/

set_option autoImplicit false

namespace Shorthand

/-- A repeat count above this one counts as this one. -/
def maxRepeat : Nat := 1000

/-- Nesting levels, through children and groups alike. -/
def maxDepth : Nat := 64

/-- Snippets that refer to other snippets are followed this many times. -/
def maxSnippetDepth : Nat := 8

/-- Elements and texts that one expansion may produce. -/
def maxNodes : Nat := 10000

end Shorthand
