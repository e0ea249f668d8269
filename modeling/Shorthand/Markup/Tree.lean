import Shorthand.Abbreviation.Node
import Shorthand.Limits
import Shorthand.Markup.Counter
import Shorthand.Markup.Vocabulary

/-!
# `Shorthand.Markup.Tree`: the elements that are written out

Unrolling turns a forest of abbreviation nodes into the trees of the output:
repeats are written out, groups disappear, counter tokens become numbers, and
elements without a name get one. Every tree node takes one from a budget that the
whole expansion shares.

A counter token without a number crashes the program. `tryUnroll` says where, and
`unroll` is its result everywhere else.
-/

set_option autoImplicit false

namespace Shorthand

/-- A node of the output. -/
inductive Tree where
  /-- An element with its tags. -/
  | element (name : Text) (attributes : List Attribute) (text : Option Text)
      (selfClosing : Bool) (children : List Tree)
  /-- Bare text. -/
  | text (content : Text)
  deriving Repr

namespace Markup

/-- Runs a step for each counter, and hands the rest of the budget on. -/
def forCopies (step : Counter → Nat → Option (List Tree × Nat)) :
    List Counter → Nat → Option (List Tree × Nat)
  | [], budget => some ([], budget)
  | counter :: rest, budget =>
    match step counter budget with
    | none => none
    | some (trees, budget) =>
      match forCopies step rest budget with
      | none => none
      | some (more, budget) => some (trees ++ more, budget)

/-- An attribute with its counter tokens numbered. -/
def numberAttribute (counter : Counter) (a : Attribute) : Attribute :=
  ⟨counter.number a.name, a.value.map counter.number⟩

/-- The name of an element below a parent. -/
def elementName (parent : Option Text) (counter : Counter) (head : Element) : Text :=
  match head.name with
  | some name => counter.number name
  | none => implicitName parent

mutual

/-- The trees of a node, with what is left of the budget, or `none` when it does not
suffice. -/
def unrollNode (parent : Option Text) (counter : Counter) :
    Node → Nat → Option (List Tree × Nat)
  | .group members count, budget =>
    forCopies (fun counter budget => unroll parent counter members budget)
      (counter.copies count) budget
  | .element head children, budget =>
    forCopies
      (fun counter budget =>
        match budget with
        | 0 => none
        | budget + 1 =>
          if head.isTextOnly && children.isEmpty then
            some ([.text (counter.number (head.text.getD []))], budget)
          else
            let name := elementName parent counter head
            match unroll (some name) counter children budget with
            | none => none
            | some (below, budget) =>
              some ([.element name (head.attributes.map (numberAttribute counter))
                (head.text.map counter.number) head.selfClosing below], budget))
      (counter.copies head.count) budget

/-- The trees of a forest, with what is left of the budget. -/
def unroll (parent : Option Text) (counter : Counter) :
    List Node → Nat → Option (List Tree × Nat)
  | [], budget => some ([], budget)
  | node :: rest, budget =>
    match unrollNode parent counter node budget with
    | none => none
    | some (trees, budget) =>
      match unroll parent counter rest budget with
      | none => none
      | some (more, budget) => some (trees ++ more, budget)

end

/-! ### Unrolling what may crash -/

/-- Why nothing comes of unrolling. -/
inductive Halt where
  /-- The budget does not suffice. -/
  | tooLarge
  /-- A counter token has no number. -/
  | crash
  deriving DecidableEq, Repr

/-- A text with its counter tokens replaced by numbers. -/
def tryNumber (counter : Counter) (s : Text) : Except Halt Text :=
  match counter.number? s with
  | some t => .ok t
  | none => .error .crash

/-- A text that need not be there, with its counter tokens replaced by numbers. -/
def tryNumberOption (counter : Counter) : Option Text → Except Halt (Option Text)
  | none => .ok none
  | some s => do
    let t ← tryNumber counter s
    return some t

/-- Attributes with their counter tokens replaced by numbers, name before value. -/
def tryNumberAttributes (counter : Counter) : List Attribute → Except Halt (List Attribute)
  | [] => .ok []
  | a :: rest => do
    let name ← tryNumber counter a.name
    let value ← tryNumberOption counter a.value
    let numbered ← tryNumberAttributes counter rest
    return ⟨name, value⟩ :: numbered

/-- The name of an element below a parent. -/
def tryElementName (parent : Option Text) (counter : Counter) (head : Element) :
    Except Halt Text :=
  match head.name with
  | some name => tryNumber counter name
  | none => .ok (implicitName parent)

/-- Runs a step for each counter, and hands the rest of the budget on. -/
def tryCopies (step : Counter → Nat → Except Halt (List Tree × Nat)) :
    List Counter → Nat → Except Halt (List Tree × Nat)
  | [], budget => .ok ([], budget)
  | counter :: rest, budget => do
    let (trees, budget) ← step counter budget
    let (more, budget) ← tryCopies step rest budget
    return (trees ++ more, budget)

mutual

/-- The trees of a node, with what is left of the budget. An element takes one from the
budget before it is named, and its text is numbered after its children. -/
def tryUnrollNode (parent : Option Text) (counter : Counter) :
    Node → Nat → Except Halt (List Tree × Nat)
  | .group members count, budget =>
    tryCopies (fun counter budget => tryUnroll parent counter members budget)
      (counter.copies count) budget
  | .element head children, budget =>
    tryCopies
      (fun counter budget =>
        match budget with
        | 0 => .error .tooLarge
        | budget + 1 =>
          if head.isTextOnly && children.isEmpty then do
            let text ← tryNumber counter (head.text.getD [])
            return ([.text text], budget)
          else do
            let name ← tryElementName parent counter head
            let attributes ← tryNumberAttributes counter head.attributes
            let (below, budget) ← tryUnroll (some name) counter children budget
            let text ← tryNumberOption counter head.text
            return ([.element name attributes text head.selfClosing below], budget))
      (counter.copies head.count) budget

/-- The trees of a forest, with what is left of the budget. -/
def tryUnroll (parent : Option Text) (counter : Counter) :
    List Node → Nat → Except Halt (List Tree × Nat)
  | [], budget => .ok ([], budget)
  | node :: rest, budget => do
    let (trees, budget) ← tryUnrollNode parent counter node budget
    let (more, budget) ← tryUnroll parent counter rest budget
    return (trees ++ more, budget)

end

end Markup

end Shorthand
