import SearchLink.Regex.Footprint

/-!
# `SearchLink.Regex.Program`: expressions as graphs

A program is a graph whose nodes take a character, test the place, note the place in a
slot, or branch. Where a node branches, the way tried first is preferred.

`Expr.emit` adds the nodes of an expression in front of a node that is already there, and
gives the node where the expression begins. A loop whose body can be empty is entered by a
branch of its own, so that one empty round is possible and a second is not.
-/

set_option autoImplicit false

namespace SearchLink.Regex

open SearchLink.Unicode (CodeSet)

/-- A node of a program; `next` and its like are indices of nodes. -/
inductive Node where
  /-- Takes one character of a set. -/
  | take (chars : CodeSet) (next : Nat)
  /-- Goes on where a condition holds. -/
  | look (condition : Assertion) (next : Nat)
  /-- Notes the place in a slot. -/
  | save (slot : Nat) (next : Nat)
  /-- Goes on at `first`, or else at `second`. -/
  | branch (first second : Nat)
  /-- Nothing matches here. -/
  | fail
  /-- The match is complete. -/
  | accept
  deriving Repr

/-- Nodes emitted so far. -/
abbrev Nodes := Array Node

/-- Adds a node and gives its index. -/
def Nodes.add (nodes : Nodes) (node : Node) : Nat × Nodes := (nodes.size, nodes.push node)

/-- A branch that prefers to go on with a body, or else prefers to leave. -/
def branchTo (greedy : Bool) (body leave : Nat) : Node :=
  if greedy then .branch body leave else .branch leave body

/-- Emits a body several times in a row in front of `next`. -/
def emitCopies (emit : Nat → Nodes → Nat × Nodes) : (count : Nat) → Nat → Nodes → Nat × Nodes
  | 0, next, nodes => (next, nodes)
  | n + 1, next, nodes =>
    let (start, nodes) := emit next nodes
    emitCopies emit n start nodes

/-- Emits a body up to `count` times in front of `next`; every round may leave for
`leave`. -/
def emitOptional (emit : Nat → Nodes → Nat × Nodes) (greedy : Bool) (leave : Nat) :
    (count : Nat) → Nat → Nodes → Nat × Nodes
  | 0, next, nodes => (next, nodes)
  | n + 1, next, nodes =>
    let (start, nodes) := emit next nodes
    let (start, nodes) := nodes.add (branchTo greedy start leave)
    emitOptional emit greedy leave n start nodes

/-- Emits a body with a branch behind it that goes back. Gives the start of the body, the
branch, and the nodes. -/
def emitAgain (emit : Nat → Nodes → Nat × Nodes) (greedy : Bool) (leave : Nat)
    (nodes : Nodes) : Nat × Nat × Nodes :=
  let (again, nodes) := nodes.add .fail
  let (start, nodes) := emit again nodes
  (start, again, nodes.setIfInBounds again (branchTo greedy start leave))

/-- Emits an expression in front of the node `next`. -/
def Expr.emit : Expr → (next : Nat) → Nodes → Nat × Nodes
  | empty, next, nodes => (next, nodes)
  | set s, next, nodes => nodes.add (.take s next)
  | look condition, next, nodes => nodes.add (.look condition next)
  | seq a b, next, nodes =>
    let (middle, nodes) := b.emit next nodes
    a.emit middle nodes
  | alt a b, next, nodes =>
    let (second, nodes) := b.emit next nodes
    let (first, nodes) := a.emit next nodes
    nodes.add (.branch first second)
  | loop least most greedy body, next, nodes =>
    match most with
    | some most =>
      let (start, nodes) := emitOptional body.emit greedy next (most - least) next nodes
      emitCopies body.emit least start nodes
    | none =>
      let (start, again, nodes) := emitAgain body.emit greedy next nodes
      if least = 0 then
        if body.alwaysConsumes then (again, nodes)
        else nodes.add (branchTo greedy start next)
      else emitCopies body.emit (least - 1) start nodes
  | group index _ body, next, nodes =>
    let (leave, nodes) := nodes.add (.save (2 * index + 1) next)
    let (start, nodes) := body.emit leave nodes
    nodes.add (.save (2 * index) start)

/-- A program: its nodes, where it begins and how many slots it notes places in. -/
structure Program where
  /-- The nodes. -/
  nodes : Nodes
  /-- The node where every match begins. -/
  start : Nat
  /-- How many slots there are. -/
  slots : Nat
  deriving Repr

/-- The program of an expression, remembering the whole match as group 0. -/
def Expr.program (e : Expr) : Program :=
  let (accept, nodes) := Nodes.add #[] .accept
  let (start, nodes) := (Expr.group 0 none e).emit accept nodes
  ⟨nodes, start, 2 * e.groupBound⟩

end SearchLink.Regex
