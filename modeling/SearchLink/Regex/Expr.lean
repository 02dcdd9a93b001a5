import SearchLink.Text.Basic
import SearchLink.Unicode.CodeSet

/-!
# `SearchLink.Regex.Expr`: regular expressions

An expression is what a pattern means once its flags have been worked in: a character class
says exactly which code points it takes, and a repetition knows whether it is greedy.

`Expr.many` and `Expr.power` are the smart constructors for repetitions. An expression that
consumes nothing is never repeated more than once, and a repetition of no times is empty,
together with any group inside it.
-/

set_option autoImplicit false

namespace SearchLink.Regex

open SearchLink.Unicode (CodeSet)

/-- A condition on the place between two characters. -/
inductive Assertion where
  /-- The start of the text. -/
  | start
  /-- The end of the text. -/
  | stop
  /-- The start of the text or of a line. -/
  | lineStart
  /-- The end of the text or of a line. -/
  | lineStop
  /-- The start of the text or of a line, where CR, LF and CRLF end lines. -/
  | crlfStart
  /-- The end of the text or of a line, where CR, LF and CRLF end lines. -/
  | crlfStop
  /-- A word character on exactly one side. -/
  | wordBoundary (unicode : Bool)
  /-- A word character on both sides or on neither. -/
  | notWordBoundary (unicode : Bool)
  /-- A word begins. -/
  | wordStart (unicode : Bool)
  /-- A word ends. -/
  | wordStop (unicode : Bool)
  /-- No word character in front. -/
  | wordStartHalf (unicode : Bool)
  /-- No word character behind. -/
  | wordStopHalf (unicode : Bool)
  deriving Repr, DecidableEq

/-- A regular expression. -/
inductive Expr where
  /-- Matches nothing but the empty text. -/
  | empty
  /-- Matches one character of a set. -/
  | set (chars : CodeSet)
  /-- Matches the empty text where a condition holds. -/
  | look (condition : Assertion)
  /-- Matches one expression and then another. -/
  | seq (first second : Expr)
  /-- Matches one expression or else another; the first is preferred. -/
  | alt (first second : Expr)
  /-- Matches an expression at least `least` and at most `most` times; greedy repetitions
  prefer more, others fewer. -/
  | loop (least : Nat) (most : Option Nat) (greedy : Bool) (body : Expr)
  /-- Matches an expression and remembers where, under a number and perhaps a name. -/
  | group (index : Nat) (name : Option Text) (body : Expr)
  deriving Repr

namespace Expr

/-- Whether an expression matches only the empty text. -/
def isZeroWidth : Expr → Bool
  | empty | look _ => true
  | set _ => false
  | seq a b | alt a b => a.isZeroWidth && b.isZeroWidth
  | loop _ most _ body => body.isZeroWidth || most = some 0
  | group _ _ body => body.isZeroWidth

/-- Whether every match of an expression takes at least one character. -/
def alwaysConsumes : Expr → Bool
  | empty | look _ => false
  | set s => !s.isEmpty
  | seq a b => a.alwaysConsumes || b.alwaysConsumes
  | alt a b => a.alwaysConsumes && b.alwaysConsumes
  | loop least _ _ body => 0 < least && body.alwaysConsumes
  | group _ _ body => body.alwaysConsumes

/-- A repetition, simplified where the bounds make it trivial. -/
def repeated (least : Nat) (most : Option Nat) (greedy : Bool) (body : Expr) : Expr :=
  let least' := if body.isZeroWidth then min least 1 else least
  let most' := if body.isZeroWidth then some ((most.map (min 1)).getD 1) else most
  if most' = some 0 then empty
  else if least' = 1 && most' = some 1 then body
  else loop least' most' greedy body

/-- A sequence of expressions. -/
def sequence : List Expr → Expr
  | [] => empty
  | [e] => e
  | e :: es => seq e (sequence es)

/-- A choice between expressions; no expression at all is the empty one. -/
def choice : List Expr → Expr
  | [] => empty
  | [e] => e
  | e :: es => alt e (choice es)

/-- The groups of an expression, in the order in which they open. -/
def groups : Expr → List (Nat × Option Text)
  | empty | set _ | look _ => []
  | seq a b | alt a b => a.groups ++ b.groups
  | loop _ _ _ body => body.groups
  | group index name body => (index, name) :: body.groups

/-- How many groups an expression has, counting the whole match as group 0. -/
def groupCount (e : Expr) : Nat := e.groups.length + 1

/-- A number above the numbers of all groups. Where a repetition has been simplified away with
the groups in it, this is more than there are groups. -/
def groupBound (e : Expr) : Nat := (e.groups.map fun g => g.1).foldl max 0 + 1

end Expr

end SearchLink.Regex
