import SearchLink.Regex.Program
import SearchLink.Regex.Property

/-!
# `SearchLink.Regex.Search`: matching a program against a text

All ways of matching advance together, one character at a time. A *thread* is one way: the
node it has reached and the places it has noted. Threads are kept in order of preference,
and two threads never stay at the same node: the later one could only repeat what the
earlier one does. So a search takes time proportional to the text and the program, however
the pattern is written.

At each place `settle` follows the nodes that take no character, `harvest` looks for a
thread that is complete and drops the threads behind it, and `advance` takes the next
character. As long as nothing is complete a new thread starts at each place, behind all
others, so the leftmost match wins, and among those the preferred one.
-/

set_option autoImplicit false

namespace SearchLink.Regex

open SearchLink.Unicode (CodeSet)

/-! ### Conditions on places -/

/-- Whether a character is part of a word. -/
def isWordChar (unicode : Bool) (c : Char) : Bool :=
  if unicode then wordSet.contains c else c.isAlphanum || c = '_'

/-- Whether a condition holds between two characters; `none` stands for an end of the
text. -/
def Assertion.holds (condition : Assertion) (before after : Option Char) : Bool :=
  let word (unicode : Bool) (c : Option Char) : Bool := c.any (isWordChar unicode)
  match condition with
  | .start => before.isNone
  | .stop => after.isNone
  | .lineStart => before.isNone || before = some '\n'
  | .lineStop => after.isNone || after = some '\n'
  | .crlfStart =>
    before.isNone || before = some '\n' || (before = some '\r' && after ≠ some '\n')
  | .crlfStop =>
    after.isNone || after = some '\r' || (after = some '\n' && before ≠ some '\r')
  | .wordBoundary unicode => word unicode before != word unicode after
  | .notWordBoundary unicode => word unicode before == word unicode after
  | .wordStart unicode => !word unicode before && word unicode after
  | .wordStop unicode => word unicode before && !word unicode after
  | .wordStartHalf unicode => !word unicode before
  | .wordStopHalf unicode => !word unicode after

/-! ### Threads -/

/-- The places noted in slots, where any was. -/
abbrev Slots := List (Option Nat)

/-- One way of matching: the node it has reached and the places it has noted. -/
structure Thread where
  /-- The node. -/
  node : Nat
  /-- The places. -/
  slots : Slots
  deriving Repr

/-- A place in a text: the character in front, the number of characters in front, and the
text behind. -/
structure Cursor where
  /-- The character in front, if there is one. -/
  before : Option Char
  /-- How many characters stand in front. -/
  index : Nat
  /-- The text behind. -/
  rest : Text
  deriving Repr, DecidableEq

/-- The start of a text. -/
def Cursor.ofText (t : Text) : Cursor := ⟨none, 0, t⟩

/-- The place some characters further on. -/
def Cursor.advance : (count : Nat) → Cursor → Cursor
  | 0, here => here
  | n + 1, here =>
    match here.rest with
    | [] => here
    | c :: r => Cursor.advance n ⟨some c, here.index + 1, r⟩

namespace Program

/-- A bound on the steps that `settle` needs: every thread to begin with, and every node
entered once and left by two ways. -/
def settleFuel (p : Program) (work : List Thread) : Nat := work.length + 2 * p.nodes.size + 1

/-- Follows the nodes that take no character. Gives the threads that wait for a character
or are complete, in order of preference. `seen` marks the nodes that were entered. -/
def settle (p : Program) (here : Cursor) :
    (fuel : Nat) → (work : List Thread) → (seen : Array Bool) → List Thread
  | 0, _, _ => []
  | _ + 1, [], _ => []
  | fuel + 1, t :: work, seen =>
    if seen.getD t.node true then settle p here fuel work seen
    else
      let seen := seen.setIfInBounds t.node true
      match p.nodes.getD t.node .fail with
      | .take _ _ | .accept => t :: settle p here fuel work seen
      | .look condition next =>
        if condition.holds here.before here.rest.head? then
          settle p here fuel (⟨next, t.slots⟩ :: work) seen
        else settle p here fuel work seen
      | .save slot next =>
        settle p here fuel (⟨next, t.slots.set slot (some here.index)⟩ :: work) seen
      | .branch first second =>
        settle p here fuel (⟨first, t.slots⟩ :: ⟨second, t.slots⟩ :: work) seen
      | .fail => settle p here fuel work seen

/-- Splits settled threads at the first one that is complete: the threads in front of it,
and the places it noted. -/
def harvest (p : Program) : List Thread → List Thread × Option Slots
  | [] => ([], none)
  | t :: ts =>
    match p.nodes.getD t.node .fail with
    | .accept => ([], some t.slots)
    | _ =>
      let (front, found) := harvest p ts
      (t :: front, found)

/-- The threads that can take a character, behind it. -/
def advance (p : Program) (c : Char) (threads : List Thread) : List Thread :=
  threads.filterMap fun t =>
    match p.nodes.getD t.node .fail with
    | .take chars next => if chars.contains c then some ⟨next, t.slots⟩ else none
    | _ => none

/-- A thread at the beginning of the program. -/
def freshThread (p : Program) : Thread := ⟨p.start, List.replicate p.slots none⟩

/-- Runs threads from a place on; `best` is the match found so far. -/
def run (p : Program) (before : Option Char) (index : Nat) (threads : List Thread)
    (best : Option Slots) (rest : Text) : Option Slots :=
  let work := if best.isNone then threads ++ [p.freshThread] else threads
  let settled :=
    p.settle ⟨before, index, rest⟩ (p.settleFuel work) work
      (Array.replicate p.nodes.size false)
  let (front, found) := p.harvest settled
  let best := found <|> best
  match rest with
  | [] => best
  | c :: r =>
    if front.isEmpty && best.isSome then best
    else run p (some c) (index + 1) (p.advance c front) best r

/-- The places noted by the leftmost match from a cursor on. -/
def search (p : Program) (here : Cursor) : Option Slots :=
  p.run here.before here.index [] none here.rest

end Program

/-! ### All matches -/

/-- Where a match starts, by its slots. -/
def Slots.start (slots : Slots) : Nat := (slots.getD 0 none).getD 0

/-- Where a match stops, by its slots. -/
def Slots.stop (slots : Slots) : Nat := (slots.getD 1 none).getD 0

/-- The next match from a cursor on. An empty match right behind the last one does not
count; then the search goes on one character further. -/
def Program.next? (p : Program) (here : Cursor) (last : Option Nat) : Option Slots :=
  match p.search here with
  | none => none
  | some slots =>
    if slots.start = slots.stop && last = some slots.stop then
      match here.rest with
      | [] => none
      | _ :: _ => p.search (here.advance 1)
    else some slots

/-- The matches from a cursor on, none of which overlap. Each ends behind the one before,
so one step for every place of the text is enough. -/
def Program.matchesFrom (p : Program) :
    (fuel : Nat) → (here : Cursor) → (last : Option Nat) → List Slots
  | 0, _, _ => []
  | fuel + 1, here, last =>
    match p.next? here last with
    | none => []
    | some slots =>
      slots :: p.matchesFrom fuel (here.advance (slots.stop - here.index)) (some slots.stop)

/-- All matches in a text, from left to right. -/
def Program.matches (p : Program) (t : Text) : List Slots :=
  p.matchesFrom (t.length + 1) (Cursor.ofText t) none

end SearchLink.Regex
