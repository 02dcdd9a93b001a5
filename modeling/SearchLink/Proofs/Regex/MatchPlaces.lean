import Mathlib.Data.List.Basic
import SearchLink.Regex.Compile

/-!
# `SearchLink.Proofs.Regex.MatchPlaces`: where a match may lie

A search keeps many threads, and each of them notes places in slots while it goes through the
program. This module shows that what comes out is the place of a match: the whole match starts
behind the place where the search began, stops behind its start and within the text.

* `Closed` is what is used of a program. Node 0 alone accepts, and the only way to it is to note
  the end of the whole match. `Expr.emit` keeps this of any nodes (`keepsClosed_emit`).
* `Thread.Placed` is the invariant of threads at a place. Following nodes keeps it
  (`placed_settle`), and so does taking a character (`placed_advance`).
* `isPlace_search`: so a search gives two places in order.
-/

set_option autoImplicit false

namespace SearchLink.Regex

/-! ### Programs -/

/-- The nodes to which a node leads. -/
def Node.leadsTo : Node → List Nat
  | .take _ next | .look _ next | .save _ next => [next]
  | .branch first second => [first, second]
  | .fail | .accept => []

/-- Node 0 accepts, no other node does, and only noting the end of the whole match leads there. -/
structure Closed (nodes : Nodes) : Prop where
  /-- Node 0 alone accepts. -/
  accepts : ∀ i : Nat, nodes[i]? = some Node.accept ↔ i = 0
  /-- The end of the whole match is noted on the way to node 0. -/
  leads : ∀ (i : Nat) (node : Node), nodes[i]? = some node → 0 ∈ node.leadsTo → node = .save 1 0

theorem Closed.size_pos {nodes : Nodes} (h : Closed nodes) : 0 < nodes.size := by
  obtain ⟨hlt, -⟩ := Array.getElem?_eq_some_iff.1 ((h.accepts 0).2 rfl)
  exact hlt

/-- A node may be added that does not accept and does not lead to acceptance. -/
theorem Closed.push {nodes : Nodes} (h : Closed nodes) {node : Node} (hnode : node ≠ .accept)
    (hleads : 0 ∈ node.leadsTo → node = .save 1 0) : Closed (nodes.push node) := by
  have hsize := h.size_pos
  constructor
  · intro i
    rw [Array.getElem?_push]
    split
    · rename_i hi
      simp only [Option.some.injEq, hnode, false_iff]
      omega
    · exact h.accepts i
  · intro i other hother
    rw [Array.getElem?_push] at hother
    split at hother
    · obtain rfl := Option.some.inj hother
      exact hleads
    · exact h.leads i other hother

/-- A node other than node 0 may be replaced by one that could be added. -/
theorem Closed.set {nodes : Nodes} (h : Closed nodes) {i : Nat} (hi : i ≠ 0) {node : Node}
    (hnode : node ≠ .accept) (hleads : 0 ∈ node.leadsTo → node = .save 1 0) :
    Closed (nodes.setIfInBounds i node) := by
  constructor
  · intro j
    rw [Array.getElem?_setIfInBounds]
    split
    · rename_i hij
      subst hij
      split
      · simp only [Option.some.injEq, hnode, false_iff]
        exact hi
      · simpa using hi
    · exact h.accepts j
  · intro j other hother
    rw [Array.getElem?_setIfInBounds] at hother
    split at hother
    · split at hother
      · obtain rfl := Option.some.inj hother
        exact hleads
      · simp at hother
    · exact h.leads j other hother

/-- An emitter that is given a node to go on with, other than node 0, begins at another node than
node 0 and keeps programs closed. -/
def KeepsClosed (emit : Nat → Nodes → Nat × Nodes) : Prop :=
  ∀ next nodes, next ≠ 0 → Closed nodes →
    (emit next nodes).1 ≠ 0 ∧ Closed (emit next nodes).2

/-- A node that leads nowhere near node 0 may be emitted. -/
theorem Closed.add {nodes : Nodes} (h : Closed nodes) {node : Node} (hnode : node ≠ .accept)
    (hleads : 0 ∉ node.leadsTo) : (nodes.add node).1 ≠ 0 ∧ Closed (nodes.add node).2 :=
  ⟨Nat.ne_of_gt h.size_pos, h.push hnode fun hzero => absurd hzero hleads⟩

theorem branchTo_ne_accept (greedy : Bool) (body leave : Nat) :
    branchTo greedy body leave ≠ .accept := by
  cases greedy <;> simp [branchTo]

/-- A branch leads to its two ways. -/
theorem zero_notMem_branchTo (greedy : Bool) {body leave : Nat} (hbody : body ≠ 0)
    (hleave : leave ≠ 0) : 0 ∉ (branchTo greedy body leave).leadsTo := by
  cases greedy <;> simp [branchTo, Node.leadsTo, hbody.symm, hleave.symm]

section
variable {emit : Nat → Nodes → Nat × Nodes} (hemit : KeepsClosed emit)
include hemit

/-- Copies keep programs closed. -/
theorem keepsClosed_emitCopies (count : Nat) : KeepsClosed (emitCopies emit count) := by
  induction count with
  | zero => exact fun next nodes hnext h => ⟨hnext, h⟩
  | succ n ih =>
    intro next nodes hnext h
    obtain ⟨hstart, hnodes⟩ := hemit next nodes hnext h
    exact ih _ _ hstart hnodes

/-- Rounds that may be left keep programs closed. -/
theorem keepsClosed_emitOptional (greedy : Bool) {leave : Nat} (hleave : leave ≠ 0)
    (count : Nat) : KeepsClosed (emitOptional emit greedy leave count) := by
  induction count with
  | zero => exact fun next nodes hnext h => ⟨hnext, h⟩
  | succ n ih =>
    intro next nodes hnext h
    obtain ⟨hstart, hnodes⟩ := hemit next nodes hnext h
    obtain ⟨hbranch, hnodes'⟩ :=
      hnodes.add (branchTo_ne_accept greedy _ _) (zero_notMem_branchTo greedy hstart hleave)
    exact ih _ _ hbranch hnodes'

/-- A way back keeps programs closed. -/
theorem closed_emitAgain (greedy : Bool) {leave : Nat} (hleave : leave ≠ 0) {nodes : Nodes}
    (h : Closed nodes) :
    (emitAgain emit greedy leave nodes).1 ≠ 0 ∧ (emitAgain emit greedy leave nodes).2.1 ≠ 0 ∧
      Closed (emitAgain emit greedy leave nodes).2.2 := by
  have hfail : Node.fail ≠ .accept := by simp
  obtain ⟨hagain, hnodes⟩ := h.add hfail (by simp [Node.leadsTo])
  obtain ⟨hstart, hnodes'⟩ := hemit _ _ hagain hnodes
  exact ⟨hstart, hagain, hnodes'.set hagain (branchTo_ne_accept greedy _ _)
    fun hzero => absurd hzero (zero_notMem_branchTo greedy hstart hleave)⟩

end

/-- The nodes of an expression keep programs closed. -/
theorem keepsClosed_emit (e : Expr) : KeepsClosed e.emit := by
  -- Nodes are emitted from the end of the expression to its start, so the induction hypothesis of
  -- the last part comes first.
  induction e with
  | empty => exact fun next nodes hnext h => ⟨hnext, h⟩
  | set s => exact fun next nodes hnext h => h.add (by simp) (by simp [Node.leadsTo, hnext.symm])
  | look condition =>
    exact fun next nodes hnext h => h.add (by simp) (by simp [Node.leadsTo, hnext.symm])
  | seq a b iha ihb =>
    intro next nodes hnext h
    obtain ⟨hmiddle, hnodes⟩ := ihb next nodes hnext h
    exact iha _ _ hmiddle hnodes
  | alt a b iha ihb =>
    intro next nodes hnext h
    obtain ⟨hsecond, hnodes⟩ := ihb next nodes hnext h
    obtain ⟨hfirst, hnodes'⟩ := iha next _ hnext hnodes
    exact hnodes'.add (by simp) (by simp [Node.leadsTo, hfirst.symm, hsecond.symm])
  | loop least most greedy body ih =>
    intro next nodes hnext h
    cases most with
    | some most =>
      obtain ⟨hstart, hnodes⟩ :=
        keepsClosed_emitOptional ih greedy hnext (most - least) next nodes hnext h
      exact keepsClosed_emitCopies ih least _ _ hstart hnodes
    | none =>
      obtain ⟨hstart, hagain, hnodes⟩ := closed_emitAgain ih greedy hnext h
      simp only [Expr.emit]
      split
      · split
        -- A body that cannot be empty is entered at the branch, any other has a branch in front.
        · exact ⟨hagain, hnodes⟩
        · exact hnodes.add (branchTo_ne_accept greedy _ _)
            (zero_notMem_branchTo greedy hstart hnext)
      · exact keepsClosed_emitCopies ih _ _ _ hstart hnodes
  | group index name body ih =>
    intro next nodes hnext h
    have hsave : Node.save (2 * index + 1) next ≠ .accept := by simp
    obtain ⟨hleave, hnodes⟩ := h.add hsave
      (by simp [Node.leadsTo, hnext.symm])
    obtain ⟨hstart, hnodes'⟩ := ih _ _ hleave hnodes
    exact hnodes'.add (by simp) fun hzero => hstart (List.mem_singleton.1 hzero).symm

/-- What is used of a program: it is closed, it begins by noting the start of the whole match, and
it has slots for both ends. -/
structure Program.Framed (p : Program) : Prop where
  /-- Only the end of the whole match leads to acceptance. -/
  closed : Closed p.nodes
  /-- The start of the whole match is noted first. -/
  begins : ∃ next, p.nodes[p.start]? = some (Node.save 0 next)
  /-- There are slots for the whole match. -/
  slots : 2 ≤ p.slots

/-- The program of an expression is of this kind. -/
theorem Expr.framed_program (e : Expr) : e.program.Framed := by
  have haccept : Closed #[Node.accept] := by
    constructor
    · intro i
      cases i <;> simp
    · intro i node hnode
      cases i with
      | zero =>
        obtain rfl : node = .accept := by simpa using hnode.symm
        simp [Node.leadsTo]
      | succ i => simp at hnode
  have hends : Closed (#[Node.accept].push (.save 1 0)) := haccept.push (by simp) fun _ => rfl
  obtain ⟨hstart, hnodes⟩ := keepsClosed_emit e 1 _ Nat.one_ne_zero hends
  refine ⟨hnodes.push (by simp) fun hzero => ?_, ⟨_, Array.getElem?_push_size⟩, ?_⟩
  · exact absurd (List.mem_singleton.1 hzero).symm hstart
  · show 2 ≤ 2 * e.groupBound
    simp only [Expr.groupBound]
    omega

/-! ### Threads -/

/-- A thread at a place `here`, in a search that began at `start`: its places lie between the two,
it has noted where the whole match starts unless it is about to, and where it accepts the whole
match has just been noted to end. -/
structure Thread.Placed (p : Program) (start here : Nat) (t : Thread) : Prop where
  /-- The slots are those of the program. -/
  length : t.slots.length = p.slots
  /-- No place is noted outside of what the search has seen. -/
  within : ∀ place, some place ∈ t.slots → start ≤ place ∧ place ≤ here
  /-- The start of the whole match is noted first. -/
  begun : t.node = p.start ∨ ∃ place, t.slots[0]? = some (some place)
  /-- The end of the whole match is noted last. -/
  ended : t.node = 0 → t.slots[1]? = some (some here)

/-- A node that is there, read with a default. -/
theorem getElem?_of_getD {nodes : Nodes} {i : Nat} {node : Node}
    (h : nodes.getD i .fail = node) (hnode : node ≠ .fail) : nodes[i]? = some node := by
  rw [Array.getD_eq_getD_getElem?] at h
  cases hi : nodes[i]? with
  | none =>
    rw [hi] at h
    exact absurd h.symm hnode
  | some other =>
    rw [hi] at h
    exact congrArg some h

section
variable {p : Program} (hp : p.Framed) {start here : Nat}
include hp

/-- No thread accepts at the beginning of the program. -/
theorem Program.Framed.start_ne_zero : p.start ≠ 0 := by
  intro hzero
  obtain ⟨next, hnode⟩ := hp.begins
  rw [(hp.closed.accepts p.start).2 hzero] at hnode
  simp at hnode

/-- A new thread has noted nothing. -/
theorem placed_freshThread (start here : Nat) : p.freshThread.Placed p start here where
  length := List.length_replicate
  within := fun place hplace => by simp [Program.freshThread] at hplace
  begun := .inl rfl
  ended := fun hzero => absurd hzero hp.start_ne_zero

variable {t : Thread} (ht : t.Placed p start here)
include ht

/-- A thread whose node notes nothing may go on with the same slots. -/
theorem Thread.Placed.goOn {node : Node} (hnode : p.nodes[t.node]? = some node)
    (hsave : ∀ slot next, node ≠ .save slot next) {next : Nat} (hnext : next ∈ node.leadsTo) :
    Thread.Placed p start here ⟨next, t.slots⟩ where
  length := ht.length
  within := ht.within
  begun := by
    refine .inr (ht.begun.resolve_left fun hstart => ?_)
    obtain ⟨next', hfirst⟩ := hp.begins
    rw [← hstart, hnode] at hfirst
    exact hsave 0 next' (Option.some.inj hfirst)
  ended := by
    rintro rfl
    exact absurd (hp.closed.leads _ node hnode hnext) (hsave 1 0)

/-- A thread notes the place where it is. -/
theorem Thread.Placed.note (hle : start ≤ here) {slot next : Nat}
    (hnode : p.nodes[t.node]? = some (.save slot next)) :
    Thread.Placed p start here ⟨next, t.slots.set slot (some here)⟩ where
  length := by rw [List.length_set, ht.length]
  within := by
    intro place hplace
    rcases List.mem_or_eq_of_mem_set hplace with hold | hnew
    · exact ht.within place hold
    · obtain rfl := Option.some.inj hnew
      exact ⟨hle, Nat.le_refl _⟩
  begun := by
    have hlength : 0 < t.slots.length := by
      have := hp.slots
      rw [ht.length]
      omega
    right
    by_cases hslot : slot = 0
    · subst hslot
      exact ⟨here, List.getElem?_set_self hlength⟩
    · rw [List.getElem?_set_ne hslot]
      refine ht.begun.resolve_left fun hstart => ?_
      obtain ⟨next', hfirst⟩ := hp.begins
      rw [← hstart, hnode] at hfirst
      exact hslot (Node.save.inj (Option.some.inj hfirst)).1
  ended := by
    rintro rfl
    have hlength : 1 < t.slots.length := by
      have := hp.slots
      rw [ht.length]
      omega
    have hlast := hp.closed.leads _ _ hnode (List.mem_singleton.2 rfl)
    obtain rfl : slot = 1 := (Node.save.inj hlast).1
    exact List.getElem?_set_self hlength

/-- A thread that takes a character is placed behind it. -/
theorem Thread.Placed.take {chars : Unicode.CodeSet} {next : Nat}
    (hnode : p.nodes[t.node]? = some (.take chars next)) :
    Thread.Placed p start (here + 1) ⟨next, t.slots⟩ where
  length := ht.length
  within := fun place hplace => by
    have := ht.within place hplace
    omega
  begun := (ht.goOn hp hnode (by simp) (List.mem_singleton.2 rfl)).begun
  ended := by
    rintro rfl
    exact absurd (hp.closed.leads _ _ hnode (List.mem_singleton.2 rfl)) (by simp)

end

/-- The places of a whole match between two places of a text: it starts and stops between them, in
this order. -/
def Slots.IsPlace (start stop : Nat) (slots : Slots) : Prop :=
  ∃ first last more, slots = some first :: some last :: more ∧
    start ≤ first ∧ first ≤ last ∧ last ≤ stop

/-- A thread that accepts has noted a place. -/
theorem Thread.Placed.isPlace {p : Program} (hp : p.Framed) {start here : Nat} {t : Thread}
    (ht : t.Placed p start here) (hnode : p.nodes[t.node]? = some .accept) :
    t.slots.IsPlace start here := by
  have hzero : t.node = 0 := (hp.closed.accepts _).1 hnode
  -- It is past the beginning of the program, so both ends have been noted.
  obtain ⟨first, hfirst⟩ :=
    ht.begun.resolve_left fun hstart => hp.start_ne_zero (hstart ▸ hzero)
  have hlast := ht.ended hzero
  match hslots : t.slots with
  | [] => simp [hslots] at hfirst
  | [_] => simp [hslots] at hlast
  | a :: b :: more =>
    simp only [hslots, List.getElem?_cons_zero, List.getElem?_cons_succ, Option.some.injEq]
      at hfirst hlast
    subst hfirst hlast
    obtain ⟨hfrom, hto⟩ := ht.within first (by simp [hslots])
    exact ⟨first, here, more, rfl, hfrom, hto, Nat.le_refl _⟩

/-! ### A search -/

section
variable {p : Program} (hp : p.Framed) {start : Nat}
include hp

/-- Following the nodes that take no character keeps threads placed. -/
theorem placed_settle {here : Cursor} (hle : start ≤ here.index) {fuel : Nat}
    {work : List Thread} {seen : Array Bool} (hwork : ∀ t ∈ work, t.Placed p start here.index) :
    ∀ t ∈ p.settle here fuel work seen, t.Placed p start here.index := by
  -- Each step takes the first thread of the work list. It settles, or it is replaced by threads
  -- that go on from its node.
  induction fuel generalizing work seen with
  | zero => simp [Program.settle]
  | succ fuel ih =>
    cases work with
    | nil => simp [Program.settle]
    | cons t work =>
      obtain ⟨ht, hrest⟩ := List.forall_mem_cons.1 hwork
      rw [Program.settle]
      split
      · exact ih hrest
      · dsimp only
        split
        · exact List.forall_mem_cons.2 ⟨ht, ih hrest⟩
        · exact List.forall_mem_cons.2 ⟨ht, ih hrest⟩
        · rename_i condition next hnode
          split
          · exact ih (List.forall_mem_cons.2
              ⟨ht.goOn hp (getElem?_of_getD hnode (by simp)) (by simp) (by simp [Node.leadsTo]),
                hrest⟩)
          · exact ih hrest
        · rename_i slot next hnode
          exact ih (List.forall_mem_cons.2
            ⟨ht.note hp hle (getElem?_of_getD hnode (by simp)), hrest⟩)
        · rename_i first second hnode
          have hnode' := getElem?_of_getD hnode (by simp)
          exact ih (List.forall_mem_cons.2
            ⟨ht.goOn hp hnode' (by simp) (by simp [Node.leadsTo]), List.forall_mem_cons.2
              ⟨ht.goOn hp hnode' (by simp) (by simp [Node.leadsTo]), hrest⟩⟩)
        · exact ih hrest

omit hp in
/-- What is left in front of a complete thread are some of the threads. -/
theorem mem_of_mem_harvest {threads : List Thread} {t : Thread}
    (h : t ∈ (p.harvest threads).1) : t ∈ threads := by
  induction threads with
  | nil => simp [Program.harvest] at h
  | cons t' threads ih =>
    rw [Program.harvest] at h
    split at h
    · simp at h
    · rcases List.mem_cons.1 h with rfl | hmem
      · exact List.mem_cons_self
      · exact List.mem_cons_of_mem _ (ih hmem)

/-- A complete thread among placed ones has noted a place. -/
theorem isPlace_harvest {here : Nat} {threads : List Thread}
    (hthreads : ∀ t ∈ threads, t.Placed p start here) {slots : Slots}
    (h : (p.harvest threads).2 = some slots) : slots.IsPlace start here := by
  induction threads with
  | nil => simp [Program.harvest] at h
  | cons t threads ih =>
    obtain ⟨ht, hrest⟩ := List.forall_mem_cons.1 hthreads
    rw [Program.harvest] at h
    split at h
    · rename_i hnode
      obtain rfl := Option.some.inj h
      exact ht.isPlace hp (getElem?_of_getD hnode (by simp))
    · exact ih hrest h

/-- Threads that take a character are placed behind it. -/
theorem placed_advance {here : Nat} {threads : List Thread}
    (hthreads : ∀ t ∈ threads, t.Placed p start here) (c : Char) :
    ∀ t ∈ p.advance c threads, t.Placed p start (here + 1) := by
  intro t ht
  obtain ⟨t', ht', htake⟩ := List.mem_filterMap.1 ht
  split at htake
  · rename_i chars next hnode
    split at htake
    · obtain rfl := Option.some.inj htake
      exact (hthreads t' ht').take hp (getElem?_of_getD hnode (by simp))
    · simp at htake
  · simp at htake

omit hp in
/-- A place lies between wider bounds, too. -/
theorem Slots.IsPlace.mono {start' stop stop' : Nat} {slots : Slots} (h : slots.IsPlace start stop)
    (hstart : start' ≤ start) (hstop : stop ≤ stop') : slots.IsPlace start' stop' := by
  obtain ⟨first, last, more, rfl, hfirst, hlast, hle⟩ := h
  exact ⟨first, last, more, rfl, Nat.le_trans hstart hfirst, hlast, Nat.le_trans hle hstop⟩

/-- The threads that have settled at a place. -/
def Program.settledAt (p : Program) (before : Option Char) (index : Nat) (threads : List Thread)
    (best : Option Slots) (rest : Text) : List Thread :=
  let work := if best.isNone then threads ++ [p.freshThread] else threads
  p.settle ⟨before, index, rest⟩ (p.settleFuel work) work (Array.replicate p.nodes.size false)

omit hp in
/-- As long as there is no match, a new thread settles behind the others. -/
theorem settledAt_none (before : Option Char) (index : Nat) (threads : List Thread) (rest : Text) :
    p.settledAt before index threads none rest
      = p.settle ⟨before, index, rest⟩ (p.settleFuel (threads ++ [p.freshThread]))
          (threads ++ [p.freshThread]) (Array.replicate p.nodes.size false) := rfl

/-- Settled threads are placed, the new one among them. -/
theorem placed_settledAt {before : Option Char} {index : Nat} {threads : List Thread}
    {best : Option Slots} {rest : Text} (hle : start ≤ index)
    (hthreads : ∀ t ∈ threads, t.Placed p start index) :
    ∀ t ∈ p.settledAt before index threads best rest, t.Placed p start index := by
  refine placed_settle hp hle ?_
  split
  · intro t ht
    rcases List.mem_append.1 ht with hold | hnew
    · exact hthreads t hold
    · exact List.mem_singleton.1 hnew ▸ placed_freshThread hp start index
  · exact hthreads

omit hp in
/-- At the end of a text a run gives what has been found. -/
theorem run_nil (before : Option Char) (index : Nat) (threads : List Thread)
    (best : Option Slots) :
    p.run before index threads best []
      = (p.harvest (p.settledAt before index threads best [])).2.or best := by
  rw [Program.run]
  simp only [Option.orElse_eq_orElse, Option.orElse_eq_or]
  rfl

omit hp in
/-- In front of a character a run goes on, unless a match was found and no thread is left that is
preferred to it. -/
theorem run_cons (before : Option Char) (index : Nat) (threads : List Thread)
    (best : Option Slots) (c : Char) (r : Text) :
    p.run before index threads best (c :: r) =
      let part := p.harvest (p.settledAt before index threads best (c :: r))
      if part.1.isEmpty && (part.2.or best).isSome then part.2.or best
      else p.run (some c) (index + 1) (p.advance c part.1) (part.2.or best) r := by
  rw [Program.run]
  simp only [Option.orElse_eq_orElse, Option.orElse_eq_or]
  rfl

/-- A run of placed threads gives a place, behind the start of the search and within the text. -/
theorem isPlace_run {before : Option Char} {index : Nat} {threads : List Thread}
    {best : Option Slots} {rest : Text} (hle : start ≤ index)
    (hthreads : ∀ t ∈ threads, t.Placed p start index)
    (hbest : ∀ slots ∈ best, slots.IsPlace start index) :
    ∀ slots ∈ p.run before index threads best rest,
      slots.IsPlace start (index + rest.length) := by
  induction rest generalizing before index threads best with
  | nil =>
    have hsettled : ∀ t ∈ p.settledAt before index threads best [], t.Placed p start index :=
      placed_settledAt hp hle hthreads
    intro slots hslots
    rw [run_nil] at hslots
    rcases Option.or_eq_some_iff.1 hslots with hfound | ⟨-, hold⟩
    · exact isPlace_harvest hp hsettled hfound
    · exact hbest slots hold
  | cons c r ih =>
    have hsettled : ∀ t ∈ p.settledAt before index threads best (c :: r),
        t.Placed p start index := placed_settledAt hp hle hthreads
    rw [run_cons]
    dsimp only
    have hbest' : ∀ slots ∈
        (p.harvest (p.settledAt before index threads best (c :: r))).2.or best,
        slots.IsPlace start index := by
      intro slots hslots
      rcases Option.or_eq_some_iff.1 hslots with hfound | ⟨-, hold⟩
      · exact isPlace_harvest hp hsettled hfound
      · exact hbest slots hold
    intro slots hslots
    split at hslots
    · exact (hbest' slots hslots).mono (Nat.le_refl _) (Nat.le_add_right _ _)
    · -- One character further on the rest is one character shorter.
      have hplace := ih (Nat.le_succ_of_le hle)
        (placed_advance hp (fun t ht => hsettled t (mem_of_mem_harvest ht)) c)
        (fun s hs => (hbest' s hs).mono (Nat.le_refl _) (Nat.le_succ _)) slots hslots
      rw [List.length_cons, ← Nat.add_assoc, Nat.add_right_comm]
      exact hplace

/-- A search gives a place behind its start and within the text. -/
theorem isPlace_search {here : Cursor} {slots : Slots} (h : p.search here = some slots) :
    slots.IsPlace here.index (here.index + here.rest.length) :=
  isPlace_run hp (Nat.le_refl _) (by simp) (by simp) slots h

end

end SearchLink.Regex
