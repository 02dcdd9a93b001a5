import Mathlib.Data.List.Basic
import SearchLink.Proofs.Regex.Succession

/-!
# `SearchLink.Proofs.Regex.WordMatch`: patterns that take a fixed number of characters

A *word* is a row of sets. Its pattern takes one character of each. While a text is searched for a
word, a thread waits for what is left of the word at every place where its beginning has been
taken, so several may wait at once, as when occurrences overlap.

* `program_word`: the nodes of the program; the node where a thread waits is given by the number of
  sets that are left.
* `Lined` is the invariant of the threads at a place: fewer sets are left for a thread that started
  earlier. So no two wait at one node (`settle_pending`), and at most the first is about to
  complete.
* `run_word`: a run ends with the first waiting thread that the text goes on with, or else at the
  first occurrence of the word behind the place (`wordPlace?`).
* `segments_ofWord`: so a text is cut at the occurrences from left to right, none of which overlap
  (`cutWord`).
-/

set_option autoImplicit false

namespace SearchLink.Regex

open SearchLink.Unicode (CodeSet)

/-! ### Words -/

/-- The expression of a word: one character of each set. -/
def Expr.word (w : List CodeSet) : Expr := .sequence (w.map .set)

/-- Whether a text begins with a word. -/
def beginsWith : (w : List CodeSet) → Text → Bool
  | [], _ => true
  | _ :: _, [] => false
  | S :: u, c :: r => S.contains c && beginsWith u r

/-- How many characters stand in front of the first occurrence of a word. -/
def wordPlace? (w : List CodeSet) : Text → Option Nat
  | [] => if beginsWith w [] then some 0 else none
  | c :: r => if beginsWith w (c :: r) then some 0 else (wordPlace? w r).map (· + 1)

/-- A text that begins with a word is at least as long. -/
theorem length_le_of_beginsWith {w : List CodeSet} {t : Text} (h : beginsWith w t = true) :
    w.length ≤ t.length := by
  induction w generalizing t with
  | nil => exact Nat.zero_le _
  | cons S u ih =>
    cases t with
    | nil => simp [beginsWith] at h
    | cons c r =>
      simp only [beginsWith, Bool.and_eq_true] at h
      exact Nat.succ_le_succ (ih h.2)

/-! ### The program -/

/-- The nodes of a word without the one that notes its start: those that complete a match, and one
for each set, the last one first. -/
def wordNodes : List CodeSet → Nodes
  | [] => #[.accept, .save 1 0]
  | S :: u => (wordNodes u).push (.take S (u.length + 1))

@[simp] theorem size_wordNodes (w : List CodeSet) : (wordNodes w).size = w.length + 2 := by
  induction w with
  | nil => rfl
  | cons S u ih => rw [wordNodes, Array.size_push, ih, List.length_cons]

/-- The sets of a word are emitted one by one. -/
theorem emit_word (w : List CodeSet) :
    (Expr.word w).emit 1 #[.accept, .save 1 0] = (w.length + 1, wordNodes w) := by
  induction w with
  | nil => rfl
  | cons S u ih =>
    cases u with
    | nil => rfl
    | cons T u =>
      show (Expr.seq (.set S) (Expr.word (T :: u))).emit 1 #[.accept, .save 1 0] = _
      rw [Expr.emit, ih]
      simp [Expr.emit, Nodes.add, wordNodes]

/-- A word has no groups. -/
theorem groups_word (w : List CodeSet) : (Expr.word w).groups = [] := by
  induction w with
  | nil => rfl
  | cons S u ih =>
    cases u with
    | nil => rfl
    | cons T u => exact ih

/-- The program of a word. -/
theorem program_word (w : List CodeSet) :
    (Expr.word w).program
      = ⟨(wordNodes w).push (.save 0 (w.length + 1)), w.length + 2, 2⟩ := by
  simp [Expr.program, Expr.emit, Nodes.add, emit_word, Expr.groupBound, groups_word]

/-- A node that is added comes last. -/
theorem Nodes.getD_push (nodes : Nodes) (node : Node) (i : Nat) :
    (nodes.push node).getD i .fail = if i = nodes.size then node else nodes.getD i .fail := by
  simp only [Array.getD_eq_getD_getElem?, Array.getElem?_push]
  split <;> rfl

section
variable {w : List CodeSet}

/-- Where sets are left, the node takes a character of the first one. -/
theorem node_take {S : CodeSet} {u : List CodeSet} (h : S :: u <:+ w) :
    (Expr.word w).program.nodes.getD (u.length + 2) .fail = .take S (u.length + 1) := by
  have hnodes : (wordNodes w).getD (u.length + 2) .fail = .take S (u.length + 1) := by
    induction w with
    | nil => simp at h
    | cons T v ih =>
      rw [wordNodes, Nodes.getD_push, size_wordNodes]
      rcases List.suffix_cons_iff.1 h with heq | hsuffix
      · obtain ⟨rfl, rfl⟩ := List.cons.inj heq
        exact if_pos rfl
      · have hlt : u.length < v.length := hsuffix.length_le
        rw [if_neg (by omega)]
        exact ih hsuffix
  have hlt : u.length < w.length := h.length_le
  rw [program_word, Nodes.getD_push, size_wordNodes, if_neg (by omega), hnodes]

/-- The first two nodes complete a match. -/
theorem node_complete :
    (Expr.word w).program.nodes.getD 0 .fail = .accept ∧
      (Expr.word w).program.nodes.getD 1 .fail = .save 1 0 := by
  have hnodes : (wordNodes w).getD 0 .fail = .accept ∧ (wordNodes w).getD 1 .fail = .save 1 0 := by
    induction w with
    | nil => exact ⟨rfl, rfl⟩
    | cons S u ih =>
      simp only [wordNodes, Nodes.getD_push, size_wordNodes]
      rwa [if_neg (by omega), if_neg (by omega)]
  simp only [program_word, Nodes.getD_push, size_wordNodes]
  rwa [if_neg (by omega), if_neg (by omega)]

/-- The last node notes the start. -/
theorem node_start :
    (Expr.word w).program.nodes.getD (w.length + 2) .fail = .save 0 (w.length + 1) := by
  rw [program_word, Nodes.getD_push, size_wordNodes, if_pos rfl]

end

/-! ### Steps of settling -/

section
variable {p : Program} {here : Cursor} {work : List Thread} {t : Thread} {seen : Array Bool}

/-- A mark on one node changes no other. -/
theorem getD_setIfInBounds {i j : Nat} (h : j ≠ i) :
    (seen.setIfInBounds i true).getD j true = seen.getD j true := by
  simp only [Array.getD_eq_getD_getElem?, Array.getElem?_setIfInBounds, if_neg (Ne.symm h)]

variable (hseen : seen.getD t.node true = false) (fuel : Nat)
include hseen

/-- A thread that waits for a character has settled. -/
theorem settle_take {S : CodeSet} {next : Nat} (hnode : p.nodes.getD t.node .fail = .take S next) :
    p.settle here (fuel + 1) (t :: work) seen
      = t :: p.settle here fuel work (seen.setIfInBounds t.node true) := by
  simp only [Program.settle, hseen, hnode, Bool.false_eq_true, if_false]

/-- A thread that is complete has settled. -/
theorem settle_accept (hnode : p.nodes.getD t.node .fail = .accept) :
    p.settle here (fuel + 1) (t :: work) seen
      = t :: p.settle here fuel work (seen.setIfInBounds t.node true) := by
  simp only [Program.settle, hseen, hnode, Bool.false_eq_true, if_false]

/-- A thread that notes the place goes on. -/
theorem settle_save {slot next : Nat} (hnode : p.nodes.getD t.node .fail = .save slot next) :
    p.settle here (fuel + 1) (t :: work) seen
      = p.settle here fuel (⟨next, t.slots.set slot (some here.index)⟩ :: work)
          (seen.setIfInBounds t.node true) := by
  simp only [Program.settle, hseen, hnode, Bool.false_eq_true, if_false]

end

/-! ### Waiting threads -/

/-- A thread that waits: where it started, and the sets that are left. -/
structure Pending where
  /-- The place where the thread started. -/
  start : Nat
  /-- What is left of the word. -/
  left : List CodeSet

/-- A waiting thread as the search keeps it. -/
def Pending.thread (q : Pending) : Thread := ⟨q.left.length + 1, [some q.start, none]⟩

/-- A thread that takes a character, if it can. -/
def Pending.take? (c : Char) (q : Pending) : Option Pending :=
  match q.left with
  | [] => none
  | S :: u => if S.contains c then some ⟨q.start, u⟩ else none

/-- The slots of the match that a thread completes, if what is left of it stands at a place. -/
def Pending.slots (place : Nat) (q : Pending) : Slots :=
  [some q.start, some (place + q.left.length)]

/-- Threads wait for ends of the word, and fewer sets are left for those in front. -/
structure Lined (w : List CodeSet) (pending : List Pending) : Prop where
  /-- What is left is an end of the word. -/
  ends : ∀ q ∈ pending, q.left <:+ w
  /-- It grows from thread to thread. -/
  grows : pending.Pairwise fun q q' => q.left.length < q'.left.length

section
variable {w : List CodeSet} {pending : List Pending}

/-- A thread waits at the node that takes a character of the first set that is left. -/
theorem Pending.node_thread {q : Pending} {S : CodeSet} {u : List CodeSet} (hends : q.left <:+ w)
    (hleft : q.left = S :: u) :
    (Expr.word w).program.nodes.getD q.thread.node .fail = .take S (u.length + 1) := by
  rw [← node_take (hleft ▸ hends), Pending.thread, hleft, List.length_cons]

/-- A thread that takes a character takes it from the first set that is left. -/
theorem exists_cons_of_take? {c : Char} {q q' : Pending} (h : q.take? c = some q') :
    ∃ S, q.left = S :: q'.left := by
  unfold Pending.take? at h
  split at h
  · simp at h
  · rename_i S u hleft
    split at h
    · obtain rfl := Option.some.inj h
      exact ⟨S, hleft⟩
    · simp at h

/-- Taking a character keeps the order. -/
theorem Lined.take (h : Lined w pending) (c : Char) :
    Lined w (pending.filterMap (Pending.take? c)) := by
  constructor
  · intro q' hq'
    obtain ⟨q, hq, htook⟩ := List.mem_filterMap.1 hq'
    obtain ⟨S, hleft⟩ := exists_cons_of_take? htook
    exact (List.suffix_cons S q'.left).trans (hleft ▸ h.ends q hq)
  · refine List.Pairwise.filterMap _ (fun q p hqp q' hq' p' hp' => ?_) h.grows
    obtain ⟨S, hleft⟩ := exists_cons_of_take? hq'
    obtain ⟨T, hleft'⟩ := exists_cons_of_take? hp'
    rw [hleft, hleft', List.length_cons, List.length_cons] at hqp
    omega

/-- Where a character has been taken, less than the word is left. -/
theorem Lined.length_lt_of_take (h : Lined w pending) (c : Char) :
    ∀ q ∈ pending.filterMap (Pending.take? c), q.left.length < w.length := by
  intro q' hq'
  obtain ⟨q, hq, htook⟩ := List.mem_filterMap.1 hq'
  obtain ⟨S, hleft⟩ := exists_cons_of_take? htook
  have hle := (h.ends q hq).length_le
  rw [hleft, List.length_cons] at hle
  omega

/-- A new thread comes behind all others. -/
theorem Lined.start (h : Lined w pending) (hshort : ∀ q ∈ pending, q.left.length < w.length)
    (index : Nat) : Lined w (pending ++ [Pending.mk index w]) where
  ends := by
    intro q hq
    rcases List.mem_append.1 hq with hold | hnew
    · exact h.ends q hold
    · exact List.mem_singleton.1 hnew ▸ List.suffix_refl w
  grows := by
    refine List.pairwise_append.2 ⟨h.grows, List.pairwise_singleton _ _, fun q hq q' hq' => ?_⟩
    rw [List.mem_singleton.1 hq']
    exact hshort q hq

/-- The new thread waits, too. -/
theorem wait_start (hwait : ∀ q ∈ pending, q.left ≠ []) (hw : w ≠ []) (index : Nat) :
    ∀ q ∈ pending ++ [Pending.mk index w], q.left ≠ [] := by
  intro q hq
  rcases List.mem_append.1 hq with hold | hnew
  · exact hwait q hold
  · rw [List.mem_singleton.1 hnew]
    exact hw

/-- Threads that wait for a character stay where they are while the others settle. -/
theorem settle_pending (h : Lined w pending) (hwait : ∀ q ∈ pending, q.left ≠ [])
    (here : Cursor) (work : List Thread) {seen : Array Bool}
    (hseen : ∀ q ∈ pending, seen.getD (q.left.length + 1) true = false) (fuel : Nat) :
    ∃ seen' : Array Bool,
      (∀ i, (∀ q ∈ pending, i ≠ q.left.length + 1) → seen'.getD i true = seen.getD i true) ∧
      (Expr.word w).program.settle here (fuel + pending.length) (pending.map Pending.thread ++ work)
          seen
        = pending.map Pending.thread ++ (Expr.word w).program.settle here fuel work seen' := by
  induction pending generalizing seen with
  | nil => exact ⟨seen, fun _ _ => rfl, rfl⟩
  | cons q pending ih =>
    obtain ⟨hq, hpending⟩ := List.forall_mem_cons.1 hseen
    obtain ⟨hwaitq, hwait'⟩ := List.forall_mem_cons.1 hwait
    obtain ⟨hgrows, hgrows'⟩ := List.pairwise_cons.1 h.grows
    obtain ⟨hends, hends'⟩ := List.forall_mem_cons.1 h.ends
    obtain ⟨S, u, hleft⟩ := List.exists_cons_of_ne_nil hwaitq
    -- The others wait at later nodes, so the mark on this one does not concern them.
    have hmarked : ∀ p ∈ pending,
        (seen.setIfInBounds (q.left.length + 1) true).getD (p.left.length + 1) true = false := by
      intro p hp
      have := hgrows p hp
      rw [getD_setIfInBounds (by omega)]
      exact hpending p hp
    obtain ⟨seen', hseen', hsettle⟩ := ih ⟨hends', hgrows'⟩ hwait' hmarked
    refine ⟨seen', fun i hi => ?_, ?_⟩
    · obtain ⟨hiq, hi'⟩ := List.forall_mem_cons.1 hi
      rw [hseen' i hi', getD_setIfInBounds hiq]
    · rw [List.map_cons, List.cons_append, List.cons_append, List.length_cons, ← Nat.add_assoc,
        settle_take hq _ (Pending.node_thread hends hleft)]
      exact congrArg (q.thread :: ·) hsettle

/-- A new thread notes the place, and then it waits for the first set. -/
theorem settle_freshThread (hw : w ≠ []) (here : Cursor) {seen : Array Bool}
    (hstart : seen.getD (w.length + 2) true = false)
    (hfirst : seen.getD (w.length + 1) true = false) (fuel : Nat) :
    (Expr.word w).program.settle here (fuel + 1 + 1) [(Expr.word w).program.freshThread] seen
      = [Pending.thread ⟨here.index, w⟩] := by
  have hfresh : (Expr.word w).program.freshThread = ⟨w.length + 2, [none, none]⟩ := by
    rw [Program.freshThread, program_word]
    rfl
  rw [hfresh, settle_save hstart _ node_start]
  obtain ⟨S, u, rfl⟩ := List.exists_cons_of_ne_nil hw
  have hunseen : (seen.setIfInBounds ((S :: u).length + 2) true).getD ((S :: u).length + 1) true
      = false := by
    rw [getD_setIfInBounds (by omega), hfirst]
  rw [settle_take hunseen _ (node_take (List.suffix_refl _))]
  cases fuel <;> rfl

theorem size_program_word (w : List CodeSet) : (Expr.word w).program.nodes.size = w.length + 3 := by
  rw [program_word, Array.size_push, size_wordNodes]

/-- At first no node is marked. -/
theorem getD_unmarked {i : Nat} (hi : i < w.length + 3) :
    (Array.replicate (Expr.word w).program.nodes.size false).getD i true = false := by
  rw [Array.getD_eq_getD_getElem?, Array.getElem?_replicate, if_pos (size_program_word w ▸ hi)]
  rfl

/-- At a place the waiting threads stay, and a new one waits behind them. -/
theorem settledAt_pending (h : Lined w pending) (hwait : ∀ q ∈ pending, q.left ≠ [])
    (hshort : ∀ q ∈ pending, q.left.length < w.length) (hw : w ≠ []) (before : Option Char)
    (index : Nat) (rest : Text) :
    (Expr.word w).program.settledAt before index (pending.map Pending.thread) none rest
      = (pending ++ [Pending.mk index w]).map Pending.thread := by
  obtain ⟨seen, hseen, hsettle⟩ := settle_pending h hwait ⟨before, index, rest⟩
    [(Expr.word w).program.freshThread] (fun q hq => getD_unmarked (w := w) (by
      have := hshort q hq
      omega)) (2 * w.length + 6 + 1 + 1)
  have hfuel : (Expr.word w).program.settleFuel
      (pending.map Pending.thread ++ [(Expr.word w).program.freshThread])
      = (2 * w.length + 6 + 1 + 1) + pending.length := by
    simp only [Program.settleFuel, size_program_word, List.length_append, List.length_map,
      List.length_singleton]
    omega
  -- All others wait at lower nodes than the new thread will enter.
  have hleft : ∀ n, w.length < n → n < w.length + 3 → seen.getD n true = false := by
    intro n hn hn'
    rw [hseen n fun q hq => ?_]
    · exact getD_unmarked hn'
    · have := hshort q hq
      omega
  rw [settledAt_none, hfuel, hsettle, settle_freshThread hw _ (hleft _ (by omega) (by omega))
    (hleft _ (by omega) (by omega)), List.map_append]
  rfl

/-- No waiting thread is complete. -/
theorem harvest_pending (h : Lined w pending) (hwait : ∀ q ∈ pending, q.left ≠ []) :
    (Expr.word w).program.harvest (pending.map Pending.thread)
      = (pending.map Pending.thread, none) := by
  induction pending with
  | nil => rfl
  | cons q pending ih =>
    obtain ⟨hends, hends'⟩ := List.forall_mem_cons.1 h.ends
    obtain ⟨hwaitq, hwait'⟩ := List.forall_mem_cons.1 hwait
    obtain ⟨S, u, hleft⟩ := List.exists_cons_of_ne_nil hwaitq
    have hnode := Pending.node_thread hends hleft
    have hrest := ih ⟨hends', (List.pairwise_cons.1 h.grows).2⟩ hwait'
    simp only [List.map_cons, Program.harvest, hnode, hrest]

/-- Waiting threads take a character that is in the first of the sets that are left for them. -/
theorem advance_pending (h : Lined w pending) (c : Char) :
    (Expr.word w).program.advance c (pending.map Pending.thread)
      = (pending.filterMap (Pending.take? c)).map Pending.thread := by
  rw [Program.advance, List.filterMap_map, List.map_filterMap]
  refine List.filterMap_congr fun q hq => ?_
  obtain ⟨start, left⟩ := q
  cases left with
  | nil =>
    -- A thread for which nothing is left stands at the node that notes the end.
    have hnode : (Expr.word w).program.nodes.getD (Pending.thread ⟨start, []⟩).node .fail
        = .save 1 0 := node_complete.2
    simp only [Function.comp_apply, hnode]
    rfl
  | cons S u =>
    have hnode := Pending.node_thread (h.ends _ hq) rfl
    simp only [Function.comp_apply, hnode, Pending.take?]
    split <;> rfl

/-! ### A search -/

/-- A thread for which nothing is left completes, and nothing behind it counts. -/
theorem run_complete (before : Option Char) (index start : Nat) (threads : List Thread)
    (rest : Text) :
    (Expr.word w).program.run before index (Pending.thread ⟨start, []⟩ :: threads) none rest
      = some [some start, some index] := by
  have hsettled : ∃ more, (Expr.word w).program.settledAt before index
      (Pending.thread ⟨start, []⟩ :: threads) none rest
        = ⟨0, [some start, some index]⟩ :: more := by
    have hfuel : (Expr.word w).program.settleFuel
        (Pending.thread ⟨start, []⟩ :: threads ++ [(Expr.word w).program.freshThread])
        = (Expr.word w).program.settleFuel threads + 1 + 1 := by
      simp only [Program.settleFuel, List.length_append, List.length_cons, List.length_nil]
      omega
    have hmarked : ((Array.replicate (Expr.word w).program.nodes.size false).setIfInBounds 1
        true).getD 0 true = false := by
      rw [getD_setIfInBounds (by omega), getD_unmarked (by omega)]
    rw [settledAt_none, hfuel, List.cons_append,
      settle_save (getD_unmarked (by simp [Pending.thread])) _ node_complete.2,
      settle_accept hmarked _ node_complete.1]
    exact ⟨_, rfl⟩
  obtain ⟨more, hmore⟩ := hsettled
  have hharvest : (Expr.word w).program.harvest (⟨0, [some start, some index]⟩ :: more)
      = ([], some [some start, some index]) := by
    simp only [Program.harvest, node_complete.1]
  cases rest with
  | nil =>
    rw [run_nil, hmore, hharvest]
    rfl
  | cons c r =>
    rw [run_cons, hmore, hharvest]
    rfl

/-- Where no thread is complete, all of them go on together with the new one. -/
theorem run_pending (h : Lined w pending) (hwait : ∀ q ∈ pending, q.left ≠ [])
    (hshort : ∀ q ∈ pending, q.left.length < w.length) (hw : w ≠ []) (before : Option Char)
    (index : Nat) (rest : Text) :
    (Expr.word w).program.run before index (pending.map Pending.thread) none rest
      = match rest with
        | [] => none
        | c :: r =>
          let taken := (pending ++ [Pending.mk index w]).filterMap (Pending.take? c)
          (Expr.word w).program.run (some c) (index + 1) (taken.map Pending.thread) none r := by
  have hstart := h.start hshort index
  have hwait' := wait_start hwait hw index
  cases rest with
  | nil =>
    rw [run_nil, settledAt_pending h hwait hshort hw, harvest_pending hstart hwait']
    rfl
  | cons c r =>
    rw [run_cons, settledAt_pending h hwait hshort hw, harvest_pending hstart hwait']
    simp only [Option.or_none, Option.isSome_none, Bool.and_false, Bool.false_eq_true, if_false]
    rw [advance_pending hstart]

/-- At most the first thread is complete. -/
theorem Lined.complete_or_wait (h : Lined w pending) :
    (∃ start more, pending = ⟨start, []⟩ :: more) ∨ ∀ q ∈ pending, q.left ≠ [] := by
  cases pending with
  | nil => exact .inr (by simp)
  | cons q more =>
    obtain ⟨start, left⟩ := q
    cases left with
    | nil => exact .inl ⟨start, more, rfl⟩
    | cons S u =>
      refine .inr (List.forall_mem_cons.2 ⟨by simp, fun p hp hnil => ?_⟩)
      have hgrows := (List.pairwise_cons.1 h.grows).1 p hp
      rw [hnil] at hgrows
      simp at hgrows

/-- The first thread that the text goes on with is the same before a character is taken and behind
it. -/
theorem find_take (hwait : ∀ q ∈ pending, q.left ≠ []) (c : Char) (index : Nat) (r : Text) :
    ((pending.filterMap (Pending.take? c)).find? fun q => beginsWith q.left r).map
        (Pending.slots (index + 1))
      = (pending.find? fun q => beginsWith q.left (c :: r)).map (Pending.slots index) := by
  induction pending with
  | nil => rfl
  | cons q pending ih =>
    obtain ⟨hq, hwait'⟩ := List.forall_mem_cons.1 hwait
    obtain ⟨start, left⟩ := q
    obtain ⟨S, u, rfl⟩ := List.exists_cons_of_ne_nil hq
    by_cases hS : S.contains c = true
    · have htake : Pending.take? c ⟨start, S :: u⟩ = some ⟨start, u⟩ := if_pos hS
      rw [List.filterMap_cons_some htake, List.find?_cons, List.find?_cons]
      by_cases hbegins : beginsWith u r = true
      · have hplace : index + 1 + u.length = index + (u.length + 1) := by omega
        simp [beginsWith, hS, hbegins, Pending.slots, hplace]
      · simpa [beginsWith, hS, hbegins] using ih hwait'
    · have htake : Pending.take? c ⟨start, S :: u⟩ = none := if_neg hS
      rw [List.filterMap_cons_none htake, ih hwait', List.find?_cons]
      simp [beginsWith, hS]

/-- A run ends with the first thread that the text goes on with, or else at the first occurrence of
the word. -/
theorem run_word (h : Lined w pending) (hshort : ∀ q ∈ pending, q.left.length < w.length)
    (hw : w ≠ []) (before : Option Char) (index : Nat) (rest : Text) :
    (Expr.word w).program.run before index (pending.map Pending.thread) none rest
      = ((pending.find? fun q => beginsWith q.left rest).map (Pending.slots index)).or
          ((wordPlace? w rest).map fun k => Pending.slots (index + k) ⟨index + k, w⟩) := by
  -- One character is taken at a time. The threads behind it are those that have taken it, and the
  -- one that started in front of it is among them.
  induction rest generalizing before index pending with
  | nil =>
    rcases h.complete_or_wait with ⟨start, more, rfl⟩ | hwait
    · rw [List.map_cons, run_complete]
      rfl
    · have hnone : ∀ u : List CodeSet, u ≠ [] → beginsWith u [] = false := by
        intro u hu
        obtain ⟨S, v, rfl⟩ := List.exists_cons_of_ne_nil hu
        rfl
      have hfind : (pending.find? fun q => beginsWith q.left []) = none :=
        List.find?_eq_none.2 fun q hq => by simp [hnone q.left (hwait q hq)]
      rw [run_pending h hwait hshort hw, hfind, wordPlace?, hnone w hw]
      rfl
  | cons c r ih =>
    rcases h.complete_or_wait with ⟨start, more, rfl⟩ | hwait
    · rw [List.map_cons, run_complete]
      rfl
    · have hstart := h.start hshort index
      rw [run_pending h hwait hshort hw]
      simp only
      rw [ih (hstart.take c) (hstart.length_lt_of_take c), find_take (wait_start hwait hw index),
        List.find?_append, wordPlace?]
      cases pending.find? fun q => beginsWith q.left (c :: r) with
      | some q => rfl
      | none =>
        -- No old thread goes on, so it is for the new one, or for those that start later.
        by_cases hbegins : beginsWith w (c :: r) = true
        · simp [hbegins]
        · have hshift : ∀ k, index + 1 + k = index + (k + 1) := fun k => by omega
          simp [hbegins, Function.comp_def, hshift]

end

/-- A search for a word finds its first occurrence. -/
theorem search_word {w : List CodeSet} (hw : w ≠ []) (here : Cursor) :
    (Expr.word w).program.search here
      = (wordPlace? w here.rest).map fun k =>
          [some (here.index + k), some (here.index + k + w.length)] := by
  have hnone : Lined w [] := ⟨by simp, .nil⟩
  exact run_word hnone (by simp) hw here.before here.index here.rest

/-! ### All matches -/

/-- A match takes characters, so it counts wherever the match before ended. -/
theorem next?_word {w : List CodeSet} (hw : w ≠ []) (here : Cursor) (last : Option Nat) :
    (Expr.word w).program.next? here last = (Expr.word w).program.search here := by
  rw [Program.next?, search_word hw]
  cases wordPlace? w here.rest with
  | none => rfl
  | some k =>
    simp [hw]

/-- A text cut at the occurrences of a word. `gap` is what has been passed over. -/
def cutWord (w : List CodeSet) (gap : Text) : Text → List Segment × Text
  | [] => ([], gap)
  | c :: r =>
    if beginsWith w (c :: r) then
      let (segments, tail) := cutWord w [] (r.drop (w.length - 1))
      (⟨gap, [some ((c :: r).take w.length)]⟩ :: segments, tail)
    else cutWord w (gap ++ [c]) r
termination_by t => t.length
decreasing_by
  · simp only [List.length_drop, List.length_cons]
    omega
  · exact Nat.lt_succ_self r.length

section
variable {w : List CodeSet} {t gap rest : Text} {before : Option Char} {index start : Nat}
  {last : Option Nat} {found : List Slots}

/-- The text between two places with one character more. -/
theorem between_succ {c : Char} {r : Text} (h : t.drop index = c :: r) (hle : start ≤ index) :
    between t start (index + 1) = between t start index ++ [c] := by
  have hat : (t.drop start)[index - start]? = some c := by
    rw [List.getElem?_drop, Nat.add_sub_cancel' hle, ← List.head?_drop, h]
    rfl
  rw [between, Nat.sub_add_comm hle, List.take_add_one, hat]
  rfl

/-- Where no occurrence begins the matches are those one character further on. -/
theorem successive_cons {c : Char} {r : Text} (hw : w ≠ [])
    (hnot : ¬ beginsWith w (c :: r) = true)
    (h : (Expr.word w).program.Successive ⟨before, index, c :: r⟩ last found) :
    (Expr.word w).program.Successive ⟨some c, index + 1, r⟩ last found := by
  have hnext : (Expr.word w).program.next? ⟨before, index, c :: r⟩ last
      = (Expr.word w).program.next? ⟨some c, index + 1, r⟩ last := by
    rw [next?_word hw, next?_word hw, search_word hw, search_word hw, wordPlace?, if_neg hnot,
      Option.map_map]
    refine congrArg (Option.map · _) (funext fun k => ?_)
    have hshift : index + (k + 1) = index + 1 + k := by omega
    simp only [Function.comp_apply, hshift]
  cases h with
  | stop hnone => exact .stop (hnext ▸ hnone)
  | @next _ _ slots more hslots hmore =>
    rw [hnext] at hslots
    have hbehind : index + 1 ≤ slots.stop := by
      rw [next?_word hw, search_word hw] at hslots
      obtain ⟨k, -, rfl⟩ := Option.map_eq_some_iff.1 hslots
      show index + 1 ≤ index + 1 + k + w.length
      omega
    refine .next hslots ?_
    -- The same match stops one step farther away.
    have hstep : slots.stop - index = (slots.stop - (index + 1)) + 1 := by omega
    show (Expr.word w).program.Successive
      (Cursor.advance (slots.stop - (index + 1)) ⟨some c, index + 1, r⟩) _ _
    simpa only [hstep, Cursor.advance] using hmore

/-- Where an occurrence begins it is the next match, and the others follow behind it. -/
theorem exists_cons_of_beginsWith {c : Char} {r : Text} (hw : w ≠ [])
    (hbegins : beginsWith w (c :: r) = true)
    (h : (Expr.word w).program.Successive ⟨before, index, c :: r⟩ last found) :
    ∃ (more : List Slots) (before' : Option Char) (last' : Option Nat),
      found = [some index, some (index + w.length)] :: more ∧
      (Expr.word w).program.Successive ⟨before', index + w.length, r.drop (w.length - 1)⟩ last'
        more := by
  have hnext : (Expr.word w).program.next? ⟨before, index, c :: r⟩ last
      = some [some index, some (index + w.length)] := by
    rw [next?_word hw, search_word hw, wordPlace?, if_pos hbegins]
    rfl
  cases h with
  | stop hnone => simp [hnext] at hnone
  | @next _ _ slots more hslots hmore =>
    obtain rfl := Option.some.inj (hnext.symm.trans hslots)
    have hindex : (Cursor.advance w.length ⟨before, index, c :: r⟩).index = index + w.length :=
      Cursor.index_advance (length_le_of_beginsWith hbegins)
    have hrest := Cursor.rest_advance w.length ⟨before, index, c :: r⟩
    rw [Slots.stop_cons, Nat.add_sub_cancel_left] at hmore
    generalize Cursor.advance w.length ⟨before, index, c :: r⟩ = behind at hindex hrest hmore
    obtain ⟨before', index', rest'⟩ := behind
    obtain rfl : index' = index + w.length := hindex
    obtain rfl : rest' = r.drop (w.length - 1) := by
      obtain ⟨S, u, rfl⟩ := List.exists_cons_of_ne_nil hw
      exact hrest
    exact ⟨more, before', _, rfl, hmore⟩

/-- Successive matches cut what is left of a text at the occurrences of the word. -/
theorem segmentsFrom_word (hw : w ≠ []) (hrest : t.drop index = rest)
    (hgap : between t start index = gap) (hle : start ≤ index)
    (h : (Expr.word w).program.Successive ⟨before, index, rest⟩ last found) :
    segmentsFrom t start found = cutWord w gap rest := by
  fun_induction cutWord w gap rest generalizing before index start last found with
  | case1 gap =>
    cases h with
    | stop =>
      rw [segmentsFrom, ← between_append_drop t hle, hrest, hgap, List.append_nil]
    | next hslots =>
      obtain ⟨S, u, rfl⟩ := List.exists_cons_of_ne_nil hw
      simp [next?_word hw, search_word hw, wordPlace?, beginsWith] at hslots
  | case2 gap c r hbegins segments tail hcut ih =>
    obtain ⟨more, before', last', rfl, hmore⟩ := exists_cons_of_beginsWith hw hbegins h
    have hdrop : t.drop (index + w.length) = r.drop (w.length - 1) := by
      obtain ⟨S, u, rfl⟩ := List.exists_cons_of_ne_nil hw
      rw [← List.drop_drop, hrest]
      rfl
    have hmatch : between t index (index + w.length) = (c :: r).take w.length := by
      rw [between, hrest, Nat.add_sub_cancel_left]
    have hmore' := (ih hdrop (by simp [between]) (Nat.le_refl _) hmore).trans hcut
    simp only [segmentsFrom, Slots.start_cons, Slots.stop_cons, hmore', hgap, groupTexts, hmatch]
  | case3 gap c r hnot ih =>
    refine ih ?_ ?_ (Nat.le_succ_of_le hle) (successive_cons hw hnot h)
    · show t.drop (index + 1) = r
      rw [← List.drop_drop, hrest]
      rfl
    · rw [between_succ hrest hle, hgap]

end

/-- A compiled pattern that takes a word. -/
def ofWord (w : List CodeSet) : Regex := ⟨.word w, (Expr.word w).program⟩

/-- The segments of a text are those between the occurrences of the word. -/
theorem segments_ofWord {w : List CodeSet} (hw : w ≠ []) (t : Text) :
    (ofWord w).segments t = cutWord w [] t :=
  segmentsFrom_word hw rfl (by simp [between]) (Nat.le_refl 0)
    (successive_matches (Expr.framed_program _) t)

end SearchLink.Regex
