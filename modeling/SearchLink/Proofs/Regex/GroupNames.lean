import Mathlib.Data.List.Basic
import Mathlib.Data.List.Perm.Subperm
import SearchLink.Regex.Compile

/-!
# `SearchLink.Proofs.Regex.GroupNames`: a name stands for one group

The reader of patterns refuses a group whose name another group has. What it has read so far is
spread over the items and branches of the group that is open and of all groups around it, and
the simplification of repetitions may drop groups again. `ParseState.groups` collects them.

* `groupStep_of_parseItem`: reading one item leaves the groups as they were, in any order and
  perhaps with fewer of them, or adds one group whose name is new.
* `NamesOnce.parseLoop`: so no name is ever given to two groups.
* `compile?_groups_unique` says it of a compiled pattern, and `groupIndex?_eq_some_iff` what a name
  is resolved to there.
-/

set_option autoImplicit false

namespace SearchLink.Regex

/-! ### The groups of composed expressions -/

/-- A sequence has the groups of its parts. -/
theorem groups_sequence (es : List Expr) :
    (Expr.sequence es).groups = es.flatMap Expr.groups := by
  induction es with
  | nil => rfl
  | cons e es ih =>
    cases es with
    | nil => simp [Expr.sequence]
    | cons e' es => simp [Expr.sequence, Expr.groups, ih]

/-- A choice has the groups of its branches. -/
theorem groups_choice (es : List Expr) :
    (Expr.choice es).groups = es.flatMap Expr.groups := by
  induction es with
  | nil => rfl
  | cons e es ih =>
    cases es with
    | nil => simp [Expr.choice]
    | cons e' es => simp [Expr.choice, Expr.groups, ih]

/-- A repetition has the groups of its body, or none. -/
theorem groups_repeated_sublist (least : Nat) (most : Option Nat) (greedy : Bool) (body : Expr) :
    (Expr.repeated least most greedy body).groups.Sublist body.groups := by
  -- Whatever the bounds are simplified to, three things can come of it.
  have hcases : ∀ (l : Nat) (m : Option Nat), (if m = some 0 then Expr.empty
      else if l = 1 && m = some 1 then body else Expr.loop l m greedy body).groups.Sublist
        body.groups := by
    intro l m
    split
    · exact List.nil_sublist _
    · split
      · exact List.Sublist.refl _
      · exact List.Sublist.refl _
  exact hcases _ _

/-- The groups of some items. -/
def itemGroups (items : List Item) : List (Nat × Option Text) :=
  items.flatMap fun item => item.expr.groups

/-- Items in a row have the groups of the items. -/
theorem groups_sequenceItem (items : List Item) :
    (sequenceItem items).expr.groups = itemGroups items := by
  rw [sequenceItem, groups_sequence, List.flatMap_map, itemGroups]

/-- Branches have the groups of the branches. -/
theorem groups_choiceItem (branches : List Item) :
    (choiceItem branches).expr.groups = itemGroups branches := by
  rw [choiceItem, groups_choice, List.flatMap_map, itemGroups]

/-- The order of items does not matter. -/
theorem itemGroups_reverse (items : List Item) :
    (itemGroups items.reverse).Perm (itemGroups items) :=
  items.reverse_perm.flatMap_right _

/-! ### The groups of a state -/

/-- The groups that surround an open group, and the open group itself. -/
def GroupFrame.groups (frame : GroupFrame) : List (Nat × Option Text) :=
  frame.capture.toList ++ (itemGroups frame.items ++ itemGroups frame.branches)

/-- All groups that have been read. -/
def ParseState.groups (s : ParseState) : List (Nat × Option Text) :=
  itemGroups s.items ++ itemGroups s.branches ++ s.frames.flatMap GroupFrame.groups

/-- A group that closes keeps the groups in it. -/
theorem groups_close (s : ParseState) :
    s.close.expr.groups.Perm (itemGroups s.items ++ itemGroups s.branches) := by
  rw [ParseState.close, groups_choiceItem]
  refine (itemGroups_reverse _).trans ?_
  rw [itemGroups, List.flatMap_cons, groups_sequenceItem]
  exact (itemGroups_reverse s.items).append_right _

/-- What reading an item does to the groups and the names of a state. -/
inductive GroupStep (s s' : ParseState) : Prop where
  /-- No group is added. -/
  | keep (groups : s'.groups.Subperm s.groups) (names : s'.names = s.names)
  /-- One group is added, under no name or a new one. -/
  | add (g : Nat × Option Text) (groups : s'.groups.Perm (g :: s.groups))
      (names : s'.names = g.2.toList ++ s.names) (new : ∀ name ∈ g.2, name ∉ s.names)

/-- An item without groups adds none. -/
theorem groupStep_push {s : ParseState} {item : Item} (rest : Text)
    (h : item.expr.groups = []) : GroupStep s (s.push item rest) := by
  refine .keep (List.Perm.subperm (.of_eq ?_)) rfl
  simp [ParseState.groups, ParseState.push, itemGroups, h]

/-- A character has no groups. -/
theorem groups_literal? {flags : Flags} {c : Char} {byte : Bool} {e : Expr}
    (h : flags.literal? c byte = some e) : e.groups = [] := by
  unfold Flags.literal? at h
  split at h
  · simp at h
  · exact Option.some.inj h ▸ rfl

/-- The dot has no groups. -/
theorem groups_dot? {flags : Flags} {e : Expr} (h : flags.dot? = some e) : e.groups = [] := by
  unfold Flags.dot? at h
  repeat' split at h
  · simp at h
  all_goals exact Option.some.inj h ▸ rfl

/-- A group that is remembered is added, if its name is new. -/
theorem groupStep_openCapture {s s' : ParseState} {name : Option Text} {rest : Text}
    (h : openCapture s name rest = some s') : GroupStep s s' := by
  unfold openCapture at h
  split at h
  · simp at h
  · rename_i hnew
    obtain rfl := Option.some.inj h
    refine .add (s.captures + 1, name) ?_ rfl ?_
    · simp [ParseState.groups, GroupFrame.groups, itemGroups]
    · intro n hn hmem
      obtain rfl := hn
      exact hnew (by simpa using hmem)

/-- Opening a group, or setting flags, adds at most that group. -/
theorem groupStep_openGroup {s s' : ParseState} {t : Text} (h : openGroup s t = some s') :
    GroupStep s s' := by
  unfold openGroup at h
  dsimp only at h
  split at h
  · simp at h
  · split at h
    · simp only [Option.bind_eq_bind, Option.bind_eq_some_iff, Prod.exists] at h
      obtain ⟨name, r, -, h⟩ := h
      exact groupStep_openCapture h
    · split at h
      · simp only [Option.bind_eq_bind, Option.bind_eq_some_iff, Prod.exists] at h
        obtain ⟨name, r, -, h⟩ := h
        exact groupStep_openCapture h
      · split at h
        · simp only [Option.bind_eq_bind, Option.bind_eq_some_iff, Prod.exists] at h
          obtain ⟨flags, anySet, mark, r, -, h⟩ := h
          split at h
          · split at h
            · -- Flags alone: an empty item stands for them.
              obtain rfl := Option.some.inj h
              refine .keep (List.Perm.subperm (.of_eq ?_)) rfl
              simp [ParseState.groups, ParseState.push, itemGroups, Expr.groups]
            · simp at h
          · -- A group that is not remembered takes the items around it along.
            obtain rfl := Option.some.inj h
            refine .keep (List.Perm.subperm (.of_eq ?_)) rfl
            simp [ParseState.groups, GroupFrame.groups, itemGroups]
        · exact groupStep_openCapture h

/-- A group that closes is what stood on the stack with its body. -/
theorem groupStep_closeGroup {s s' : ParseState} {rest : Text}
    (h : closeGroup s rest = some s') : GroupStep s s' := by
  unfold closeGroup at h
  split at h
  · simp at h
  · rename_i frame frames hframes
    obtain rfl := Option.some.inj h
    refine .keep (List.Perm.subperm (List.perm_iff_count.2 fun g => ?_)) rfl
    have hbody := (groups_close s).count_eq g
    obtain ⟨_ | ⟨index, name⟩, flags, items, branches⟩ := frame <;>
      simp only [ParseState.groups, GroupFrame.groups, itemGroups, hframes, List.flatMap_cons,
        Expr.groups, Option.toList, List.count_append, List.count_cons, List.count_nil]
        at hbody ⊢ <;>
      omega

/-- A repetition has the groups of the item that it repeats, or none. -/
theorem groupStep_repeatLast {s s' : ParseState} {least : Nat} {most : Option Nat}
    {greedy : Bool} {rest : Text} (h : repeatLast s least most greedy rest = some s') :
    GroupStep s s' := by
  unfold repeatLast at h
  split at h
  · rename_i item items hitems
    split at h
    · obtain rfl := Option.some.inj h
      have hsub := groups_repeated_sublist least most (greedy != s.flags.swapGreed) item.expr
      refine .keep (List.Sublist.subperm ?_) rfl
      simp only [ParseState.groups, itemGroups, hitems, List.flatMap_cons, List.append_assoc]
      exact hsub.append (List.Sublist.refl _)
    · simp at h
  · simp at h

/-- Reading an item adds at most one group. -/
theorem groupStep_of_parseItem {s s' : ParseState} {c : Char} {r : Text}
    (h : parseItem s c r = some s') : GroupStep s s' := by
  unfold parseItem at h
  by_cases hopen : c = '('
  · rw [if_pos hopen] at h
    exact groupStep_openGroup h
  rw [if_neg hopen] at h
  by_cases hclose : c = ')'
  · rw [if_pos hclose] at h
    exact groupStep_closeGroup h
  rw [if_neg hclose] at h
  by_cases hbar : c = '|'
  · rw [if_pos hbar] at h
    -- A bar ends a branch.
    obtain rfl := Option.some.inj h
    refine .keep (List.Perm.subperm ?_) rfl
    simp only [ParseState.groups, itemGroups, List.flatMap_cons, List.flatMap_nil, List.nil_append,
      groups_sequenceItem]
    exact ((itemGroups_reverse s.items).append_right _).append_right _
  rw [if_neg hbar] at h
  by_cases hbracket : c = '['
  · rw [if_pos hbracket] at h
    obtain ⟨⟨part, r'⟩, -, rfl⟩ := Option.map_eq_some_iff.1 h
    exact groupStep_push _ rfl
  rw [if_neg hbracket] at h
  by_cases hmark : c = '?'
  · rw [if_pos hmark] at h
    exact groupStep_repeatLast h
  rw [if_neg hmark] at h
  by_cases hstar : c = '*'
  · rw [if_pos hstar] at h
    exact groupStep_repeatLast h
  rw [if_neg hstar] at h
  by_cases hplus : c = '+'
  · rw [if_pos hplus] at h
    exact groupStep_repeatLast h
  rw [if_neg hplus] at h
  by_cases hbrace : c = '\x7b'
  · rw [if_pos hbrace] at h
    obtain ⟨⟨least, most, r'⟩, -, h⟩ := Option.bind_eq_some_iff.1 h
    exact groupStep_repeatLast h
  rw [if_neg hbrace] at h
  by_cases hescape : c = '\\'
  · rw [if_pos hescape] at h
    obtain ⟨⟨primitive, r'⟩, -, h⟩ := Option.bind_eq_some_iff.1 h
    cases primitive with
    | literal c byte =>
      obtain ⟨e, he, rfl⟩ := Option.map_eq_some_iff.1 h
      exact groupStep_push _ (groups_literal? he)
    | chars set =>
      obtain rfl := Option.some.inj h
      exact groupStep_push _ rfl
    | look condition =>
      obtain rfl := Option.some.inj h
      exact groupStep_push _ rfl
  rw [if_neg hescape] at h
  by_cases hdot : c = '.'
  · rw [if_pos hdot] at h
    obtain ⟨e, he, rfl⟩ := Option.map_eq_some_iff.1 h
    exact groupStep_push _ (groups_dot? he)
  rw [if_neg hdot] at h
  by_cases hcaret : c = '^'
  · rw [if_pos hcaret] at h
    obtain rfl := Option.some.inj h
    exact groupStep_push _ rfl
  rw [if_neg hcaret] at h
  by_cases hdollar : c = '$'
  · rw [if_pos hdollar] at h
    obtain rfl := Option.some.inj h
    exact groupStep_push _ rfl
  rw [if_neg hdollar] at h
  obtain ⟨e, he, rfl⟩ := Option.map_eq_some_iff.1 h
  exact groupStep_push _ (groups_literal? he)

/-! ### Names -/

/-- No name is given to two groups, and the names that are given are known. -/
structure NamesOnce (s : ParseState) : Prop where
  /-- A name is given once at most. -/
  once : ∀ name, s.groups.countP (fun g => g.2 = some name) ≤ 1
  /-- The name of a group is known. -/
  known : ∀ g ∈ s.groups, ∀ name ∈ g.2, name ∈ s.names

/-- One item keeps names apart. -/
theorem NamesOnce.step {s s' : ParseState} (h : NamesOnce s) (hstep : GroupStep s s') :
    NamesOnce s' := by
  cases hstep with
  | keep groups names =>
    refine ⟨fun name => Nat.le_trans (groups.countP_le _) (h.once name), fun g hg => ?_⟩
    rw [names]
    exact h.known g (groups.subset hg)
  | add g groups names new =>
    refine ⟨fun name => ?_, fun g' hg' name hname => ?_⟩
    · rw [groups.countP_eq, List.countP_cons]
      by_cases hg : g.2 = some name
      · -- The new group is the first one with its name, since that was not known.
        have hnone : s.groups.countP (fun g => g.2 = some name) = 0 := by
          rw [List.countP_eq_zero]
          intro g' hg' hname
          exact new name hg (h.known g' hg' name (of_decide_eq_true hname))
        rw [hnone, Nat.zero_add]
        split
        · exact Nat.le_refl 1
        · exact Nat.zero_le 1
      · rw [if_neg (by simpa using hg), Nat.add_zero]
        exact h.once name
    · rw [names, List.mem_append]
      obtain rfl | hg' := List.mem_cons.1 (groups.mem_iff.1 hg')
      · exact .inl (Option.mem_toList.2 hname)
      · exact .inr (h.known g' hg' name hname)

/-- Reading items keeps names apart. -/
theorem NamesOnce.parseLoop {fuel : Nat} {s s' : ParseState} (h : NamesOnce s)
    (hread : Regex.parseLoop fuel s = some s') : NamesOnce s' := by
  induction fuel generalizing s with
  | zero =>
    simp only [Regex.parseLoop] at hread
    split at hread
    · exact Option.some.inj hread ▸ h
    · simp at hread
  | succ fuel ih =>
    simp only [Regex.parseLoop] at hread
    split at hread
    · exact Option.some.inj hread ▸ h
    · obtain ⟨s₁, hitem, hread⟩ := Option.bind_eq_some_iff.1 hread
      exact ih (h.step (groupStep_of_parseItem hitem)) hread

/-- In a pattern that reads no name is given to two groups. -/
theorem countP_groups_le_of_parse? {flags : Flags} {pattern : Text} {e : Expr}
    (h : parse? flags pattern = some e) (name : Text) :
    e.groups.countP (fun g => g.2 = some name) ≤ 1 := by
  simp only [parse?, Option.bind_eq_bind, Option.bind_eq_some_iff] at h
  obtain ⟨s, hread, h⟩ := h
  split at h
  · split at h
    · obtain rfl := Option.some.inj h
      have hempty : NamesOnce { flags := flags, rest := pattern } :=
        ⟨fun name => Nat.zero_le _, fun g hg => absurd hg List.not_mem_nil⟩
      have hcount : s.close.expr.groups.countP (fun g => g.2 = some name)
          ≤ s.groups.countP fun g => g.2 = some name := by
        rw [(groups_close s).countP_eq, ParseState.groups]
        exact (List.sublist_append_left _ _).countP_le
      exact Nat.le_trans hcount ((hempty.parseLoop hread).once name)
    · simp at h
  · simp at h

/-- **In a compiled pattern a name stands for one group.** -/
theorem compile?_groups_unique {flags : Flags} {pattern : Text} {re : Regex}
    (h : compile? flags pattern = some re) {name : Text} {m n : Nat}
    (hm : (m, some name) ∈ re.expr.groups) (hn : (n, some name) ∈ re.expr.groups) : m = n := by
  obtain ⟨e, hparse, h⟩ := Option.bind_eq_some_iff.1 h
  split at h
  · obtain rfl := Option.some.inj h
    have hcount := countP_groups_le_of_parse? hparse name
    rw [List.countP_eq_length_filter] at hcount
    have hm' : (m, some name) ∈ e.groups.filter fun g => g.2 = some name :=
      List.mem_filter.2 ⟨hm, by simp⟩
    have hn' : (n, some name) ∈ e.groups.filter fun g => g.2 = some name :=
      List.mem_filter.2 ⟨hn, by simp⟩
    -- A list of at most one group holds no two different ones.
    generalize (e.groups.filter fun g => g.2 = some name) = named at hcount hm' hn'
    obtain ⟨g, rfl⟩ := List.length_eq_one_iff.1
      (Nat.le_antisymm hcount (List.length_pos_of_mem hm'))
    rw [List.mem_singleton] at hm' hn'
    exact congrArg Prod.fst (hm'.trans hn'.symm)
  · simp at h

/-- The group that a name is resolved to is the one that has it. -/
theorem groupIndex?_eq_some_iff {flags : Flags} {pattern : Text} {re : Regex}
    (h : compile? flags pattern = some re) {name : Text} {n : Nat} :
    re.groupIndex? name = some n ↔ (n, some name) ∈ re.expr.groups := by
  constructor
  · intro hindex
    obtain ⟨⟨m, name'⟩, hfind, rfl⟩ := Option.map_eq_some_iff.1 hindex
    have hname : name' = some name := by simpa using List.find?_some hfind
    exact hname ▸ List.mem_of_find?_eq_some hfind
  · intro hmem
    cases hindex : re.groupIndex? name with
    | none =>
      have hnone := List.find?_eq_none.1 (Option.map_eq_none_iff.1 hindex) _ hmem
      simp at hnone
    | some m =>
      obtain ⟨⟨m', name'⟩, hfind, rfl⟩ := Option.map_eq_some_iff.1 hindex
      have hname : name' = some name := by simpa using List.find?_some hfind
      have hmem' : (m', some name) ∈ re.expr.groups := hname ▸ List.mem_of_find?_eq_some hfind
      exact congrArg some (compile?_groups_unique h hmem' hmem)

end SearchLink.Regex
