import SearchLink.Regex.Expansion

/-!
# `SearchLink.Template.Dialect`: how templates write patterns

Templates write patterns, flags and replacement targets in the manner of a browser. This
module turns them into what `SearchLink.Regex` reads.

* In a pattern `\d`, `\w`, `\D`, `\W` and `\b` mean ASCII. `narrowShorthands` writes the
  classes out and marks the boundary.
* Of the flags only `i`, `m` and `s` change anything; `g`, `u`, `d` and `v` are allowed.
  A repeated or unknown flag makes the pattern invalid.
* In a target `$&` is the whole match, `$1` to `$99` are groups, `$<name>` is a named
  group and `$$` a dollar sign. `expandTarget` writes these as an expansion.
-/

set_option autoImplicit false

namespace SearchLink.Template

/-- The class that a shorthand stands for, written out. -/
def shorthandClass? (c : Char) : Option Text :=
  if c = 'd' then some "[0-9]".toList
  else if c = 'D' then some "[^0-9]".toList
  else if c = 'w' then some "[0-9A-Za-z_]".toList
  else if c = 'W' then some "[^0-9A-Za-z_]".toList
  else none

/-- Writes the shorthands of a pattern out as ASCII classes, and marks `\b` outside of
brackets as an ASCII boundary. `inClass` tells whether the last bracket was an opening
one. -/
def narrowShorthands (inClass : Bool) : Text → Text
  | [] => []
  | ['\\'] => ['\\']
  | '\\' :: c :: r =>
    match shorthandClass? c with
    | some written => written ++ narrowShorthands inClass r
    | none =>
      if c = 'b' && !inClass then "(?-u:\\b)".toList ++ narrowShorthands inClass r
      else '\\' :: c :: narrowShorthands inClass r
  | '[' :: r => '[' :: narrowShorthands true r
  | ']' :: r => ']' :: narrowShorthands false r
  | c :: r => c :: narrowShorthands inClass r

/-- What a letter adds to the flags that have been read; `none` if it is no flag. -/
def addFlag? (flags : Regex.Flags) (c : Char) : Option Regex.Flags :=
  if c = 'i' then some { flags with caseInsensitive := true }
  else if c = 'm' then some { flags with multiLine := true }
  else if c = 's' then some { flags with dotAll := true }
  else if c = 'g' || c = 'u' || c = 'd' || c = 'v' then some flags
  else none

/-- Reads flags letter by letter. `seen` are the letters in front, none of which may come
again, and `flags` is what they say. -/
def readFlagsFrom? (seen : Text) (flags : Regex.Flags) : Text → Option Regex.Flags
  | [] => some flags
  | c :: r =>
    if seen.contains c then none
    else (addFlag? flags c).bind fun flags => readFlagsFrom? (seen ++ [c]) flags r

/-- What a text of flags says; `none` when a flag is repeated or unknown. -/
def readFlags? (flags : Text) : Option Regex.Flags := readFlagsFrom? [] {} flags

/-- Compiles a pattern with its flags. -/
def compilePattern? (source flags : Text) : Option Regex :=
  (readFlags? flags).bind fun flags => Regex.compile? flags (narrowShorthands false source)

/-- A reference in braces, as an expansion writes it. -/
def braced (name : Text) : Text := "$\x7b".toList ++ name ++ "\x7d".toList

/-- Whether the name of a group can be referred to: ASCII letters, digits and underscores,
at least one. -/
def isReferableName (name : Text) : Bool := !name.isEmpty && name.all Regex.isReferenceChar

/-- The number of one or two digits at the start of a text that is the number of a group,
and the text behind it. Two digits are preferred. -/
def readGroupNumber? (groups : Nat) (t : Text) : Option (Nat × Text) :=
  let isGroup (n : Nat) : Bool := 0 < n && n < groups
  match t with
  | [] => none
  | c :: r =>
    match Text.digitValue? c with
    | none => none
    | some first =>
      let two : Option (Nat × Text) :=
        match r with
        | [] => none
        | d :: r' =>
          (Text.digitValue? d).bind fun second =>
            if isGroup (10 * first + second) then some (10 * first + second, r') else none
      match two with
      | some found => some found
      | none => if isGroup first then some (first, r) else none

theorem readGroupNumber?_length {groups n : Nat} {t r : Text}
    (h : readGroupNumber? groups t = some (n, r)) : r.length < t.length := by
  unfold readGroupNumber? at h
  split at h
  · simp at h
  · rename_i c r₀
    split at h
    · simp at h
    · rename_i first _
      dsimp only at h
      split at h
      · rename_i found hfound
        obtain rfl := Option.some.inj h
        split at hfound
        · simp at hfound
        · rename_i d r'
          obtain ⟨second, _, h₂⟩ := Option.bind_eq_some_iff.1 hfound
          split at h₂
          · simp only [Option.some.injEq, Prod.mk.injEq] at h₂
            obtain ⟨-, rfl⟩ := h₂
            simp only [List.length_cons]
            omega
          · simp at h₂
      · split at h
        · simp only [Option.some.injEq, Prod.mk.injEq] at h
          obtain ⟨-, rfl⟩ := h
          simp
        · simp at h

/-- The expansion that a replacement target stands for, for a pattern with `groups` groups,
counting the whole match; `named` tells whether any of them has a name. -/
def expandTarget (groups : Nat) (named : Bool) : Text → Text
  | [] => []
  | '$' :: '$' :: r => '$' :: '$' :: expandTarget groups named r
  | '$' :: '&' :: r => braced ['0'] ++ expandTarget groups named r
  | '$' :: '<' :: r =>
    if named && r.contains '>' then
      let name := r.takeWhile (· ≠ '>')
      (if isReferableName name then braced name else []) ++
        expandTarget groups named ((r.dropWhile (· ≠ '>')).drop 1)
    else '$' :: '$' :: '<' :: expandTarget groups named r
  | '$' :: r =>
    match _number : readGroupNumber? groups r with
    | some (n, rest) => braced (Text.ofNatural n) ++ expandTarget groups named rest
    | none => '$' :: '$' :: expandTarget groups named r
  | c :: r => c :: expandTarget groups named r
termination_by t => t.length
decreasing_by
  all_goals first
    | (have h := readGroupNumber?_length _number
       simp only [List.length_cons]
       omega)
    | (have h := (List.dropWhile_suffix (· ≠ '>') (l := r)).length_le
       simp only [List.length_drop, List.length_cons]
       omega)

end SearchLink.Template
