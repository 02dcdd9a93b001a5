import Mathlib.Tactic.SplitIfs
import SearchLink.Proofs.Loop
import SearchLink.Proofs.Template.Grammar

/-!
# `SearchLink.Proofs.Template.ChainScan`: reading a chain by a position

`readChain` reads a chain by recursion on the text. Here it is read by a machine that stands at a
byte position of the whole template. `Reading` says which part of a block it is in and what it has
read of it; `scanTurn` looks at the character at the position and goes on. Looking inside a
character or past the end faults. One kind of turn consumes nothing: behind an opening brace the
machine decides between a pattern and a plain source, and leaves the first character of a plain
source to the next turn.

`Reading.finish` is what the readers make of the rest in each state. A turn does not change it, so
the machine reads what `readChain` reads (`scanTurn_sound`). Each turn takes at least a character
from the rest, or leaves the state that decides; two for each character and one for that state
pay for all of them.
-/

set_option autoImplicit false

namespace SearchLink.Template

/-! ### The machine -/

/-- The part of a chain that is being read, with what has been read of it. -/
inductive Reading where
  /-- Between two blocks. -/
  | between
  /-- Behind an opening brace, before anything of the block is read. -/
  | braces
  /-- The source of a pattern. -/
  | pattern (source : Text)
  /-- The flags of a pattern. -/
  | flags (source flags : Text)
  /-- The source of a replacement, perhaps behind a backslash. -/
  | source (source : Text) (escaped : Bool)
  /-- The target of a replacement, perhaps behind a backslash. A pattern has flags. -/
  | target (source : Text) (flags : Option Text) (target : Text) (escaped : Bool)
  /-- The name of a function. -/
  | function (name : Text)
  /-- An index, or the first bound of a slice. -/
  | first (first : Text)
  /-- The second bound of a slice. -/
  | second (first second : Text)
  deriving Repr, DecidableEq

/-- Where the machine stands. -/
structure Scan where
  /-- The byte in front of which it stands. -/
  pos : Nat
  /-- What it is reading. -/
  reading : Reading
  /-- The modifications of the blocks that are read. -/
  chain : Chain
  deriving Repr, DecidableEq

/-- What the machine ends with: the byte behind the chain, and the chain. -/
abbrev ScanTurn := Turn Scan (Option (Nat × Chain))

/-- The modification that a target completes. -/
def replacementOf (source : Text) : Option Text → Text → Modification
  | none, target => .replacement source target
  | some flags, target => .regexReplacement source flags target

/-- Behind the character at the position, in the same block. -/
def Scan.goOn (s : Scan) (c : Char) (reading : Reading) : Scan :=
  { s with pos := s.pos + c.utf8Size, reading := reading }

/-- Behind the character at the position, which ends a block. -/
def Scan.push (s : Scan) (c : Char) (m : Modification) : Scan :=
  { pos := s.pos + c.utf8Size, reading := .between, chain := s.chain ++ [m] }

/-- Looks at the character at a position. At the end of the template the chain is malformed. -/
def peek (template : Text) (pos : Nat) (go : Char → ScanTurn) : ScanTurn :=
  match template.dropBytes? pos with
  | none => .fault
  | some [] => .done none
  | some (c :: _) => go c

/-- What the machine makes of the character at its position. -/
def Scan.take (template : Text) (s : Scan) (c : Char) : ScanTurn :=
  match s.reading with
  | .between =>
    if c = '}' then .done (some (s.pos + c.utf8Size, s.chain))
    else if c = '{' then .next (s.goOn c .braces)
    else if c = '[' then .next (s.goOn c (.first []))
    else if c = '(' then .next (s.goOn c (.function []))
    else if c = ' ' then .next (s.goOn c .between)
    else .done none
  | .braces =>
    if (template.dropBytes? s.pos).any (Text.startsWith "re/".toList) then
      .next { s with pos := s.pos + 3, reading := .pattern [] }
    else .next { s with reading := .source [] false }
  | .pattern source =>
    if c = '/' then .next (s.goOn c (.flags source []))
    else if c = '\\' then
      peek template (s.pos + c.utf8Size) fun d =>
        let read := if d = '/' then [d] else [c, d]
        .next ((s.goOn c .between).goOn d (.pattern (source ++ read)))
    else .next (s.goOn c (.pattern (source ++ [c])))
  | .flags source flags =>
    if c = '|' then .next (s.goOn c (.target source (some flags) [] false))
    else if c = '}' then .next (s.push c (.regexMatch source flags))
    else if c = '{' then .done none
    else .next (s.goOn c (.flags source (flags ++ [c])))
  | .source source escaped =>
    if escaped then .next (s.goOn c (.source (source ++ [c]) false))
    else if c = '\\' then .next (s.goOn c (.source source true))
    else if c = '|' then .next (s.goOn c (.target source none [] false))
    else if c = '{' || c = '}' then .done none
    else .next (s.goOn c (.source (source ++ [c]) false))
  | .target source flags target escaped =>
    if escaped then .next (s.goOn c (.target source flags (target ++ [c]) false))
    else if c = '\\' then .next (s.goOn c (.target source flags target true))
    else if c = '}' then .next (s.push c (replacementOf source flags target))
    else if c = '|' || c = '{' then .done none
    else .next (s.goOn c (.target source flags (target ++ [c]) false))
  | .function name =>
    if c = ')' then .next (s.push c (.function name))
    else .next (s.goOn c (.function (name ++ [c])))
  | .first first =>
    if c = ']' then
      match (Text.int64? first).bind singleIndex with
      | some slice => .next (s.push c slice)
      | none => .done none
    else if c = ':' then .next (s.goOn c (.second first []))
    else .next (s.goOn c (.first (first ++ [c])))
  | .second first second =>
    if c = ']' then
      match readBound first, readBound second with
      | some start, some stop => .next (s.push c (.slice start stop))
      | _, _ => .done none
    else .next (s.goOn c (.second first (second ++ [c])))

/-- One turn: the machine looks at the character at its position. -/
def scanTurn (template : Text) (s : Scan) : ScanTurn := peek template s.pos (s.take template)

/-- Where the machine starts: behind the name of a token. -/
def Scan.start (pos : Nat) : Scan := ⟨pos, .between, []⟩

/-! ### What is left to read -/

section
variable {β : Type}

/-- A part of a block behind what has been read of it. -/
def resume (before : Text) (part : Option (Text × β)) : Option (Text × β) :=
  part.map fun p => (before ++ p.1, p.2)

/-- At the start of a part nothing has been read of it. -/
theorem resume_nil (part : Option (Text × β)) : resume [] part = part := by
  cases part <;> rfl

/-- At its end all of it has been read. -/
theorem resume_end (before : Text) (r : β) : resume before (some ([], r)) = some (before, r) := by
  rw [resume, Option.map_some, List.append_nil]

/-- A character that is read counts as read before. -/
theorem resume_cons (before read : Text) (part : Option (Text × β)) :
    resume before (part.map fun p => (read ++ p.1, p.2)) = resume (before ++ read) part := by
  cases part <;> simp [resume]

end

/-- The rest of a target. -/
def readTarget (source : Text) (flags : Option Text) (target t : Text) :
    Option (Modification × Text) :=
  (resume target (readPlain '}' t)).map fun part => (replacementOf source flags part.1, part.2)

/-- The rest of a plain source, and the target. -/
def readSource (source t : Text) : Option (Modification × Text) :=
  (resume source (readPlain '|' t)).bind fun part => readTarget part.1 none [] part.2

/-- The rest of the flags, and the target if there is one. -/
def readFlags (source flags t : Text) : Option (Modification × Text) :=
  (resume flags (readUntil isBraceOrBar t)).bind fun part =>
    if part.2.1 = '}' then some (.regexMatch source part.1, part.2.2)
    else if part.2.1 = '|' then readTarget source (some part.1) [] part.2.2
    else none

/-- The rest of the source of a pattern, and what follows it. -/
def readRegex (source t : Text) : Option (Modification × Text) :=
  (resume source (readPattern t)).bind fun part => readFlags part.1 [] part.2

/-- The rest of the name of a function. -/
def readName (name t : Text) : Option (Modification × Text) :=
  (resume name (readUntil (· = ')') t)).map fun part => (.function part.1, part.2.2)

/-- The rest of the second bound. -/
def readSecond (first second t : Text) : Option (Modification × Text) :=
  (resume second (readUntil (· = ']') t)).bind fun part =>
    (readBound first).bind fun start =>
      (readBound part.1).map fun stop => (.slice start stop, part.2.2)

/-- The rest of an index, or of the first bound and the second one. -/
def readFirst (first t : Text) : Option (Modification × Text) :=
  (resume first (readUntil (fun c => c = ']' || c = ':') t)).bind fun part =>
    if part.2.1 = ']' then
      ((Text.int64? part.1).bind singleIndex).map fun slice => (slice, part.2.2)
    else readSecond part.1 [] part.2.2

/-- A block, and the chain behind it. -/
def thenChain (block : Option (Modification × Text)) : Option (Chain × Text) :=
  block.bind fun b => (readChain b.2).map fun p => (b.1 :: p.1, p.2)

/-- What the readers make of the rest of a chain. -/
def readOn : Reading → Text → Option (Chain × Text)
  | .between, t => readChain t
  | .braces, t => thenChain (readBraces t)
  | .pattern source, t => thenChain (readRegex source t)
  | .flags source flags, t => thenChain (readFlags source flags t)
  | .source source false, t => thenChain (readSource source t)
  | .source _ true, [] => none
  | .source source true, c :: r => thenChain (readSource (source ++ [c]) r)
  | .target source flags target false, t => thenChain (readTarget source flags target t)
  | .target _ _ _ true, [] => none
  | .target source flags target true, c :: r =>
    thenChain (readTarget source flags (target ++ [c]) r)
  | .function name, t => thenChain (readName name t)
  | .first first, t => thenChain (readFirst first t)
  | .second first second, t => thenChain (readSecond first second t)

/-! ### Blocks -/

/-- Behind the letters `re/` stands a pattern. -/
theorem readBraces_pattern (r : Text) :
    readBraces ("re/".toList ++ r) = readRegex [] r := by
  have hre : Text.stripStart? "re/".toList ("re/".toList ++ r) = some r :=
    Text.stripStart?_eq_some_iff.2 rfl
  simp only [readBraces, hre, readRegex, readFlags, resume_nil, Option.bind_eq_bind]
  congr 1
  funext part
  simp only [readTarget, resume_nil]
  cases readUntil isBraceOrBar part.2 with
  | none => rfl
  | some flags =>
    simp only [Option.bind_some]
    split
    · rfl
    · split
      · cases readPlain '}' flags.2.2 <;> rfl
      · rfl

/-- Without them a plain source does. -/
theorem readBraces_plain {t : Text} (h : Text.startsWith "re/".toList t = false) :
    readBraces t = readSource [] t := by
  have hre : Text.stripStart? "re/".toList t = none := by
    simpa [Text.startsWith] using h
  simp only [readBraces, hre, readSource, resume_nil, Option.bind_eq_bind]
  congr 1
  funext part
  rw [readTarget, resume_nil]
  cases readPlain '}' part.2 <;> rfl

/-- What is read behind an opening bracket. -/
theorem readBrackets_eq (t : Text) : readBrackets t = readFirst [] t := by
  simp only [readBrackets, readFirst, readSecond, resume_nil, Option.bind_eq_bind]
  congr 1
  funext part
  split
  · cases Text.int64? part.1 with
    | none => rfl
    | some index => cases hslice : singleIndex index <;> simp [hslice]
  · congr 1
    funext part'
    cases readBound part.1 with
    | none => rfl
    | some start => cases readBound part'.1 <;> rfl

/-- What is read behind an opening parenthesis. -/
theorem readFunction_eq (t : Text) : readFunction t = readName [] t := by
  rw [readFunction, readName, resume_nil]

/-- A chain that begins with a block is the block and the chain behind it. -/
theorem readChain_eq_thenChain {c : Char} {r : Text} (hclose : c ≠ '}') (hblank : c ≠ ' ') :
    readChain (c :: r) = thenChain (readBlock (c :: r)) := by
  rw [readChain, if_neg hclose, if_neg hblank]
  split
  · rename_i hblock
    rw [hblock]
    rfl
  · rename_i hblock
    rw [hblock]
    rfl

/-! ### One character -/

section
variable (before r : Text)

/-- A plain part, read on at a character that is no backslash. -/
theorem resume_readPlain_cons (stop : Char) {c : Char} (hc : c ≠ '\\') :
    resume before (readPlain stop (c :: r))
      = if c = stop then some (before, r)
        else if isBraceOrBar c then none
        else resume (before ++ [c]) (readPlain stop r) := by
  rw [readPlain_cons_of_ne hc, ← resume_cons]
  split
  · exact resume_end before r
  · split <;> rfl

/-- A plain part, read on at a backslash and the character behind it. -/
theorem resume_readPlain_backslash (stop c : Char) :
    resume before (readPlain stop ('\\' :: c :: r))
      = resume (before ++ [c]) (readPlain stop r) := by
  rw [← resume_cons, readPlain, if_pos rfl]
  rfl

/-- The source of a pattern, read on at a character that is no backslash. -/
theorem resume_readPattern_cons {c : Char} (hc : c ≠ '\\') :
    resume before (readPattern (c :: r))
      = if c = '/' then some (before, r) else resume (before ++ [c]) (readPattern r) := by
  rw [readPattern_cons_of_ne hc, ← resume_cons]
  split
  · exact resume_end before r
  · rfl

/-- The source of a pattern, read on at a pair. -/
theorem resume_readPattern_pair (c : Char) :
    resume before (readPattern ('\\' :: c :: r))
      = resume (before ++ if c = '/' then [c] else ['\\', c]) (readPattern r) := by
  rw [← resume_cons, readPattern, if_pos rfl]
  by_cases hc : c = '/' <;> simp [hc]

/-- A part up to a mark, read on at a character. -/
theorem resume_readUntil_cons (stops : Char → Bool) (c : Char) :
    resume before (readUntil stops (c :: r))
      = if stops c then some (before, c, r)
        else resume (before ++ [c]) (readUntil stops r) := by
  rw [readUntil, ← resume_cons]
  split
  · exact resume_end before (c, r)
  · rfl

end

/-! ### One character of each part

Each state reads on at a character by the same cases as the machine. -/

section
variable (c : Char) (r : Text)

/-- Between two blocks. -/
theorem readOn_between_cons :
    readOn .between (c :: r)
      = if c = '}' then some ([], r)
        else if c = '{' then readOn .braces r
        else if c = '[' then readOn (.first []) r
        else if c = '(' then readOn (.function []) r
        else if c = ' ' then readOn .between r
        else none := by
  by_cases hclose : c = '}'
  · rw [if_pos hclose, readOn, readChain, if_pos hclose]
  by_cases hblank : c = ' '
  · subst hblank
    rw [readOn, readChain, if_neg hclose, if_pos rfl]
    rfl
  · rw [readOn, readChain_eq_thenChain hclose hblank, readBlock, readFunction_eq, readBrackets_eq]
    split_ifs <;> simp_all [readOn, thenChain]

/-- Behind an opening brace. -/
theorem readOn_braces (t : Text) :
    readOn .braces t
      = if Text.startsWith "re/".toList t then readOn (.pattern []) (t.drop 3)
        else readOn (.source [] false) t := by
  split
  · rename_i hre
    obtain ⟨r, rfl⟩ := Text.startsWith_iff.1 hre
    exact congrArg thenChain (readBraces_pattern r)
  · rename_i hre
    exact congrArg thenChain (readBraces_plain (by simpa using hre))

/-- In the source of a pattern. A pair stands for itself, or for a slash. -/
theorem readOn_pattern_cons (source : Text) :
    readOn (.pattern source) (c :: r)
      = if c = '/' then readOn (.flags source []) r
        else if c = '\\' then
          match r with
          | [] => none
          | d :: r' => readOn (.pattern (source ++ if d = '/' then [d] else [c, d])) r'
        else readOn (.pattern (source ++ [c])) r := by
  by_cases hpair : c = '\\'
  · subst hpair
    rw [if_neg (by decide), if_pos rfl]
    cases r with
    | nil => rfl
    | cons d r' => rw [readOn, readRegex, resume_readPattern_pair]; rfl
  · rw [if_neg hpair, readOn, readRegex, resume_readPattern_cons source r hpair]
    split <;> rfl

/-- In the flags of a pattern. -/
theorem readOn_flags_cons (source flags : Text) :
    readOn (.flags source flags) (c :: r)
      = if c = '|' then readOn (.target source (some flags) [] false) r
        else if c = '}' then thenChain (some (.regexMatch source flags, r))
        else if c = '{' then none
        else readOn (.flags source (flags ++ [c])) r := by
  rw [readOn, readFlags, resume_readUntil_cons, isBraceOrBar]
  split_ifs <;> simp_all [readOn, readFlags, thenChain]

/-- In a plain source. -/
theorem readOn_source_cons (source : Text) :
    readOn (.source source false) (c :: r)
      = if c = '\\' then readOn (.source source true) r
        else if c = '|' then readOn (.target source none [] false) r
        else if c = '{' || c = '}' then none
        else readOn (.source (source ++ [c]) false) r := by
  by_cases hescape : c = '\\'
  · subst hescape
    rw [if_pos rfl]
    cases r with
    | nil => rfl
    | cons d r' => rw [readOn, readSource, resume_readPlain_backslash]; rfl
  · rw [if_neg hescape, readOn, readSource, resume_readPlain_cons source r '|' hescape]
    split_ifs <;> simp_all [readOn, readSource, thenChain, isBraceOrBar]

/-- In a target. -/
theorem readOn_target_cons (source : Text) (flags : Option Text) (target : Text) :
    readOn (.target source flags target false) (c :: r)
      = if c = '\\' then readOn (.target source flags target true) r
        else if c = '}' then thenChain (some (replacementOf source flags target, r))
        else if c = '|' || c = '{' then none
        else readOn (.target source flags (target ++ [c]) false) r := by
  by_cases hescape : c = '\\'
  · subst hescape
    rw [if_pos rfl]
    cases r with
    | nil => rfl
    | cons d r' => rw [readOn, readTarget, resume_readPlain_backslash]; rfl
  · rw [if_neg hescape, readOn, readTarget, resume_readPlain_cons target r '}' hescape]
    split_ifs <;> simp_all [readOn, readTarget, thenChain, isBraceOrBar]

/-- In the name of a function. -/
theorem readOn_function_cons (name : Text) :
    readOn (.function name) (c :: r)
      = if c = ')' then thenChain (some (.function name, r))
        else readOn (.function (name ++ [c])) r := by
  rw [readOn, readName, resume_readUntil_cons]
  split_ifs <;> simp_all [readOn, readName]

/-- In an index or a first bound. -/
theorem readOn_first_cons (first : Text) :
    readOn (.first first) (c :: r)
      = if c = ']' then
          thenChain (((Text.int64? first).bind singleIndex).map fun slice => (slice, r))
        else if c = ':' then readOn (.second first []) r
        else readOn (.first (first ++ [c])) r := by
  rw [readOn, readFirst, resume_readUntil_cons]
  split_ifs <;> simp_all [readOn, readFirst]

/-- In a second bound. -/
theorem readOn_second_cons (first second : Text) :
    readOn (.second first second) (c :: r)
      = if c = ']' then
          thenChain ((readBound first).bind fun start =>
            (readBound second).map fun stop => (.slice start stop, r))
        else readOn (.second first (second ++ [c])) r := by
  rw [readOn, readSecond, resume_readUntil_cons]
  split_ifs <;> simp_all [readOn, readSecond]

end

/-! ### One turn -/

/-- The turns that a state can take without a character: one in the state that decides. -/
def Reading.idle : Reading → Nat
  | .braces => 1
  | _ => 0

/-- Twice the characters behind the position, and the turns without a character. -/
def Scan.left (template : Text) (s : Scan) : Nat :=
  2 * (template.behind s.pos).length + s.reading.idle

/-- What the machine is going to end with. -/
def Scan.value (template : Text) (s : Scan) : Option (Nat × Chain) :=
  (readOn s.reading (template.behind s.pos)).map fun p =>
    (template.utf8Size - p.2.utf8Size, s.chain ++ p.1)

/-- A sound turn of the machine, from a state on. -/
def SoundScan (template : Text) (s : Scan) : ScanTurn → Prop :=
  Loop.SoundTurn (fun s => template.IsBoundary s.pos) (Scan.left template) (Scan.value template) s

section
variable {front : Text} {reading reading' : Reading} {chain chain' : Chain}

/-- Where no chain is read, the machine may end with none. -/
theorem soundScan_none {t : Text} (h : readOn reading t = none) :
    SoundScan (front ++ t) ⟨front.utf8Size, reading, chain⟩ (.done none) := by
  simp only [SoundScan, Loop.SoundTurn, Scan.value, Text.behind_append, h, Option.map_none]

/-- A turn over a part of the rest is sound if it goes on to read the same, and either takes a
character or leaves the state that decides. -/
theorem soundScan_next (mid : Text) {t : Text}
    (hread : ((readOn reading (mid ++ t)).map fun p => (chain ++ p.1, p.2))
      = (readOn reading' t).map fun p => (chain' ++ p.1, p.2))
    (hless : reading'.idle < 2 * mid.length + reading.idle) :
    SoundScan (front ++ (mid ++ t)) ⟨front.utf8Size, reading, chain⟩
      (.next ⟨(front ++ mid).utf8Size, reading', chain'⟩) := by
  have hcut : front ++ (mid ++ t) = (front ++ mid) ++ t := (List.append_assoc front mid t).symm
  have hrest : (front ++ (mid ++ t)).behind (front ++ mid).utf8Size = t :=
    Text.behind_of_append hcut
  refine ⟨Text.isBoundary_of_append hcut, ?_, ?_⟩
  · simp only [Scan.left, hrest, Text.behind_append, List.length_append]
    omega
  · -- Where the chain ends is counted in the whole template, so it does not matter from where.
    have hvalue := congrArg (Option.map fun p : Chain × Text =>
      ((front ++ (mid ++ t)).utf8Size - p.2.utf8Size, p.1)) hread
    simpa only [Scan.value, hrest, Text.behind_append, Option.map_map, Function.comp_def]
      using hvalue.symm

variable {c : Char} {r : Text}

/-- No state takes two turns without a character. -/
theorem Reading.idle_le (reading : Reading) : reading.idle ≤ 1 := by
  cases reading <;> simp [Reading.idle]

/-- A turn that takes the next character is sound if it goes on to read the same. -/
theorem soundScan_goOn (h : readOn reading (c :: r) = readOn reading' r) :
    SoundScan (front ++ c :: r) ⟨front.utf8Size, reading, chain⟩
      (.next (Scan.goOn ⟨front.utf8Size, reading, chain⟩ c reading')) := by
  have hidle := reading'.idle_le
  rw [Scan.goOn, ← Text.utf8Size_append_singleton]
  refine soundScan_next [c] ?_ ?_
  · rw [List.singleton_append, h]
  · simp only [List.length_singleton]
    omega

/-- A turn that ends a block is sound if the readers end the block there. -/
theorem soundScan_push {m : Modification} (h : readOn reading (c :: r) = thenChain (some (m, r))) :
    SoundScan (front ++ c :: r) ⟨front.utf8Size, reading, chain⟩
      (.next (Scan.push ⟨front.utf8Size, reading, chain⟩ c m)) := by
  rw [Scan.push, ← Text.utf8Size_append_singleton]
  refine soundScan_next [c] ?_ ?_
  · rw [List.singleton_append, h, thenChain, readOn, Option.bind_some, Option.map_map]
    congr 1
    funext p
    simp only [Function.comp_apply, List.append_assoc, List.singleton_append]
  · simp only [Reading.idle, List.length_singleton]
    omega

end

/-! ### The states -/

/-- Behind a front the machine looks at the first character of the rest. -/
theorem peek_append (front t : Text) (go : Char → ScanTurn) :
    peek (front ++ t) front.utf8Size go
      = match t with
        | [] => .done none
        | c :: _ => go c := by
  rw [peek, Text.dropBytes?_append]
  cases t <;> rfl

/-- Where the chain ends, the machine ends with the byte behind it. -/
theorem soundScan_close {front r : Text} {c : Char} {reading : Reading} {chain : Chain}
    (h : readOn reading (c :: r) = some ([], r)) :
    SoundScan (front ++ c :: r) ⟨front.utf8Size, reading, chain⟩
      (.done (some (front.utf8Size + c.utf8Size, chain))) := by
  have hstop : (front ++ c :: r).utf8Size - r.utf8Size = front.utf8Size + c.utf8Size := by
    rw [Text.utf8Size_append, Text.utf8Size]
    omega
  simp only [SoundScan, Loop.SoundTurn, Scan.value, Text.behind_append, h, Option.map_some, hstop,
    List.append_nil]

/-- Behind an opening brace the machine steps over the letters `re/`, or stays where it is. -/
theorem soundScan_braces (front t : Text) (c : Char) (chain : Chain) :
    SoundScan (front ++ t) ⟨front.utf8Size, .braces, chain⟩
      (Scan.take (front ++ t) ⟨front.utf8Size, .braces, chain⟩ c) := by
  have hread := readOn_braces t
  simp only [Scan.take, Text.dropBytes?_append, Option.any_some]
  split_ifs at hread ⊢ with hre
  · obtain ⟨r, rfl⟩ := Text.startsWith_iff.1 hre
    have hpos : front.utf8Size + 3 = (front ++ "re/".toList).utf8Size := by
      rw [Text.utf8Size_append]
      rfl
    rw [hpos]
    exact soundScan_next "re/".toList (by rw [hread]; rfl) (by decide)
  · have hstay : SoundScan (front ++ ([] ++ t)) ⟨front.utf8Size, .braces, chain⟩
        (.next ⟨(front ++ []).utf8Size, .source [] false, chain⟩) :=
      soundScan_next [] (by rw [List.nil_append, hread]) (by decide)
    rwa [List.nil_append, List.append_nil] at hstay

/-- In the source of a pattern the machine takes a slash, a pair or a character. -/
theorem soundScan_pattern (front r : Text) (c : Char) (chain : Chain) (source : Text) :
    SoundScan (front ++ c :: r) ⟨front.utf8Size, .pattern source, chain⟩
      (Scan.take (front ++ c :: r) ⟨front.utf8Size, .pattern source, chain⟩ c) := by
  have hread := readOn_pattern_cons c r source
  simp only [Scan.take]
  split_ifs at hread ⊢
  · exact soundScan_goOn hread
  · -- The machine looks at one more character, behind the backslash.
    have hcut : front ++ c :: r = (front ++ [c]) ++ r := by
      rw [List.append_assoc, List.singleton_append]
    rw [← Text.utf8Size_append_singleton, hcut, peek_append, ← hcut]
    cases r with
    | nil => exact soundScan_none hread
    | cons d r' =>
      have hpos' : front.utf8Size + c.utf8Size + d.utf8Size = (front ++ [c, d]).utf8Size := by
        rw [Text.utf8Size_append]
        exact Nat.add_assoc _ _ _
      simp only [Scan.goOn, hpos']
      refine soundScan_next [c, d] (congrArg _ hread) ?_
      simp only [Reading.idle, List.length_cons, List.length_nil]
      omega
  · exact soundScan_goOn hread

/-- At a character of the rest the machine takes a sound turn, whatever it is reading. -/
theorem soundScan_take (front r : Text) (c : Char) (chain : Chain) (reading : Reading) :
    SoundScan (front ++ c :: r) ⟨front.utf8Size, reading, chain⟩
      (Scan.take (front ++ c :: r) ⟨front.utf8Size, reading, chain⟩ c) := by
  -- The machine and the readers go by the same cases, so these are split together.
  cases reading with
  | between =>
    have hread := readOn_between_cons c r
    simp only [Scan.take]
    split_ifs at hread ⊢
    · exact soundScan_close hread
    · exact soundScan_goOn hread
    · exact soundScan_goOn hread
    · exact soundScan_goOn hread
    · exact soundScan_goOn hread
    · exact soundScan_none hread
  | braces => exact soundScan_braces front (c :: r) c chain
  | pattern source => exact soundScan_pattern front r c chain source
  | flags source flags =>
    have hread := readOn_flags_cons c r source flags
    simp only [Scan.take]
    split_ifs at hread ⊢
    · exact soundScan_goOn hread
    · exact soundScan_push hread
    · exact soundScan_none hread
    · exact soundScan_goOn hread
  | source source escaped =>
    cases escaped with
    | true => exact soundScan_goOn rfl
    | false =>
      have hread := readOn_source_cons c r source
      simp only [Scan.take, Bool.false_eq_true, if_false]
      split_ifs at hread ⊢
      · exact soundScan_goOn hread
      · exact soundScan_goOn hread
      · exact soundScan_none hread
      · exact soundScan_goOn hread
  | target source flags target escaped =>
    cases escaped with
    | true => exact soundScan_goOn rfl
    | false =>
      have hread := readOn_target_cons c r source flags target
      simp only [Scan.take, Bool.false_eq_true, if_false]
      split_ifs at hread ⊢
      · exact soundScan_goOn hread
      · exact soundScan_push hread
      · exact soundScan_none hread
      · exact soundScan_goOn hread
  | function name =>
    have hread := readOn_function_cons c r name
    simp only [Scan.take]
    split_ifs at hread ⊢
    · exact soundScan_push hread
    · exact soundScan_goOn hread
  | first first =>
    have hread := readOn_first_cons c r first
    simp only [Scan.take]
    split_ifs at hread ⊢
    · cases hslice : (Text.int64? first).bind singleIndex with
      | none => exact soundScan_none (by rw [hread, hslice]; rfl)
      | some slice => exact soundScan_push (by rw [hread, hslice]; rfl)
    · exact soundScan_goOn hread
    · exact soundScan_goOn hread
  | second first second =>
    have hread := readOn_second_cons c r first second
    simp only [Scan.take]
    split_ifs at hread ⊢
    · cases hstart : readBound first with
      | none => exact soundScan_none (by rw [hread, hstart]; rfl)
      | some start =>
        cases hstop : readBound second with
        | none => exact soundScan_none (by rw [hread, hstart, hstop]; rfl)
        | some stop => exact soundScan_push (by rw [hread, hstart, hstop]; rfl)
    · exact soundScan_goOn hread

/-- At the end of the template no state reads a chain. -/
theorem readOn_nil (reading : Reading) : readOn reading [] = none := by
  cases reading with
  | between => rw [readOn, readChain]
  | braces => rfl
  | pattern source => rfl
  | flags source flags => rfl
  | source source escaped => cases escaped <;> rfl
  | target source flags target escaped => cases escaped <;> rfl
  | function name => rfl
  | first first => rfl
  | second first second => rfl

/-- Every turn of the machine is sound. -/
theorem scanTurn_sound (template : Text) :
    Loop.Sound (scanTurn template) (fun s => template.IsBoundary s.pos) (Scan.left template)
      (Scan.value template) := by
  rintro ⟨pos, reading, chain⟩ ⟨front, t, rfl, rfl⟩
  rw [scanTurn, peek_append]
  cases t with
  | nil => exact soundScan_none (readOn_nil reading)
  | cons c r => exact soundScan_take front r c chain reading

end SearchLink.Template
