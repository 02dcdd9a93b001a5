import SearchLink.Text.Basic

/-!
# `SearchLink.Url.Punycode`: labels of any script in letters and digits

`encode` writes a label as its ASCII characters, a hyphen, and a row of numbers. Each number
says how far to go from one insertion to the next: the characters that are not ASCII are
inserted in rising order, each of them from left to right. A number is written in base 36
with a threshold for each digit; the last digit is the one below its threshold, so numbers
need no separators. The thresholds follow the size of the numbers that came before.

`decode?` reads the numbers with a machine that takes one character at a time. It refuses
what `encode` does not write, and every number that does not fit 32 bits.
-/

set_option autoImplicit false

namespace SearchLink.Punycode

/-! ### Digits and thresholds -/

/-- The base that numbers are written in. -/
def base : Nat := 36

/-- The smallest threshold. -/
def minThreshold : Nat := 1

/-- The largest threshold. -/
def maxThreshold : Nat := 26

/-- The bias that the first number is written with. -/
def initialBias : Nat := 72

/-- The first code point that is not ASCII. -/
def initialCode : Nat := 0x80

/-- The numbers of a label are below this. -/
def numberLimit : Nat := UInt32.size

/-- The digit with a value below 36. -/
def digitOf (n : Nat) : Char := if n < 26 then Char.ofNat (97 + n) else Char.ofNat (22 + n)

/-- The value of a digit, a letter of either case or a decimal digit. -/
def valueOf? (c : Char) : Option Nat :=
  let n := c.toNat
  if 97 ≤ n && n ≤ 122 then some (n - 97)
  else if 65 ≤ n && n ≤ 90 then some (n - 65)
  else if 48 ≤ n && n ≤ 57 then some (n - 22)
  else none

/-- The threshold of the digit at a place: 36 for the first digit, 72 for the next, and so
on. -/
def threshold (bias place : Nat) : Nat :=
  if place ≤ bias then minThreshold
  else if bias + maxThreshold ≤ place then maxThreshold
  else place - bias

theorem threshold_pos (bias place : Nat) : 0 < threshold bias place := by
  unfold threshold minThreshold maxThreshold
  split
  · omega
  · split <;> omega

/-- Scales a number down until it is small, and counts the places that takes. -/
def scaleDown (place d : Nat) : Nat :=
  if (base - minThreshold) * maxThreshold / 2 < d then
    scaleDown (place + base) (d / (base - minThreshold))
  else place + (base - minThreshold + 1) * d / (d + 38)
termination_by d
decreasing_by simp only [base, minThreshold, maxThreshold] at *; omega

/-- The bias after a number, given how many characters the label then has. -/
def nextBias (number count : Nat) (isFirst : Bool) : Nat :=
  let d := if isFirst then number / 700 else number / 2
  scaleDown 0 (d + d / count)

/-! ### Writing -/

/-- The digits of a number, from a place on. -/
def writeNumber (bias place n : Nat) : Text :=
  if n < threshold bias place then [digitOf n]
  else
    digitOf (threshold bias place + (n - threshold bias place) % (base - threshold bias place)) ::
      writeNumber bias (place + base)
        ((n - threshold bias place) / (base - threshold bias place))
termination_by n
decreasing_by
  have hpos := threshold_pos bias place
  have hdiv := Nat.div_le_self (n - threshold bias place) (base - threshold bias place)
  omega

/-- How far the writing of a label has come. -/
structure Writing where
  /-- The distance from the last insertion. -/
  distance : Nat := 0
  /-- The bias for the next number. -/
  bias : Nat := initialBias
  /-- How many characters the label has so far. -/
  count : Nat
  /-- Whether no number has been written yet. -/
  isFirst : Bool := true
  /-- The numbers written so far. -/
  written : Text := []

/-- Passes one character of the label while the insertions of `code` are written. -/
def Writing.pass (code : Nat) (w : Writing) (c : Char) : Writing :=
  if c.toNat < code then { w with distance := w.distance + 1 }
  else if c.toNat = code then
    { distance := 0
      bias := nextBias w.distance (w.count + 1) w.isFirst
      count := w.count + 1
      isFirst := false
      written := w.written ++ writeNumber w.bias base w.distance }
  else w

/-- Writes all insertions of the code points of a rising list; `next` is the first code
point that has not been passed. -/
def Writing.round (label : Text) (next : Nat) (w : Writing) : List Nat → Writing
  | [] => w
  | code :: codes =>
    let start := { w with distance := w.distance + (code - next) * (w.count + 1) }
    let done := label.foldl (Writing.pass code) start
    Writing.round label (code + 1) { done with distance := done.distance + 1 } codes

/-- Whether a character is ASCII. -/
def isAscii (c : Char) : Bool := c.toNat < 0x80

/-- The code points of a label that are not ASCII, each once, rising. -/
def codes (label : Text) : List Nat :=
  ((label.filter fun c => !isAscii c).map Char.toNat).eraseDups.mergeSort (· ≤ ·)

/-- Writes a label in letters, digits and hyphens. -/
def encode (label : Text) : Text :=
  let plain := label.filter isAscii
  let numbers := (Writing.round label initialCode { count := plain.length } (codes label)).written
  if plain.isEmpty then numbers else plain ++ '-' :: numbers

/-! ### Reading -/

/-- How far the reading of a label has come. -/
structure Reading where
  /-- The label so far. -/
  label : Text
  /-- The code point of the last insertion. -/
  code : Nat := initialCode
  /-- The place of the next insertion, counted through all rounds. -/
  place : Nat := 0
  /-- Where the number that is being read began to count. -/
  start : Nat := 0
  /-- What the next digit is worth. -/
  weight : Nat := 1
  /-- The place of the next digit in its number. -/
  digitPlace : Nat := base
  /-- The bias of the number that is being read. -/
  bias : Nat := initialBias
  /-- Whether a number has been begun and not ended. -/
  isOpen : Bool := false

/-- The character with a code point, if there is one. -/
def char? (n : Nat) : Option Char :=
  if _valid : n.isValidChar then some (Char.ofNatAux n _valid) else none

/-- Inserts the next character, when its number has been read. -/
def Reading.insert (r : Reading) : Option Reading :=
  let count := r.label.length + 1
  let code := r.code + r.place / count
  let place := r.place % count
  (char? code).map fun c =>
    { label := r.label.insertIdx place c
      code := code
      place := place + 1
      start := place + 1
      bias := nextBias (r.place - r.start) count (r.start == 0) }

/-- Reads one digit. -/
def Reading.read (r : Reading) (c : Char) : Option Reading :=
  (valueOf? c).bind fun value =>
    let place := r.place + value * r.weight
    if numberLimit ≤ place then none
    else
      let limit := threshold r.bias r.digitPlace
      if value < limit then Reading.insert { r with place := place }
      else
        let weight := r.weight * (base - limit)
        if numberLimit ≤ weight then none
        else
          some { r with
            place := place, weight := weight, digitPlace := r.digitPlace + base, isOpen := true }

/-- Splits a written label at its last hyphen. A hyphen in front of everything else is not
taken for the end of the ASCII characters. -/
def splitLast (written : Text) : Text × Text :=
  let numbers := (written.reverse.takeWhile (· ≠ '-')).reverse
  let plain := written.take (written.length - numbers.length - 1)
  if plain.isEmpty then ([], written) else (plain, numbers)

/-- Reads a label that was written in letters, digits and hyphens. -/
def decode? (written : Text) : Option Text :=
  let (plain, numbers) := splitLast written
  (numbers.foldlM Reading.read { label := plain }).bind fun r =>
    if r.isOpen then none else some r.label

end SearchLink.Punycode
