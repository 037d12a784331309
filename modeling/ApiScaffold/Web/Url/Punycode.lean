import ApiScaffold.Text.Blank
import ApiScaffold.Text.Letter

/-!
# Punycode

A label with characters beyond ASCII is written with its ASCII characters first, and then the
places of the others as numbers in base 36 whose digits have moving thresholds.

* `Punycode.encode`: the written form of a label.
* `Punycode.decode?`: the label of a written form.
-/

namespace ApiScaffold.Web.Punycode

open Text

/-- A digit of base 36. -/
def digitChar (d : Nat) : Char := if d < 26 then Char.ofNat (97 + d) else Char.ofNat (22 + d)

/-- The value of a digit of base 36. -/
def digitValue? (c : Char) : Option Nat :=
  if 'a' ≤ c && c ≤ 'z' then some (c.toNat - 97)
  else if 'A' ≤ c && c ≤ 'Z' then some (c.toNat - 65)
  else if '0' ≤ c && c ≤ '9' then some (c.toNat - 22)
  else none

/-- The threshold of the digit at a place, where places are counted in steps of 36. -/
def threshold (place bias : Nat) : Nat := min 26 (max 1 (place - bias))

theorem threshold_bounds (place bias : Nat) :
    1 ≤ threshold place bias ∧ threshold place bias ≤ 26 := by
  unfold threshold
  omega

/-- The bias of a step that is divided down to its scale. -/
def scaledBias (step place : Nat) : Nat :=
  if 455 < step then scaledBias (step / 35) (place + 36) else place + 36 * step / (step + 38)
termination_by step
decreasing_by exact Nat.div_lt_self (by omega) (by omega)

/-- The bias after a step, with the number of characters so far. -/
def adapt (step count : Nat) (first : Bool) : Nat :=
  let step := if first then step / 700 else step / 2
  scaledBias (step + step / count) 0

/-- The digits of a step. -/
def stepDigits (bias place step : Nat) : List Char :=
  let t := threshold place bias
  if step < t then [digitChar step]
  else
    digitChar (t + (step - t) % (36 - t)) :: stepDigits bias (place + 36) ((step - t) / (36 - t))
termination_by step
decreasing_by
  have bounds := threshold_bounds place bias
  have smaller := Nat.div_le_self (step - threshold place bias) (36 - threshold place bias)
  omega

/-- What has been written, and what the next step starts from. -/
structure Writer where
  written : List Char
  step : Nat := 0
  bias : Nat := 72
  count : Nat

/-- Looks at a character of the label while the characters of one code point are written. -/
def Writer.look (basic code : Nat) (w : Writer) (c : Char) : Writer :=
  if c.toNat < code then { w with step := w.step + 1 }
  else if c.toNat = code then
    { written := w.written ++ stepDigits w.bias 36 w.step
      step := 0
      bias := adapt w.step (w.count + 1) (w.count = basic)
      count := w.count + 1 }
  else w

/-- Writes the characters of ascending code points, of which `next` is the least possible one. -/
def Writer.write (label : List Char) (basic : Nat) : List Nat → Nat → Writer → Writer
  | [], _, w => w
  | code :: codes, next, w =>
    let w := { w with step := w.step + (code - next) * (w.count + 1) }
    let w := label.foldl (Writer.look basic code) w
    Writer.write label basic codes (code + 1) { w with step := w.step + 1 }

/-- The code points beyond ASCII, ascending, each once. -/
def extended (label : List Char) : List Nat :=
  (((label.filter (!isAscii ·)).map Char.toNat).mergeSort (· ≤ ·)).eraseDups

/-- The written form of a label. -/
def encode (label : List Char) : List Char :=
  let basic := label.filter isAscii
  let start := if basic.isEmpty then [] else basic ++ ['-']
  (Writer.write label basic.length (extended label) 128
    { written := start, count := basic.length }).written

/-- Reads the digits of a step: the step and what follows. -/
def readStep (bias : Nat) : Nat → Nat → Nat → List Char → Option (Nat × List Char)
  | _, _, _, [] => none
  | place, weight, step, c :: cs => do
    let d ← digitValue? c
    let step := step + d * weight
    let t := threshold place bias
    if d < t then some (step, cs) else readStep bias (place + 36) (weight * (36 - t)) step cs

theorem readStep_length {bias : Nat} (cs : List Char) :
    ∀ {place weight step result : Nat} {rest : List Char},
      readStep bias place weight step cs = some (result, rest) → rest.length < cs.length := by
  induction cs with
  | nil => simp [readStep]
  | cons c cs ih =>
    intro place weight step result rest h
    unfold readStep at h
    obtain ⟨d, -, h⟩ := Option.bind_eq_some_iff.mp h
    dsimp only at h
    split at h
    · simp_all
    · exact Nat.lt_succ_of_lt (ih h)

/-- Reads the characters beyond ASCII into the label. -/
def readSteps (label : List Char) (code place bias : Nat) (first : Bool) (cs : List Char) :
    Option (List Char) :=
  match cs with
  | [] => some label
  | c :: rest =>
    match read : readStep bias 36 1 0 (c :: rest) with
    | none => none
    | some (step, tail) =>
      let count := label.length + 1
      let code := code + (place + step) / count
      let place := (place + step) % count
      if code ≤ 0x10FFFF && !(0xD800 ≤ code && code ≤ 0xDFFF) then
        readSteps (label.take place ++ Char.ofNat code :: label.drop place) code (place + 1)
          (adapt step count first) false tail
      else none
termination_by cs.length
decreasing_by exact readStep_length (c :: rest) read

/-- The label of a written form: the characters up to the last hyphen, and the steps behind. -/
def decode? (written : List Char) : Option (List Char) :=
  let pieces := splitWhere (· == '-') written
  let basic := List.intercalate ['-'] pieces.dropLast
  if basic.all isAscii then readSteps basic 128 0 72 true (pieces.getLast?.getD []) else none

end ApiScaffold.Web.Punycode
