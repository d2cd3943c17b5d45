/-
Punycode: any label with letters, digits and hyphens alone.

The characters of ASCII come first, with a hyphen behind them.  The others follow in
the order of their numbers: for each, how far one has to go on from the last one to find
its number and its place.  These distances are written with digits of a base that
adapts itself to how large they are.
-/
namespace ProjectViews

namespace Url

namespace Punycode

/-- The digit for a number below 36: letters first. -/
def digit (n : Nat) : Char := if n < 26 then Char.ofNat (97 + n) else Char.ofNat (22 + n)

/-- The number of a digit. -/
def digitValue? (c : Char) : Option Nat :=
  if 'a' ≤ c ∧ c ≤ 'z' then some (c.toNat - 97)
  else if '0' ≤ c ∧ c ≤ '9' then some (c.toNat - 22)
  else none

/-- The least digit that is not the last one, at a weight that grows with `k`. -/
def threshold (bias k : Nat) : Nat :=
  if k ≤ bias then 1 else if bias + 26 ≤ k then 26 else k - bias

/-- Divides a distance until it is small, counting by how much that raises the bias. -/
def shrink (delta k : Nat) : Nat :=
  if 455 < delta then shrink (delta / 35) (k + 36) else k + 36 * delta / (delta + 38)
termination_by delta

/-- The bias after a distance that leads to one of so many characters. -/
def adapt (delta points : Nat) (isFirst : Bool) : Nat :=
  let delta := if isFirst then delta / 700 else delta / 2
  shrink (delta + delta / points) 0

/-! ### Writing -/

/-- A distance in digits, the least one first. -/
def writeDelta (bias : Nat) : (fuel q k : Nat) → List Char
  | 0, _, _ => []
  | fuel + 1, q, k =>
    let t := threshold bias k
    if q < t then [digit q]
    else digit (t + (q - t) % (36 - t)) :: writeDelta bias fuel ((q - t) / (36 - t)) (k + 36)

/-- What is written for the characters of a label with the number `n`, and the state
after them: the distance, the bias and how many characters are written. -/
def writeNumber (n basic : Nat) :
    (cs : List Char) → (delta bias handled : Nat) → List Char × Nat × Nat × Nat
  | [], delta, bias, handled => ([], delta, bias, handled)
  | c :: cs, delta, bias, handled =>
    if c.toNat < n then writeNumber n basic cs (delta + 1) bias handled
    else if c.toNat = n then
      let out := writeDelta bias (delta + 1) delta 36
      let bias := adapt delta (handled + 1) (handled == basic)
      let (rest, state) := writeNumber n basic cs 0 bias (handled + 1)
      (out ++ rest, state)
    else writeNumber n basic cs delta bias handled

/-- What is written for all characters of a label from the number `n` on. -/
def writeFrom (label : List Char) (basic : Nat) :
    (fuel n delta bias handled : Nat) → List Char
  | 0, _, _, _, _ => []
  | fuel + 1, n, delta, bias, handled =>
    match ((label.map Char.toNat).filter (n ≤ ·)).min? with
    | none => []
    | some m =>
      let (out, delta, bias, handled) :=
        writeNumber m basic label (delta + (m - n) * (handled + 1)) bias handled
      out ++ writeFrom label basic fuel (m + 1) (delta + 1) bias handled

/-- A label in Punycode. -/
def encode (label : List Char) : List Char :=
  let basic := label.filter fun c => c.toNat < 128
  (if basic.isEmpty then [] else basic ++ ['-'])
    ++ writeFrom label basic.length (label.length + 1) 128 0 72 basic.length

/-! ### Reading -/

/-- The greatest distance and the greatest weight that count. -/
def limit : Nat := 0xFFFFFFFF

/-- The distance at the front of a text added to what stands before it, and what follows
it. -/
def readDelta (bias : Nat) : (i weight k : Nat) → List Char → Option (Nat × List Char)
  | _, _, _, [] => none
  | i, weight, k, c :: cs =>
    match digitValue? c with
    | none => none
    | some d =>
      let t := threshold bias k
      let i := i + d * weight
      if limit < i then none
      else if d < t then some (i, cs)
      else if limit < weight * (36 - t) then none
      else readDelta bias i (weight * (36 - t)) (k + 36) cs

/-- What follows a distance is shorter than the text. -/
theorem length_of_readDelta {bias i weight k j : Nat} {cs rest : List Char}
    (h : readDelta bias i weight k cs = some (j, rest)) : rest.length < cs.length := by
  induction cs generalizing i weight k with
  | nil => simp [readDelta] at h
  | cons c cs ih =>
    simp only [readDelta] at h
    split at h
    · simp at h
    · split at h
      · simp at h
      · split at h
        · simp_all
        · split at h
          · simp at h
          · have := ih h
            simp only [List.length_cons]
            omega

/-- The characters that a text puts between those already known. -/
def readFrom (n i bias : Nat) (known cs : List Char) : Option (List Char) :=
  match cs with
  | [] => some known
  | c :: cs =>
    match _read : readDelta bias i 1 36 (c :: cs) with
    | none => none
    | some (j, rest) =>
      let size := known.length + 1
      let place := j % size
      if (n + j / size).isValidChar then
        readFrom (n + j / size) (place + 1) (adapt (j - i) size (i == 0))
          (known.take place ++ Char.ofNat (n + j / size) :: known.drop place) rest
      else none
termination_by cs.length
decreasing_by
  have := length_of_readDelta _read
  simpa using this

/-- The label that a text in Punycode writes.  The hyphen behind the characters of ASCII
is there only when there are any. -/
def decode? (cs : List Char) : Option (List Char) :=
  let rest := (cs.reverse.takeWhile (· != '-')).reverse
  let basic := cs.take (cs.length - rest.length - 1)
  readFrom 128 0 72 basic (if basic.isEmpty then cs else rest)

end Punycode

end Url

end ProjectViews
