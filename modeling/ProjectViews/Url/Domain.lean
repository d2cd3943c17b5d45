/-
Domains, in any script, as ASCII.

The characters of a domain are replaced by those they are taken for, and the whole is
brought to its normal form.  Then each label that is not ASCII is written in Punycode,
with a mark in front.  A label that has the mark already must be there for a reason: what
it stands for is not ASCII, and is a label as it is.

Labels beyond ASCII follow some rules.  None starts with a mark.  The signs that join
letters or keep them apart stand only where they have an effect.  And when any label has
letters that go to the left, all labels go to one side each, so that they cannot be
taken for each other.
-/
import ProjectViews.Text.Split
import ProjectViews.Unicode.Direction
import ProjectViews.Unicode.Joining
import ProjectViews.Unicode.Normal
import ProjectViews.Url.DomainMapping
import ProjectViews.Url.Problem
import ProjectViews.Url.Punycode

namespace ProjectViews

namespace Url

/-! ### Joiners -/

/-- The sign that joins letters. -/
def joiner : Char := '\u200D'

/-- The sign that keeps letters apart. -/
def nonJoiner : Char := '\u200C'

/-- Whether the first of some characters that is not passed over has a property. -/
def firstHolds (property : Char → Bool) (cs : List Char) : Bool :=
  (cs.find? fun c => property c || !Unicode.isPassedOver c).any property

/-- Whether a character has an effect between those before it, the last one first, and
those after it. -/
def hasEffect (before : List Char) (c : Char) (after : List Char) : Bool :=
  if c = joiner ∨ c = nonJoiner then
    before.head?.any (fun b => Unicode.markClass b == Unicode.viramaClass)
      || (c == nonJoiner && firstHolds Unicode.joinsForward before
        && firstHolds Unicode.joinsBackward after)
  else true

/-- Whether all joiners of a text have an effect, after some characters, the last one
first. -/
def joinersHaveEffect : (before : List Char) → List Char → Bool
  | _, [] => true
  | before, c :: cs => hasEffect before c cs && joinersHaveEffect (c :: before) cs

/-! ### Directions -/

/-- Whether a label that goes to the right may hold characters of a direction. -/
def fitsRightward (d : Unicode.Direction) : Bool := !d.isLeftward

/-- Whether a label that goes to the left may hold characters of a direction. -/
def fitsLeftward (d : Unicode.Direction) : Bool := d != .rightward

/-- Whether a label keeps to one side, which its first character says.  It may end in a
letter or a number, with marks behind it, and a label that goes to the left has numbers
of one kind alone. -/
def keepsToOneSide (label : List Char) : Bool :=
  let directions := label.map Unicode.direction
  let last := ((directions.reverse.dropWhile (· == .unspaced)).head?).getD .unspaced
  match directions.head? with
  | none => true
  | some .rightward =>
    directions.all fitsRightward && (last == .rightward || last == .europeanNumber)
  | some .leftward =>
    directions.all fitsLeftward
      && (last == .leftward || last == .europeanNumber || last == .arabicNumber)
      && !(directions.contains .europeanNumber && directions.contains .arabicNumber)
  | some _ => false

/-! ### Labels -/

/-- Whether a text is ASCII. -/
def isAscii (cs : List Char) : Bool := cs.all fun c => c.toNat < 128

/-- Whether a character of ASCII may not stand in a domain. -/
def isForbidden (c : Char) : Bool :=
  c.toNat ≤ 32 || c.toNat == 127 || "%#/:<>?@[\\]^|".toList.contains c

/-- The characters that those of a domain are taken for, in their normal form, unless
one of them may not stand there. -/
def refine? (cs : List Char) : Option (List Char) := do
  let cs := Unicode.normalize (← cs.mapM replace?).flatten
  if cs.any isForbidden then none else some cs

/-- What stands in front of a label in Punycode. -/
def punycodeMark : List Char := ['x', 'n', '-', '-']

/-- How long a label may be that is to be written in Punycode. -/
def labelLimit : Nat := 1000

/-- How long the Punycode of a label may be. -/
def codeLimit : Nat := 2000

/-- Whether a label that is not ASCII follows the rules for it alone. -/
def isLabel (label : List Char) : Bool :=
  !(label.head?.any Unicode.isMark) && joinersHaveEffect [] label
    && label.length ≤ labelLimit

/-- A label of a domain: how it is written, and what is meant by it. -/
structure Label where
  written : List Char
  meant : List Char
deriving DecidableEq, Repr, Inhabited

/-- The label that Punycode stands for. -/
def labelOfCode? (code : List Char) : Option Label :=
  if codeLimit < code.length then none
  else
    match Punycode.decode? code with
    | none => none
    | some meant =>
      if ¬ isAscii meant ∧ refine? meant = some meant
          ∧ (Text.after? punycodeMark meant).isNone ∧ isLabel meant then
        some ⟨punycodeMark ++ code, meant⟩
      else none

/-- A label of a domain, unless it breaks a rule. -/
def label? (cs : List Char) : Option Label :=
  match Text.after? punycodeMark cs with
  | some code => labelOfCode? code
  | none =>
    if isAscii cs then some ⟨cs, cs⟩
    else if isLabel cs then some ⟨punycodeMark ++ Punycode.encode cs, cs⟩
    else none

/-! ### Domains -/

/-- Whether labels may stand together. -/
def agree (labels : List Label) : Bool :=
  !(labels.any fun label => label.meant.any fun c => (Unicode.direction c).isLeftward)
    || labels.all fun label => keepsToOneSide label.meant

/-- A domain as ASCII. -/
def domainToAscii (cs : List Char) : Except Problem (List Char) :=
  match refine? cs with
  | none => .error .invalidName
  | some cs =>
    match (Text.pieces ['.'] cs).mapM label? with
    | none => .error .invalidName
    | some labels =>
      if agree labels then .ok ((labels.map (·.written)).intersperse ['.']).flatten
      else .error .invalidName

end Url

end ProjectViews
