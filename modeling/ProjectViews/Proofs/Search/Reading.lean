/-
Reading a search back.

A search is a list of fragments with `AND` between them, and a fragment is a name, perhaps
with a word for the way of comparing at its end, a colon, and what the attribute is
compared with: a text in quotes, or an empty object.  `NOT` stands in front where it is
denied.  The reader takes that apart without knowing the registry: it goes by the first
colon, by the word at the end of what stands before it, and by the quotes.

What a person has typed only ever stands between quotes, and there every quote and every
backslash has a backslash in front.  So the quote that ends a text is the first one that has
none, whatever the text looks like, and what follows it is the rest of the search.  This is
`unquote?_escape`, and all else is about names, which the registry chooses.
-/
import ProjectViews.Project.Search
import Mathlib.Data.List.Forall2

namespace ProjectViews

/-! ### What conditions are made of -/

/-- A way of comparing that has a word of its own. -/
inductive Comparison where
  | contains
  | is
  | startsWith
  | endsWith
deriving DecidableEq, Repr

namespace Comparison

/-- All of them. -/
def all : List Comparison := [contains, is, startsWith, endsWith]

/-- The word, as it stands at the end of a name. -/
def word : Comparison → String
  | contains => "__icontains"
  | is => "__iexact"
  | startsWith => "__istartswith"
  | endsWith => "__iendswith"

end Comparison

namespace Condition

/-- The way in which a condition compares, if it compares with a text. -/
def comparison? : Condition → Option Comparison
  | contains | doesNotContain => some .contains
  | is | isNot => some .is
  | startsWith => some .startsWith
  | endsWith => some .endsWith
  | isEmpty | isNotEmpty | isEmptyObject | isNotEmptyObject => none

/-- Whether a condition is the denial of another. -/
def denies : Condition → Bool
  | doesNotContain | isNot | isNotEmpty | isNotEmptyObject => true
  | _ => false

/-- What stands behind the colon: the text that is given, no text, or an object. -/
def operand (c : Condition) (given : String) : Option String :=
  match c with
  | isEmpty | isNotEmpty => some ""
  | isEmptyObject | isNotEmptyObject => none
  | _ => some given

/-- Whether a condition may have this behind the colon. -/
def takes (c : Condition) (operand : Option String) : Bool :=
  match c with
  | isEmpty | isNotEmpty => operand == some ""
  | isEmptyObject | isNotEmptyObject => operand == none
  | _ => operand.isSome

end Condition

namespace Search

/-- What a fragment says: the name that the server filters by, the condition, and the text
that it compares with, if it compares. -/
structure Term where
  name : String
  condition : Condition
  value : Option String
deriving DecidableEq, Repr

/-! ### What stands behind the colon -/

/-- The text up to the quote that ends it, and what follows. -/
def unquote? : List Char → Option (List Char × List Char)
  | [] => none
  | '"' :: rest => some ([], rest)
  | ['\\'] => none
  | '\\' :: c :: rest => (unquote? rest).map fun x => (c :: x.1, x.2)
  | c :: rest => (unquote? rest).map fun x => (c :: x.1, x.2)

/-- What the attribute is compared with, and what follows. -/
def operand? : List Char → Option (Option String × List Char)
  | '"' :: cs => (unquote? cs).map fun x => (some (String.ofList x.1), x.2)
  | '\x7b' :: '\x7d' :: rest => some (none, rest)
  | _ => none

/-- A text to compare with, or an object. -/
def operandText : Option String → List Char
  | some s => '"' :: (s.toList.flatMap escape ++ ['"'])
  | none => ['\x7b', '\x7d']

theorem unquote?_cons_escape (c : Char) (cs : List Char) :
    unquote? (escape c ++ cs) = (unquote? cs).map fun x => (c :: x.1, x.2) := by
  by_cases hbackslash : c = '\\'
  · subst hbackslash
    rfl
  by_cases hquote : c = '"'
  · subst hquote
    rfl
  rw [escape, if_neg hbackslash, if_neg hquote, List.singleton_append, unquote?]
  · exact hquote
  · exact fun h _ => hbackslash h
  · exact fun _ _ h _ => hbackslash h

/-- **A text in quotes ends where it was made to end, whatever it holds and whatever follows.** -/
theorem unquote?_escape (text rest : List Char) :
    unquote? (text.flatMap escape ++ '"' :: rest) = some (text, rest) := by
  induction text with
  | nil => rfl
  | cons c text ih =>
      rw [List.flatMap_cons, List.append_assoc, unquote?_cons_escape, ih]
      rfl

theorem operand?_operandText (operand : Option String) (rest : List Char) :
    operand? (operandText operand ++ rest) = some (operand, rest) := by
  cases operand with
  | none => rfl
  | some s =>
      have htext : operandText (some s) ++ rest
          = '"' :: (s.toList.flatMap escape ++ '"' :: rest) := by
        simp [operandText]
      rw [htext, operand?, unquote?_escape, Option.map_some, String.ofList_toList]

/-! ### What stands before the colon -/

/-- The word at the end of a key, if it has one. -/
def comparisonOf? (key : List Char) : Option Comparison :=
  Comparison.all.find? fun c => (Text.after? c.word.toList.reverse key.reverse).isSome

/-- A key without the word at its end. -/
def nameOf (key : List Char) : Option Comparison → List Char
  | some c => key.take (key.length - c.word.toList.length)
  | none => key

/-- A name that cannot be taken for anything else: it has no colon and no blank, and no word
for a way of comparing stands at its end. -/
structure Plain (name : List Char) : Prop where
  colon : ':' ∉ name
  blank : ' ' ∉ name
  word : comparisonOf? name = none

instance (name : List Char) : Decidable (Plain name) :=
  decidable_of_iff (':' ∉ name ∧ ' ' ∉ name ∧ comparisonOf? name = none)
    ⟨fun h => ⟨h.1, h.2.1, h.2.2⟩, fun h => ⟨h.colon, h.blank, h.word⟩⟩

/-- A name and the word behind it. -/
def keyText (name : List Char) : Option Comparison → List Char
  | some c => name ++ c.word.toList
  | none => name

variable {name : List Char}

/-- The word behind a name is found there. -/
theorem comparisonOf?_keyText (plain : Plain name) (comparison : Option Comparison) :
    comparisonOf? (keyText name comparison) = comparison := by
  cases comparison with
  | none => exact plain.word
  | some c =>
      rw [keyText, comparisonOf?, List.reverse_append]
      cases c <;> rfl

theorem nameOf_keyText (name : List Char) (comparison : Option Comparison) :
    nameOf (keyText name comparison) comparison = name := by
  cases comparison with
  | none => rfl
  | some c => simp [nameOf, keyText]

theorem word_plain (c : Comparison) : ':' ∉ c.word.toList ∧ ' ' ∉ c.word.toList := by
  cases c <;> decide

theorem not_mem_keyText (plain : Plain name) (comparison : Option Comparison) :
    ':' ∉ keyText name comparison ∧ ' ' ∉ keyText name comparison := by
  cases comparison with
  | none => exact ⟨plain.colon, plain.blank⟩
  | some c =>
      obtain ⟨hcolon, hblank⟩ := word_plain c
      simp only [keyText, List.mem_append, not_or]
      exact ⟨⟨plain.colon, hcolon⟩, plain.blank, hblank⟩

/-- Whether `NOT` stands in front, and what stands behind it. -/
def denial (head : List Char) : Bool × List Char :=
  match Text.after? "NOT ".toList head with
  | some key => (true, key)
  | none => (false, head)

/-- What stands before the colon. -/
def headText (denied : Bool) (key : List Char) : List Char :=
  if denied then "NOT ".toList ++ key else key

theorem denial_headText (denied : Bool) {key : List Char} (blank : ' ' ∉ key) :
    denial (headText denied key) = (denied, key) := by
  cases denied with
  | true => rfl
  | false =>
      have hnone : Text.after? "NOT ".toList key = none := by
        rw [Option.eq_none_iff_forall_ne_some]
        intro rest hrest
        rw [Text.after?_eq_some_iff] at hrest
        rw [hrest] at blank
        exact blank (by simp)
      rw [headText, if_neg Bool.false_ne_true, denial, hnone]

/-! ### Fragments -/

/-- What a fragment says, and what follows it. -/
def term? (cs : List Char) : Option (Term × List Char) := do
  let (head, behind) ← Text.cut? [':'] cs
  let (operand, rest) ← operand? behind
  let (denied, key) := denial head
  let comparison := comparisonOf? key
  let condition ← Condition.all.find? fun c =>
    c.denies == denied && c.comparison? == comparison && c.takes operand
  let value := if condition.requiresValue then operand else none
  pure (⟨String.ofList (nameOf key comparison), condition, value⟩, rest)

/-- No other condition is written in the same way. -/
theorem find?_condition (c : Condition) (given : String) :
    (Condition.all.find? fun d => d.denies == c.denies && d.comparison? == c.comparison?
      && d.takes (c.operand given)) = some c := by
  cases c <;> rfl

/-- What a condition asks of a name is made of these parts. -/
theorem toList_ask (c : Condition) (name given : String) :
    (ask c name (quote given)).toList
      = headText c.denies (keyText name.toList c.comparison?)
        ++ ':' :: operandText (c.operand given) := by
  cases c <;> simp [ask, quote, headText, keyText, operandText, Condition.denies,
    Condition.comparison?, Condition.operand, Comparison.word]

/-- **A fragment is read back, whatever its text holds and whatever follows.** -/
theorem term?_ask {name : String} (plain : Plain name.toList) (c : Condition) (given : String)
    (rest : List Char) : term? ((ask c name (quote given)).toList ++ rest)
      = some (⟨name, c, if c.requiresValue then c.operand given else none⟩, rest) := by
  obtain ⟨hcolon, hblank⟩ := not_mem_keyText plain c.comparison?
  have hhead : ':' ∉ headText c.denies (keyText name.toList c.comparison?) := by
    cases hdenied : c.denies with
    | true =>
        rw [headText, if_pos rfl, List.mem_append, not_or]
        exact ⟨by decide, hcolon⟩
    | false => exact hcolon
  rw [toList_ask, List.append_assoc, List.cons_append, term?, Text.cut?_of_not_mem hhead]
  simp only [Option.bind_eq_bind, Option.bind_some, operand?_operandText,
    denial_headText c.denies hblank, comparisonOf?_keyText plain, nameOf_keyText, find?_condition,
    String.ofList_toList]
  rfl

/-! ### Whole searches -/

/-- What the fragments of a text say, for at most `fuel` of them. -/
def terms? : (fuel : Nat) → List Char → Option (List Term)
  | 0, _ => none
  | fuel + 1, cs => do
    let (term, rest) ← term? cs
    if rest.isEmpty then pure [term]
    else
      let behind ← Text.after? " AND ".toList rest
      (terms? fuel behind).map (term :: ·)

/-- What the fragments of a search say.  There are not more of them than characters. -/
def read? (search : String) : Option (List Term) :=
  if search.isEmpty then some [] else terms? search.length search.toList

/-- A text is a fragment that says so, wherever it stands. -/
def Reads (text : String) (term : Term) : Prop :=
  ∀ rest, term? (text.toList ++ rest) = some (term, rest)

/-- There is something to read in every fragment. -/
theorem Reads.ne_empty {text : String} {term : Term} (h : Reads text term) : text ≠ "" := by
  rintro rfl
  exact absurd (h []) (by simp [term?, Text.cut?])

variable {texts : List String} {terms : List Term}

/-- Joined fragments are read back, one by one. -/
theorem terms?_join (h : List.Forall₂ Reads texts terms) (some? : texts ≠ []) {fuel : Nat}
    (enough : texts.length ≤ fuel) :
    terms? fuel (Text.join " AND " texts).toList = some terms := by
  induction h generalizing fuel with
  | nil => exact absurd rfl some?
  | @cons text term texts terms hread hrest ih =>
      cases fuel with
      | zero => simp at enough
      | succ fuel =>
          cases hrest with
          | nil =>
              have hterm := hread []
              rw [List.append_nil] at hterm
              rw [Text.join, terms?, hterm]
              rfl
          | @cons next term' texts terms hnext hrest =>
              have hbehind := ih (List.cons_ne_nil _ _) (Nat.le_of_succ_le_succ enough)
              have hsplit : (Text.join " AND " (text :: next :: texts)).toList
                  = text.toList ++ (" AND ".toList ++ (Text.join " AND " (next :: texts)).toList) := by
                rw [Text.join, String.toList_append, String.toList_append, List.append_assoc]
              have hafter : Text.after? " AND ".toList
                  (" AND ".toList ++ (Text.join " AND " (next :: texts)).toList)
                  = some (Text.join " AND " (next :: texts)).toList :=
                Text.after?_eq_some_iff.mpr rfl
              rw [hsplit, terms?, hread]
              simp only [Option.bind_eq_bind, Option.bind_some, hafter, hbehind]
              rfl

/-- There are at least as many characters as fragments. -/
theorem length_le_join (h : List.Forall₂ Reads texts terms) :
    texts.length ≤ (Text.join " AND " texts).length := by
  induction h with
  | nil => exact Nat.zero_le _
  | @cons text term texts terms hread hrest ih =>
      have hpos : 0 < text.length :=
        Nat.pos_of_ne_zero (mt String.length_eq_zero_iff.mp hread.ne_empty)
      cases texts with
      | nil => exact hpos
      | cons next texts =>
          rw [Text.join, String.length_append, String.length_append]
          simp only [List.length_cons] at ih ⊢
          omega

/-- **A search that was joined from fragments is read back.** -/
theorem read?_join (h : List.Forall₂ Reads texts terms) :
    read? (Text.join " AND " texts) = some terms := by
  cases h with
  | nil => rfl
  | @cons text term texts terms hread hrest =>
      have hsearch := List.Forall₂.cons hread hrest
      have hlength : (text :: texts).length ≤ (Text.join " AND " (text :: texts)).length :=
        length_le_join hsearch
      have hsome : ¬ (Text.join " AND " (text :: texts)).isEmpty = true := by
        rw [String.isEmpty_iff, ← String.length_eq_zero_iff]
        simp only [List.length_cons] at hlength
        omega
      rw [read?, if_neg hsome]
      exact terms?_join hsearch (List.cons_ne_nil _ _) hlength

end Search

end ProjectViews
