/-
Free-form JSON values.

Values that the program passes through without knowing their shape: the extra
attributes of a project, the body of an error answer.  An object is a dictionary:
its members are sorted by name and no name stands twice, the last of several
members with one name being the one that counts.  A number is an integer when it is
written as one and fits into 64 bits, signed or unsigned; any other number is a
double, a negative zero included, and is read step by step, which may miss the
nearest one.  A number too large for a double and a string that no text can hold
have no value, and neither does a text nested too deeply.
-/
import ProjectViews.Json.Printer
import ProjectViews.Json.Reader
import ProjectViews.Number.Shortest

namespace ProjectViews

/-- A free-form JSON value. -/
inductive Json where
  | null
  | bool (b : Bool)
  | int (i : Int)
  | double (x : Number.Double)
  | string (s : String)
  | array (items : List Json)
  | object (members : List (String × Json))
deriving Repr, Inhabited

namespace Json

/-- A dictionary with one more entry; an entry of the same name is replaced. -/
def insertMember {α : Type} (name : String) (value : α) :
    List (String × α) → List (String × α)
  | [] => [(name, value)]
  | (n, v) :: rest =>
    if name < n then (name, value) :: (n, v) :: rest
    else if name = n then (name, value) :: rest
    else (n, v) :: insertMember name value rest

/-- The dictionary of a list of members, of which the last one of each name counts. -/
def dictionary {α : Type} (members : List (String × α)) : List (String × α) :=
  members.foldl (fun d (name, value) => insertMember name value d) []

/-- The entry of a name. -/
def lookup? {α : Type} (name : String) : List (String × α) → Option α
  | [] => none
  | (n, v) :: rest => if n = name then some v else lookup? name rest

/-- The entry that was put into a dictionary is the one of its name. -/
theorem lookup?_insertMember_self {α : Type} (name : String) (value : α)
    (d : List (String × α)) : lookup? name (insertMember name value d) = some value := by
  induction d with
  | nil => simp [insertMember, lookup?]
  | cons e rest ih =>
      rw [insertMember]
      by_cases hlt : name < e.1
      · simp [hlt, lookup?]
      by_cases heq : name = e.1
      · simp [heq, lookup?]
      · have hne : e.1 ≠ name := fun h => heq h.symm
        simp [hlt, heq, hne, lookup?, ih]

/-- The entries of other names are still there. -/
theorem lookup?_insertMember_of_ne {α : Type} {name other : String} (h : other ≠ name)
    (value : α) (d : List (String × α)) :
    lookup? other (insertMember name value d) = lookup? other d := by
  have h' : name ≠ other := fun e => h e.symm
  induction d with
  | nil => simp [insertMember, lookup?, h']
  | cons e rest ih =>
      rw [insertMember]
      by_cases hlt : name < e.1
      · simp [hlt, lookup?, h']
      by_cases heq : name = e.1
      · have he : e.1 ≠ other := fun e' => h' (heq.trans e')
        simp [heq, lookup?, he]
      · simp only [hlt, heq, if_false, lookup?, ih]

/-- The member of an object; other values have none. -/
def get? (j : Json) (name : String) : Option Json :=
  match j with
  | .object members => lookup? name members
  | _ => none

/-- How deeply the arrays and objects of a text may be nested. -/
def nestingLimit : Nat := 127

/-- The value of a number. -/
def ofNumeral? (n : Numeral) : Option Json :=
  if n.isWhole ∧ ¬ n.negative ∧ n.whole < UInt64.size then some (.int n.whole)
  else if n.isWhole ∧ n.negative ∧ 0 < n.whole ∧ n.whole ≤ Nat.pow 2 63 then
    some (.int (-n.whole))
  else n.leading.stepwise?.map fun m => .double ⟨n.negative, m⟩

mutual

/-- The value of a tree, whatever its nesting. -/
def ofTree? : Tree → Option Json
  | .null => some .null
  | .bool b => some (.bool b)
  | .number n => ofNumeral? n
  | .string s => s.map .string
  | .array items => (ofItems? items).map .array
  | .object members => (ofMembers? members).map fun ms => .object (dictionary ms)

/-- The values of the items of an array. -/
def ofItems? : List Tree → Option (List Json)
  | [] => some []
  | t :: rest =>
    match ofTree? t, ofItems? rest with
    | some x, some xs => some (x :: xs)
    | _, _ => none

/-- The values of the members of an object. -/
def ofMembers? : List (Option String × Tree) → Option (List (String × Json))
  | [] => some []
  | (name, t) :: rest =>
    match name, ofTree? t, ofMembers? rest with
    | some name, some x, some xs => some ((name, x) :: xs)
    | _, _, _ => none

end

/-- The value of a tree that may have at most `levels` arrays and objects open at any
place. -/
def read? (levels : Nat) (t : Tree) : Option Json :=
  if t.nesting ≤ levels then ofTree? t else none

/-- The value of a JSON text. -/
def parse (s : String) : Option Json := (Tree.parse s).bind (read? nestingLimit)

/-- A double is written with the fewest digits to which it is the nearest one: positionally from
0.00001 up to below 10^16, with at least one digit behind the point, and with an
exponent outside that range. -/
def numeralOf (x : Number.Double) : Numeral :=
  if x.magnitude.mantissa = 0 then ⟨x.negative, 0, [.zero], none⟩
  else
    let s := x.magnitude.shortest
    let count : Int := s.digits.length
    if s.point - 1 < -5 ∨ 16 ≤ s.point - 1 then
      ⟨x.negative, Number.ofDigits (s.digits.take 1), s.digits.drop 1, some (s.point - 1)⟩
    else if s.point ≤ 0 then
      ⟨x.negative, 0, List.replicate (-s.point).toNat .zero ++ s.digits, none⟩
    else if count ≤ s.point then
      ⟨x.negative, Number.ofDigits s.digits * Nat.pow 10 (s.point - count).toNat, [.zero], none⟩
    else
      ⟨x.negative, Number.ofDigits (s.digits.take s.point.toNat), s.digits.drop s.point.toNat,
        none⟩

mutual

/-- The tree of a value. -/
def toTree : Json → Tree
  | .null => .null
  | .bool b => .bool b
  | .int i => .number (.ofInt i)
  | .double x => .number (numeralOf x)
  | .string s => .text s
  | .array items => .array (toTrees items)
  | .object members => .object (toMembers members)

/-- The trees of the items of an array. -/
def toTrees : List Json → List Tree
  | [] => []
  | j :: rest => j.toTree :: toTrees rest

/-- The trees of the members of an object. -/
def toMembers : List (String × Json) → List (Option String × Tree)
  | [] => []
  | (name, j) :: rest => (some name, j.toTree) :: toMembers rest

end

/-- A value as JSON text. -/
def print (j : Json) : String := j.toTree.print

end Json

end ProjectViews
