/-
What is written as JSON holds no control characters.

Between the parts of a value there are none, since no blanks are written, and inside a string
they are escaped.  So the JSON text of a value stands on one line, and in one cell of it, whatever
the strings of the value hold.  The induction is on the tree, with one statement for trees, one for
the items of an array and one for the members of an object.
-/
import ProjectViews.Json.Value

namespace ProjectViews

/-- A text without control characters. -/
def Printable (cs : List Char) : Prop := ∀ c ∈ cs, 32 ≤ c.toNat

-- By going through the text: an instance that is only inferred may go through all characters.
instance (cs : List Char) : Decidable (Printable cs) :=
  List.decidableBAll (fun c : Char => 32 ≤ c.toNat) cs

namespace Printable

theorem nil : Printable [] := fun _ h => absurd h List.not_mem_nil

theorem cons {c : Char} {cs : List Char} (hc : 32 ≤ c.toNat) (h : Printable cs) :
    Printable (c :: cs) := List.forall_mem_cons.mpr ⟨hc, h⟩

theorem append {cs ds : List Char} (h : Printable cs) (h' : Printable ds) :
    Printable (cs ++ ds) := List.forall_mem_append.mpr ⟨h, h'⟩

theorem not_mem {c : Char} {cs : List Char} (h : Printable cs) (control : c.toNat < 32) :
    c ∉ cs := fun hc => absurd (h c hc) (Nat.not_le.mpr control)

end Printable

theorem printable_writeDigits (ds : List Number.Digit) : Printable (Number.writeDigits ds) := by
  intro c hc
  obtain ⟨d, -, rfl⟩ := List.mem_map.mp hc
  rw [d.toNat_char]
  omega

namespace Json

theorem hexDigit_printable : ∀ n < 16, 32 ≤ (hexDigit n).toNat := by decide

/-- A character inside quotes is escaped if it is a control character. -/
theorem printable_escape (c : Char) : Printable (escape c) := by
  have hletter : ∀ e : Char, 32 ≤ e.toNat → Printable ['\\', e] := fun e he =>
    .cons (by decide) (.cons he .nil)
  unfold escape
  iterate 7
    split
    · exact hletter _ (by decide)
  split
  · have hunit : Printable ['\\', 'u', '0', '0'] := by decide
    exact hunit.append (.cons (hexDigit_printable _ (by omega))
      (.cons (hexDigit_printable _ (by omega)) .nil))
  · rename_i hcontrol
    exact .cons (by omega) .nil

theorem printable_quote (s : String) : Printable (quote s) := by
  refine .cons (by decide) (.append (fun c hc => ?_) (.cons (by decide) .nil))
  obtain ⟨d, -, hd⟩ := List.mem_flatMap.mp hc
  exact printable_escape d c hd

theorem Numeral.printable_print (n : Numeral) : Printable n.print := by
  unfold Numeral.print
  refine .append (.append (.append ?_ (printable_writeDigits _)) ?_) ?_
  · split
    · exact .cons (by decide) .nil
    · exact .nil
  · split
    · exact .nil
    · exact .cons (by decide) (printable_writeDigits _)
  · split
    · exact .nil
    · refine .cons (by decide) (.cons ?_ (printable_writeDigits _))
      split <;> decide

namespace Tree

mutual

/-- **A tree is written without control characters.** -/
theorem printable_printChars : ∀ t : Tree, Printable t.printChars
  | .null => by decide
  | .bool true => by decide
  | .bool false => by decide
  | .number n => n.printable_print
  | .string s => printable_quote _
  | .array [] => by decide
  | .array (t :: rest) => by
      rw [printChars]
      exact .cons (by decide) ((printable_printChars t).append (printable_printItems rest))
  | .object [] => by decide
  | .object ((name, t) :: rest) => by
      rw [printChars]
      exact .cons (by decide) ((printable_quote _).append
        (.cons (by decide) ((printable_printChars t).append (printable_printMembers rest))))

theorem printable_printItems : ∀ ts : List Tree, Printable (printItems ts)
  | [] => .cons (by decide) .nil
  | t :: rest => by
      rw [printItems]
      exact .cons (by decide) ((printable_printChars t).append (printable_printItems rest))

theorem printable_printMembers : ∀ ms : List (Option String × Tree), Printable (printMembers ms)
  | [] => .cons (by decide) .nil
  | (name, t) :: rest => by
      rw [printMembers]
      exact .cons (by decide) ((printable_quote _).append
        (.cons (by decide) ((printable_printChars t).append (printable_printMembers rest))))

end

end Tree

/-- A value is written without control characters. -/
theorem printable_print (j : Json) : Printable j.print.toList := by
  rw [print, Tree.print, String.toList_ofList]
  exact j.toTree.printable_printChars

end Json

end ProjectViews
