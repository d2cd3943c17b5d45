/-
What percent encoding keeps.

The bytes of a text say which text it was, because a first byte says how many follow it.

Encoding a text does not change what it writes, whatever was encoded in it before: an escape that
is there stays, since neither the percent sign nor a hexadecimal digit is encoded, and none comes
to be there.  What a text writes is never longer than the text itself, and it is as long only when
there is no escape in it.
-/
import Mathlib.Data.Bool.AllAny
import ProjectViews.Url.Path

namespace ProjectViews

/-! ### Bytes -/

namespace Utf8

theorem val_byte {n : Nat} (h : n < 256) : (byte n).val = n := Nat.mod_eq_of_lt h

/-- The bytes of the character with a number, by how many there are. -/
inductive Bytes (n : Nat) : List Byte → Prop
  | one {a : Byte} (bound : n < 0x80) (ha : a.val = n) : Bytes n [a]
  | two {a b : Byte} (bound : n < 0x800) (ha : a.val = 0xC0 + n / 0x40)
      (hb : b.val = 0x80 + n % 0x40) : Bytes n [a, b]
  | three {a b c : Byte} (bound : n < 0x10000) (ha : a.val = 0xE0 + n / 0x1000)
      (hb : b.val = 0x80 + n / 0x40 % 0x40) (hc : c.val = 0x80 + n % 0x40) : Bytes n [a, b, c]
  | four {a b c d : Byte} (bound : n < 0x110000) (ha : a.val = 0xF0 + n / 0x40000)
      (hb : b.val = 0x80 + n / 0x1000 % 0x40) (hc : c.val = 0x80 + n / 0x40 % 0x40)
      (hd : d.val = 0x80 + n % 0x40) : Bytes n [a, b, c, d]

theorem bytes_encodeChar (c : Char) : Bytes c.toNat (encodeChar c) := by
  have hbound : c.toNat < 0x110000 := by
    rcases c.valid with h | ⟨-, h⟩ <;> change c.toNat < _ at h <;> omega
  rw [encodeChar]
  split
  · rename_i h
    exact .one h (val_byte (by omega))
  · split
    · rename_i h
      exact .two h (val_byte (by omega)) (val_byte (by omega))
    · split
      · rename_i h
        exact .three h (val_byte (by omega)) (val_byte (by omega)) (val_byte (by omega))
      · exact .four hbound (val_byte (by omega)) (val_byte (by omega)) (val_byte (by omega))
          (val_byte (by omega))

/-- The first byte says how many follow, and all say the number. -/
theorem Bytes.append_inj {m n : Nat} {xs ys rest rest' : List Byte} (hm : Bytes m xs)
    (hn : Bytes n ys) (h : xs ++ rest = ys ++ rest') : m = n ∧ rest = rest' := by
  cases hm with
  | one =>
      cases hn <;> simp only [List.cons_append, List.nil_append, List.cons.injEq, Fin.ext_iff] at h
      case one => exact ⟨by omega, h.2⟩
      all_goals omega
  | two =>
      cases hn <;> simp only [List.cons_append, List.nil_append, List.cons.injEq, Fin.ext_iff] at h
      case two => exact ⟨by omega, h.2.2⟩
      all_goals omega
  | three =>
      cases hn <;> simp only [List.cons_append, List.nil_append, List.cons.injEq, Fin.ext_iff] at h
      case three => exact ⟨by omega, h.2.2.2⟩
      all_goals omega
  | four =>
      cases hn <;> simp only [List.cons_append, List.nil_append, List.cons.injEq, Fin.ext_iff] at h
      case four => exact ⟨by omega, h.2.2.2.2⟩
      all_goals omega

theorem encode_cons (c : Char) (cs : List Char) : encode (c :: cs) = encodeChar c ++ encode cs :=
  List.flatMap_cons

theorem length_encodeChar_pos (c : Char) : 0 < (encodeChar c).length := by
  have hbytes := bytes_encodeChar c
  generalize encodeChar c = bytes at hbytes
  cases hbytes <;> exact Nat.zero_lt_succ _

/-- **The bytes of a text say which text it is.** -/
theorem encode_inj {cs ds : List Char} : encode cs = encode ds ↔ cs = ds := by
  refine ⟨fun h => ?_, congrArg encode⟩
  have hnil : ∀ c cs, encode (c :: cs) ≠ [] := by
    intro c cs hnil
    rw [encode_cons, List.append_eq_nil_iff] at hnil
    exact absurd hnil.1 (List.ne_nil_of_length_pos (length_encodeChar_pos c))
  induction cs generalizing ds with
  | nil =>
      cases ds with
      | nil => rfl
      | cons d ds => exact absurd h.symm (hnil d ds)
  | cons c cs ih =>
      cases ds with
      | nil => exact absurd h (hnil c cs)
      | cons d ds =>
          rw [encode_cons, encode_cons] at h
          obtain ⟨hchar, hrest⟩ := (bytes_encodeChar c).append_inj (bytes_encodeChar d) h
          rw [Char.toNat_inj.mp hchar, ih hrest]

/-- A part of a text has fewer bytes, unless it is all of it. -/
theorem length_encode_le {cs ds : List Char} (h : cs.Sublist ds) :
    (encode cs).length ≤ (encode ds).length ∧
      ((encode cs).length = (encode ds).length → cs = ds) := by
  induction h with
  | slnil => exact ⟨Nat.le_refl _, fun _ => rfl⟩
  | @cons cs ds d _ ih =>
      have hpositive := length_encodeChar_pos d
      rw [encode_cons d, List.length_append]
      exact ⟨by omega, fun heq => absurd ih.1 (by omega)⟩
  | @cons_cons cs ds d _ ih =>
      rw [encode_cons, encode_cons, List.length_append, List.length_append]
      exact ⟨by omega, fun heq => congrArg (d :: ·) (ih.2 (by omega))⟩

end Utf8

namespace Percent

/-! ### Escapes -/

/-- Whether two hexadecimal digits stand at the front of a text. -/
def startsWithDigits : List Char → Bool
  | a :: b :: _ => (value? a).isSome && (value? b).isSome
  | _ => false

/-- Whether a text holds a percent sign with two hexadecimal digits behind it. -/
def hasEscape : List Char → Bool
  | [] => false
  | c :: cs => (c == '%' && startsWithDigits cs) || hasEscape cs

theorem decode_cons_of_ne {c : Char} (h : c ≠ '%') (cs : List Char) :
    decode (c :: cs) = Utf8.encodeChar c ++ decode cs := by
  rw [decode]
  exact fun _ _ _ hc => absurd hc h

theorem decode_percent_of_not {cs : List Char} (h : startsWithDigits cs = false) :
    decode ('%' :: cs) = Utf8.encodeChar '%' ++ decode cs := by
  match cs with
  | [] => rfl
  | [a] => rfl
  | a :: b :: rest =>
      rw [decode]
      split
      · rename_i ha hb
        rw [startsWithDigits, ha, hb] at h
        cases h
      · rfl

theorem startsWithDigits_iff {cs : List Char} : startsWithDigits cs = true ↔
    ∃ a b rest x y, cs = a :: b :: rest ∧ value? a = some x ∧ value? b = some y := by
  constructor
  · intro h
    match cs with
    | [] => cases h
    | [a] => cases h
    | a :: b :: rest =>
        obtain ⟨ha, hb⟩ := Bool.and_eq_true_iff.mp h
        obtain ⟨x, hx⟩ := Option.isSome_iff_exists.mp ha
        obtain ⟨y, hy⟩ := Option.isSome_iff_exists.mp hb
        exact ⟨a, b, rest, x, y, rfl, hx, hy⟩
  · rintro ⟨a, b, rest, x, y, rfl, hx, hy⟩
    rw [startsWithDigits, hx, hy]
    rfl

theorem decode_escape {a b : Char} {x y : Nat} (ha : value? a = some x) (hb : value? b = some y)
    (rest : List Char) :
    decode ('%' :: a :: b :: rest) = Utf8.byte (x * 16 + y) :: decode rest := by
  rw [decode, ha, hb]

/-- **A text without escapes writes itself, and one with an escape writes less.** -/
theorem decode_cases (cs : List Char) : (hasEscape cs = false ∧ decode cs = Utf8.encode cs) ∨
    (hasEscape cs = true ∧ (decode cs).length < (Utf8.encode cs).length) := by
  induction hn : cs.length using Nat.strongRecOn generalizing cs with
  | _ n ih =>
      cases cs with
      | nil => exact Or.inl ⟨rfl, rfl⟩
      | cons c cs =>
          -- a character that stands for itself adds its bytes to both sides
          have hself : decode (c :: cs) = Utf8.encodeChar c ++ decode cs →
              hasEscape (c :: cs) = hasEscape cs →
              (hasEscape (c :: cs) = false ∧ decode (c :: cs) = Utf8.encode (c :: cs)) ∨
                (hasEscape (c :: cs) = true ∧
                  (decode (c :: cs)).length < (Utf8.encode (c :: cs)).length) := by
            intro hdecode hescape
            rw [hdecode, hescape, Utf8.encode_cons, List.length_append, List.length_append]
            rcases ih cs.length (by rw [← hn]; exact Nat.lt_succ_self _) cs rfl with h | h
            · exact Or.inl ⟨h.1, by rw [h.2]⟩
            · exact Or.inr ⟨h.1, by omega⟩
          by_cases hc : c = '%'
          · subst hc
            cases hdigits : startsWithDigits cs with
            | false =>
                exact hself (decode_percent_of_not hdigits) (by rw [hasEscape, hdigits]; rfl)
            | true =>
                obtain ⟨a, b, rest, x, y, rfl, ha, hb⟩ := startsWithDigits_iff.mp hdigits
                refine Or.inr ⟨by rw [hasEscape, hdigits]; rfl, ?_⟩
                have hrest : (decode rest).length ≤ (Utf8.encode rest).length := by
                  have hshorter : rest.length < n := by
                    rw [← hn]
                    simp only [List.length_cons]
                    omega
                  rcases ih _ hshorter rest rfl with h | h
                  · exact Nat.le_of_eq (congrArg List.length h.2)
                  · exact Nat.le_of_lt h.2
                have hpositive := Utf8.length_encodeChar_pos a
                have hpositive' := Utf8.length_encodeChar_pos '%'
                rw [decode_escape ha hb, Utf8.encode_cons, Utf8.encode_cons, Utf8.encode_cons]
                simp only [List.length_cons, List.length_append]
                omega
          · exact hself (decode_cons_of_ne hc cs) (by rw [hasEscape, beq_false_of_ne hc]; rfl)

/-! ### Encoding -/

theorem value?_digit : ∀ n, n < 16 → value? (digit n) = some n := by decide

theorem decode_ofByte (b : Utf8.Byte) (rest : List Char) :
    decode (ofByte b ++ rest) = b :: decode rest := by
  have hhigh : value? (digit (b.val / 16)) = some (b.val / 16) :=
    value?_digit _ (by have := b.isLt; omega)
  have hlow : value? (digit (b.val % 16)) = some (b.val % 16) := value?_digit _ (by omega)
  show decode ('%' :: digit (b.val / 16) :: digit (b.val % 16) :: rest) = _
  rw [decode_escape hhigh hlow]
  congr 1
  refine Fin.ext ((Utf8.val_byte ?_).trans ?_) <;> omega

theorem decode_ofBytes (bytes : List Utf8.Byte) (rest : List Char) :
    decode (bytes.flatMap ofByte ++ rest) = bytes ++ decode rest := by
  induction bytes with
  | nil => rfl
  | cons b bytes ih =>
      rw [List.flatMap_cons, List.append_assoc, decode_ofByte, ih, List.cons_append]

section Encode

variable {set : Char → Bool}

theorem encode_cons (c : Char) (cs : List Char) :
    encode set (c :: cs) = encodeChar set c ++ encode set cs := List.flatMap_cons

theorem encode_cons_of_not {c : Char} (h : set c = false) (cs : List Char) :
    encode set (c :: cs) = c :: encode set cs := by
  rw [encode_cons, encodeChar, h]
  rfl

/-- A character that is encoded is found behind a percent sign. -/
theorem startsWithDigits_of_encoded {c : Char} (h : set c = true) (cs : List Char) :
    ∃ rest, encode set (c :: cs) = '%' :: rest := by
  have hbytes := List.ne_nil_of_length_pos (Utf8.length_encodeChar_pos c)
  obtain ⟨b, bytes, hb⟩ := List.exists_cons_of_ne_nil hbytes
  rw [encode_cons, encodeChar, if_pos h, hb]
  exact ⟨_, rfl⟩

/-- Digits are found where they were. -/
theorem startsWithDigits_encode (apart : ∀ c, set c = true → value? c = none) (cs : List Char) :
    startsWithDigits (encode set cs) = startsWithDigits cs := by
  have hpercent : ∀ rest, startsWithDigits ('%' :: rest) = false := by
    intro rest
    cases rest <;> rfl
  match cs with
  | [] => rfl
  | [a] =>
      cases ha : set a with
      | false =>
          rw [encode_cons_of_not ha]
          rfl
      | true =>
          obtain ⟨rest, hrest⟩ := startsWithDigits_of_encoded ha []
          rw [hrest, hpercent]
          rfl
  | a :: b :: cs =>
      cases ha : set a with
      | true =>
          obtain ⟨rest, hrest⟩ := startsWithDigits_of_encoded ha (b :: cs)
          rw [hrest, hpercent, startsWithDigits, apart a ha]
          rfl
      | false =>
          rw [encode_cons_of_not ha]
          cases hb : set b with
          | false =>
              rw [encode_cons_of_not hb]
              rfl
          | true =>
              obtain ⟨rest, hrest⟩ := startsWithDigits_of_encoded hb cs
              rw [hrest, startsWithDigits, startsWithDigits, apart b hb]
              rfl

/-- **Encoding does not change what a text writes.** -/
theorem decode_encode (apart : ∀ c, set c = true → value? c = none ∧ c ≠ '%') (cs : List Char) :
    decode (encode set cs) = decode cs := by
  have hkept : ∀ {c x}, value? c = some x → set c = false := by
    intro c x hx
    rw [← Bool.not_eq_true]
    intro hc
    cases (apart c hc).1.symm.trans hx
  have hpercent : set '%' = false := by
    rw [← Bool.not_eq_true]
    exact fun hc => (apart '%' hc).2 rfl
  induction hn : cs.length using Nat.strongRecOn generalizing cs with
  | _ n ih =>
      cases cs with
      | nil => rfl
      | cons c cs =>
          have hcs := ih cs.length (by rw [← hn]; exact Nat.lt_succ_self _) cs rfl
          cases hc : set c with
          | true =>
              rw [encode_cons, encodeChar, if_pos hc, decode_ofBytes, hcs,
                decode_cons_of_ne (apart c hc).2]
          | false =>
              rw [encode_cons_of_not hc]
              by_cases hsign : c = '%'
              · subst hsign
                cases hdigits : startsWithDigits cs with
                | false =>
                    have hdigits' := startsWithDigits_encode (fun c hc => (apart c hc).1) cs
                    rw [decode_percent_of_not (hdigits'.trans hdigits), hcs,
                      decode_percent_of_not hdigits]
                | true =>
                    obtain ⟨a, b, rest, x, y, rfl, ha, hb⟩ := startsWithDigits_iff.mp hdigits
                    have hrest := ih rest.length
                      (by rw [← hn]; simp only [List.length_cons]; omega) rest rfl
                    rw [encode_cons_of_not (hkept ha), encode_cons_of_not (hkept hb),
                      decode_escape ha hb, decode_escape ha hb, hrest]
              · rw [decode_cons_of_ne hsign, decode_cons_of_ne hsign, hcs]

end Encode

end Percent

/-- A hexadecimal digit has the number of a letter or a digit. -/
theorem Percent.toNat_of_value? {c : Char} {x : Nat} (h : value? c = some x) :
    (48 ≤ c.toNat ∧ c.toNat ≤ 57) ∨ (97 ≤ c.toNat ∧ c.toNat ≤ 102) ∨
      (65 ≤ c.toNat ∧ c.toNat ≤ 70) := by
  rw [value?] at h
  split at h
  · rename_i hc
    exact Or.inl hc
  · split at h
    · rename_i hc
      exact Or.inr (Or.inl hc)
    · split at h
      · rename_i hc
        exact Or.inr (Or.inr hc)
      · cases h

/-- A path encodes neither percent signs nor digits. -/
theorem Url.inPath_apart (c : Char) (h : Url.inPath c = true) :
    Percent.value? c = none ∧ c ≠ '%' := by
  simp only [inPath, inFragment, isControl, Bool.or_eq_true, decide_eq_true_eq,
    List.contains_iff_mem] at h
  have hcontrol : c.toNat < 32 ∨ 126 < c.toNat → Percent.value? c = none ∧ c ≠ '%' := by
    intro hcode
    refine ⟨Option.eq_none_iff_forall_not_mem.mpr fun x hx => ?_, ?_⟩
    · have hdigit := Percent.toNat_of_value? hx
      omega
    · rintro rfl
      exact absurd hcode (by decide)
  have hmarks : ∀ c ∈ " \"<>`".toList ++ "#?\x7b\x7d".toList,
      Percent.value? c = none ∧ c ≠ '%' :=
    List.all_iff_forall_prop.mp (by decide +kernel)
  rcases h with (hcode | hmark) | hmark
  · exact hcontrol hcode
  · exact hmarks c (List.mem_append_left _ hmark)
  · exact hmarks c (List.mem_append_right _ hmark)

end ProjectViews
