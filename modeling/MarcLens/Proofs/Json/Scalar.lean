import MarcLens.Json.Parser
import MarcLens.Json.Printer
import Mathlib.Data.List.Basic

/-!
# Strings and integers, written and read

The reader takes a string or an integer back from its written form and leaves what follows. The end
of a string can be seen from the string itself, that of an integer only from what follows it.

## Main statements

- `Json.stringBody_flatMap_escape`: a string is read back, whatever its characters
- `Json.scalar?_decimal_append`: an integer is read back if it does not have too many digits
-/

namespace MarcLens.Json

/-! ### Strings -/

theorem hexValue?_hexDigit {n : Nat} (h : n < 16) : hexValue? (hexDigit n) = some n := by
  have hall : ∀ i : Fin 16, hexValue? (hexDigit i) = some (i : Nat) := by decide
  exact hall ⟨n, h⟩

theorem hex4?_of_lt {n : Nat} (h : n < 0x20) :
    hex4? '0' '0' (hexDigit (n / 16)) (hexDigit (n % 16)) = some n := by
  have hzero : hexValue? '0' = some 0 := rfl
  simp only [hex4?, hzero, hexValue?_hexDigit (show n / 16 < 16 by omega),
    hexValue?_hexDigit (show n % 16 < 16 by omega), Option.bind_eq_bind, Option.bind_some,
    Option.pure_def, Option.some.injEq]
  omega

theorem stringBody_control {c : Char} (h : c.toNat < 0x20) (t : Text) :
    stringBody none ('\\' :: 'u' :: '0' :: '0' :: hexDigit (c.toNat / 16) ::
      hexDigit (c.toNat % 16) :: t) = prepend [c] (stringBody none t) := by
  rw [stringBody, hex4?_of_lt h]
  simp only [unpaired, Option.isSome_none, Char.ofNat_toNat, List.nil_append,
    if_neg (show ¬(0xD800 ≤ c.toNat ∧ c.toNat < 0xDC00) by omega),
    if_neg (show ¬(0xDC00 ≤ c.toNat ∧ c.toNat < 0xE000) by omega), Bool.false_eq_true, if_false]

theorem stringBody_cons_of_ne {c : Char} (hquote : c ≠ '"') (hback : c ≠ '\\')
    (hcontrol : ¬c.toNat < 0x20) (t : Text) :
    stringBody none (c :: t) = prepend [c] (stringBody none t) := by
  rw [stringBody.eq_def]
  split
  · simp_all
  · simp_all
  · simp_all
  · simp_all
  · next heq =>
    obtain ⟨rfl, rfl⟩ := List.cons.inj heq
    rw [if_neg hcontrol]
    rfl

/-- A character is read back from its written form. -/
theorem stringBody_escape_append (c : Char) (t : Text) :
    stringBody none (escape c ++ t) = prepend [c] (stringBody none t) := by
  rw [escape]
  split_ifs with hquote hback hn hr ht hb hf hcontrol
  · subst c; rfl
  · subst c; rfl
  · subst c; rfl
  · subst c; rfl
  · subst c; rfl
  · subst c; rfl
  · subst c; rfl
  · exact stringBody_control hcontrol t
  · exact stringBody_cons_of_ne hquote hback hcontrol t

theorem stringBody_flatMap_escape (s rest : Text) :
    stringBody none (s.flatMap escape ++ '"' :: rest) = some (s, rest) := by
  induction s with
  | nil => rfl
  | cons c s ih =>
    rw [List.flatMap_cons, List.append_assoc, stringBody_escape_append, ih]
    rfl

/-! ### Numbers -/

/-- What follows a number in a written value: nothing, a comma or a new line. -/
def EndsNumber (rest : Text) : Prop := ∀ c ∈ rest.head?, c = ',' ∨ c = '\n'

theorem endsNumber_nil : EndsNumber [] := by simp [EndsNumber]

theorem endsNumber_cons {c : Char} {t : Text} : EndsNumber (c :: t) ↔ c = ',' ∨ c = '\n' := by
  simp [EndsNumber]

namespace EndsNumber

variable {rest : Text}

theorem takeWhile_isDigit (h : EndsNumber rest) : rest.takeWhile Char.isDigit = [] := by
  cases rest with
  | nil => rfl
  | cons c t => rcases endsNumber_cons.1 h with rfl | rfl <;> rfl

theorem fraction_eq_nil (h : EndsNumber rest) : fraction rest = [] := by
  cases rest with
  | nil => rfl
  | cons c t => rcases endsNumber_cons.1 h with rfl | rfl <;> rfl

theorem exponent_eq_nil (h : EndsNumber rest) : exponent rest = [] := by
  cases rest with
  | nil => rfl
  | cons c t => rcases endsNumber_cons.1 h with rfl | rfl <;> simp [exponent]

end EndsNumber

/-- The digits of a positive number do not start with a zero. -/
theorem head?_toDigits_ne {n : Nat} (h : 0 < n) : (Nat.toDigits 10 n).head? ≠ some '0' := by
  induction n using Nat.strongRecOn with
  | ind n ih =>
    by_cases hlt : n < 10
    · rw [Nat.toDigits_of_lt_base hlt]
      have hall : ∀ i : Fin 10, 0 < (i : Nat) → [Nat.digitChar i].head? ≠ some '0' := by decide
      exact hall ⟨n, hlt⟩ h
    · rw [Nat.toDigits_of_base_le (by omega) (by omega),
        List.head?_append_of_ne_nil _ Nat.toDigits_ne_nil]
      exact ih (n / 10) (by omega) (by omega)

theorem wholePart_toDigits_append (n : Nat) {rest : Text} (hrest : EndsNumber rest) :
    wholePart (Nat.toDigits 10 n ++ rest) = Nat.toDigits 10 n := by
  have hdigits : ∀ c ∈ Nat.toDigits 10 n, c.isDigit :=
    fun c hc => Nat.isDigit_of_mem_toDigits (by omega) (by omega) hc
  -- A zero in front ends the integer part, so all other numbers have to start otherwise.
  rcases Nat.eq_zero_or_pos n with rfl | hpos
  · rfl
  · have hhead := head?_toDigits_ne hpos
    rw [wholePart]
    · rw [List.takeWhile_append_of_pos hdigits, hrest.takeWhile_isDigit, List.append_nil]
    · intro t ht
      rw [← List.head?_append_of_ne_nil _ Nat.toDigits_ne_nil, ht] at hhead
      exact hhead rfl

/-- An integer is read back from its digits. -/
theorem unsigned?_toDigits_append {n : Nat} {rest : Text}
    (hlen : (Nat.toDigits 10 n).length ≤ maxIntegerDigits) (hrest : EndsNumber rest)
    (negative : Bool) :
    unsigned? negative (Nat.toDigits 10 n ++ rest) =
      some (.int (if negative then -n else n), rest) := by
  simp only [unsigned?, wholePart_toDigits_append n hrest, List.drop_left, hrest.fraction_eq_nil,
    List.length_nil, List.drop_zero, hrest.exponent_eq_nil, if_neg Nat.toDigits_ne_nil,
    if_neg (Nat.not_lt.2 hlen), Nat.ofDigitChars_ten_toDigits, and_self, if_true]

/-- A text that starts with a digit can only spell a number. -/
theorem scalar?_of_isDigit {c : Char} (h : c.isDigit) (t : Text) :
    scalar? (c :: t) = unsigned? false (c :: t) := by
  rw [scalar?.eq_def]
  split <;> simp_all

theorem scalar?_decimal_append {n : Int} {rest : Text}
    (hlen : (Nat.toDigits 10 n.natAbs).length ≤ maxIntegerDigits) (hrest : EndsNumber rest) :
    scalar? (decimal n ++ rest) = some (.int n, rest) := by
  have hread := unsigned?_toDigits_append hlen hrest
  have hdigits : ∀ c ∈ Nat.toDigits 10 n.natAbs, c.isDigit :=
    fun c hc => Nat.isDigit_of_mem_toDigits (by omega) (by omega) hc
  cases hcons : Nat.toDigits 10 n.natAbs with
  | nil => exact absurd hcons Nat.toDigits_ne_nil
  | cons c cs =>
    have hc := hdigits c (by simp [hcons])
    rw [hcons] at hread
    rw [decimal, hcons]
    split
    · next hneg =>
      have hvalue : -(n.natAbs : Int) = n := by omega
      have hsign : scalar? ('-' :: (c :: cs ++ rest)) = unsigned? true (c :: cs ++ rest) := by
        rw [List.cons_append, scalar?]
        rintro t ht
        obtain ⟨rfl, -⟩ := List.cons.inj ht
        exact absurd hc (by decide)
      rw [List.cons_append, hsign, hread true, if_pos rfl, hvalue]
    · next hnonneg =>
      have hvalue : (n.natAbs : Int) = n := by omega
      rw [List.cons_append, scalar?_of_isDigit hc, ← List.cons_append, hread false,
        if_neg Bool.false_ne_true, hvalue]

end MarcLens.Json
