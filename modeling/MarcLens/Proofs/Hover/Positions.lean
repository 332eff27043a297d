import MarcLens.Catalogue.Shipped
import MarcLens.Proofs.Hover.Answer

/-!
# Positions that cover a character

A position is looked up by a character of its field. What is found is the first position of the
table that covers the character. The bounds of positions can be numbers of any kind. When they are
integers, the look-up is a plain search.

## Main definitions

- `Position.spans`: a position with integer bounds covers a character
- `Catalogue.startsInside`: positions start inside their fields, and open ones at the beginning

## Main statements

- `Json.le_capped`, `Json.capped_le`: a bound that is capped stays on its side of a character
- `Position.exists_of_first?_eq_some`: a position that is found covers the character
- `Position.first?_eq_ok_find?`: with integer bounds the look-up is a plain search
- `Catalogue.of_position?_eq_some`: what holds of all positions holds of one that is looked up
-/

namespace MarcLens

/-! ### Bounds that are capped -/

namespace Number

variable {x : Number} {n limit : Int}

theorem atLeast_ofInt (m n : Int) : (ofInt m).atLeast n = decide (n ≤ m) := by
  show decide (n * ((1 : Nat) : Int) ≤ m) = decide (n ≤ m)
  rw [Int.natCast_one, Int.mul_one]

theorem atMost_ofInt (m n : Int) : (ofInt m).atMost n = decide (m ≤ n) := by
  show decide (m ≤ n * ((1 : Nat) : Int)) = decide (m ≤ n)
  rw [Int.natCast_one, Int.mul_one]

theorem capped_ofInt (n limit : Int) : (ofInt n).capped limit = min n limit := by
  have hfloor : (Rat.ofInt n).floor = n := by
    rw [Rat.floor_def]
    exact Int.ediv_one n
  rw [ofInt, capped, hfloor]

theorem le_capped (h : x.atLeast n) (hle : n ≤ limit) : n ≤ x.capped limit := by
  cases x with
  | finite q =>
    have hfloor : n ≤ q.floor := by
      rw [Rat.floor_def, Int.le_ediv_iff_mul_le (Int.ofNat_lt.2 q.den_pos)]
      simpa [atLeast] using h
    exact Int.le_min.2 ⟨hfloor, hle⟩
  | negativeZero =>
    have hzero : n ≤ 0 := by simpa [atLeast] using h
    exact Int.le_min.2 ⟨hzero, hle⟩
  | infinite negative => exact hle
  | nan => exact hle

/-- Of the numbers that are not finite, only one is not negative, and it is too large. -/
theorem capped_le (hzero : x.atLeast 0) (h : x.atMost n) : x.capped limit ≤ n := by
  cases x with
  | finite q =>
    have hfloor : q.floor ≤ n := by
      rw [Rat.floor_def]
      exact Int.ediv_le_of_le_mul (Int.ofNat_lt.2 q.den_pos) (by simpa [atMost] using h)
    exact Int.le_trans (Int.min_le_left _ _) hfloor
  | negativeZero =>
    have hn : 0 ≤ n := by simpa [atMost] using h
    exact Int.le_trans (Int.min_le_left _ _) hn
  | infinite negative =>
    have hpositive : negative = false := by simpa [atLeast] using hzero
    cases hpositive.symm.trans h
  | nan => cases h

theorem atMost_of_equal (h : x.equal false (.ofInt n)) : x.atMost n := by
  rw [equal] at h
  split at h
  · next hzeros =>
    obtain ⟨hx, hn⟩ : x.isZero ∧ (ofInt n).isZero := by simpa using hzeros
    obtain rfl : n = 0 := congrArg Rat.num (of_decide_eq_true hn)
    cases x with
    | finite q =>
      obtain rfl : q = 0 := by simpa [isZero] using hx
      rfl
    | negativeZero => rfl
    | infinite negative => cases hx
    | nan => cases hx
  · obtain rfl : x = ofInt n := by
      simp only [Bool.and_eq_true, decide_eq_true_eq] at h
      exact h.1
    rw [atMost_ofInt]
    exact decide_eq_true (Int.le_refl n)

end Number

namespace Json

variable {j : Json} {n limit : Int}

/-! A value is compared and capped as the number that it stands for. -/

theorem atLeast?_eq_map_number? (j : Json) (n : Int) :
    j.atLeast? n = j.number?.map (·.atLeast n) := by
  cases j with
  | int m => exact congrArg some (Number.atLeast_ofInt m n).symm
  | bool b => exact congrArg some (Number.atLeast_ofInt _ n).symm
  | _ => rfl

theorem atMost?_eq_map_number? (j : Json) (n : Int) :
    j.atMost? n = j.number?.map (·.atMost n) := by
  cases j with
  | int m => exact congrArg some (Number.atMost_ofInt m n).symm
  | bool b => exact congrArg some (Number.atMost_ofInt _ n).symm
  | _ => rfl

theorem capped_of_number? {x : Number} (h : j.number? = some x) (limit : Int) :
    j.capped limit = x.capped limit := by
  cases j with
  | int m =>
    obtain rfl := Option.some.inj h
    exact (Number.capped_ofInt m limit).symm
  | bool b =>
    obtain rfl := Option.some.inj h
    exact (Number.capped_ofInt _ limit).symm
  | real y =>
    obtain rfl := Option.some.inj h
    rfl
  | _ => cases h

theorem le_capped (h : j.atLeast? n = some true) (hle : n ≤ limit) : n ≤ j.capped limit := by
  rw [atLeast?_eq_map_number?] at h
  obtain ⟨x, hx, hleast⟩ := Option.map_eq_some_iff.1 h
  rw [capped_of_number? hx]
  exact Number.le_capped hleast hle

theorem capped_le (hzero : j.atLeast? 0 = some true) (h : j.atMost? n = some true) :
    j.capped limit ≤ n := by
  rw [atLeast?_eq_map_number?] at hzero
  rw [atMost?_eq_map_number?] at h
  obtain ⟨x, hx, hleast⟩ := Option.map_eq_some_iff.1 hzero
  obtain ⟨y, hy, hmost⟩ := Option.map_eq_some_iff.1 h
  obtain rfl := Option.some.inj (hx.symm.trans hy)
  rw [capped_of_number? hx]
  exact Number.capped_le hleast hmost

theorem atMost?_of_isInt (h : j.isInt n) : j.atMost? n = some true := by
  cases j with
  | real x => exact congrArg some (Number.atMost_of_equal h)
  | _ => simp_all [isInt, atMost?, index?]

/-! An integer is compared and capped as it is. -/

section Index

variable {m : Int} (h : j.index? = some m) (n : Int)

include h

theorem atMost?_of_index? : j.atMost? n = some (decide (m ≤ n)) := by
  cases j <;> simp_all [atMost?, index?]

theorem atLeast?_of_index? : j.atLeast? n = some (decide (n ≤ m)) := by
  cases j <;> simp_all [atLeast?, index?]

theorem isInt_of_index? : j.isInt n = decide (m = n) := by
  cases j <;> simp_all [isInt, index?]

theorem capped_of_index? : j.capped n = min m n := by
  cases j <;> simp_all [capped, index?]

end Index

end Json

/-! ### The position of a character -/

namespace Position

variable {p : Position} {positions : Table Position} {c : Int}

theorem covers_eq_ok_true_iff :
    p.covers c = .ok true ↔
      p.start.atMost? c = some true ∧ (p.isOpen ∨ p.stop.atLeast? c = some true) := by
  rw [covers]
  cases hstart : p.start.atMost? c with
  | none => simp
  | some started =>
    cases started with
    | false => simp
    | true =>
      cases hopen : p.isOpen with
      | true => simp
      | false => cases hstop : p.stop.atLeast? c <;> simp

/-- A position that is found is one of the table and covers the character. -/
theorem exists_of_first?_eq_some (h : first? c positions = .ok (some p)) :
    (∃ name, (name, p) ∈ positions) ∧ p.covers c = .ok true := by
  induction positions with
  | nil => cases h
  | cons entry rest ih =>
    obtain ⟨name, q⟩ := entry
    rw [first?] at h
    cases hcovers : q.covers c with
    | error fault =>
      rw [hcovers] at h
      cases h
    | ok covered =>
      rw [hcovers] at h
      cases covered with
      | true =>
        obtain rfl := Option.some.inj (Except.ok.inj h)
        exact ⟨⟨name, List.mem_cons_self⟩, hcovers⟩
      | false =>
        obtain ⟨⟨name', hmem⟩, hp⟩ := ih h
        exact ⟨⟨name', List.mem_cons_of_mem _ hmem⟩, hp⟩

/-- A position whose bounds are integers covers a character: it starts there or before, and it stops
    there or behind, unless it is open. -/
def spans (p : Position) (character : Int) : Bool :=
  match p.start.index?, p.stop.index? with
  | some start, some stop => start ≤ character && (stop = -1 || character ≤ stop)
  | _, _ => false

theorem covers_eq_ok_spans (h : p.hasIntegerBounds) (c : Int) : p.covers c = .ok (p.spans c) := by
  rw [hasIntegerBounds, Bool.and_eq_true] at h
  obtain ⟨start, hstart⟩ := Option.isSome_iff_exists.1 h.1
  obtain ⟨stop, hstop⟩ := Option.isSome_iff_exists.1 h.2
  rw [covers, spans, isOpen, Json.atMost?_of_index? hstart, Json.atLeast?_of_index? hstop,
    Json.isInt_of_index? hstop, hstart, hstop]
  by_cases hle : start ≤ c
  · by_cases hstop : stop = -1 <;> simp [hle, hstop]
  · simp [hle]

/-- Positions with integer bounds are searched for the first one that covers a character. -/
theorem first?_eq_ok_find? (h : ∀ entry ∈ positions, entry.2.hasIntegerBounds) (c : Int) :
    first? c positions = .ok ((positions.find? fun entry => entry.2.spans c).map Prod.snd) := by
  induction positions with
  | nil => rfl
  | cons entry rest ih =>
    obtain ⟨name, p⟩ := entry
    have ih := ih fun entry hentry => h entry (List.mem_cons_of_mem _ hentry)
    rw [first?, covers_eq_ok_spans (h (name, p) List.mem_cons_self)]
    cases hspans : p.spans c with
    | true =>
      rw [List.find?_cons, hspans]
      rfl
    | false =>
      rw [List.find?_cons, hspans, ← ih]
      rfl

/-- A position starts inside its field, and at the beginning of it if the position is open. -/
def startsInside (p : Position) : Bool :=
  p.start.atLeast? 0 = some true && (!p.isOpen || p.start.isInt 0)

theorem startsInside_iff :
    p.startsInside ↔ p.start.atLeast? 0 = some true ∧ (p.isOpen → p.start.isInt 0) := by
  simp [startsInside, ← Bool.not_eq_true, Classical.or_iff_not_imp_left]

end Position

namespace Catalogue

/-- All positions start inside their fields, and open ones at the beginning. -/
def startsInside (c : Catalogue) : Bool :=
  c.fixedFields.all fun fields => fields.2.all fun positions =>
    positions.2.all fun entry => entry.2.startsInside

theorem startsInside_shipped : shipped.startsInside := by
  decide +kernel

/-- What holds of all positions of a catalogue holds of every one that is looked up. -/
theorem of_position?_eq_some {cat : Catalogue} {good : Position → Bool}
    (h : cat.fixedFields.all fun fields => fields.2.all fun positions =>
      positions.2.all fun entry => good entry.2)
    {tag : String} {c : Int} {type : RecordType} {p : Position}
    (hp : cat.position? tag c type = .ok (some p)) : good p := by
  obtain ⟨⟨name, hmem⟩, -⟩ := Position.exists_of_first?_eq_some hp
  cases hfield : cat.fixedField? tag type with
  | none =>
    rw [hfield] at hmem
    cases hmem
  | some positions =>
    rw [hfield] at hmem
    exact forall_mem_fixedField? h hfield _ hmem

end Catalogue

end MarcLens
