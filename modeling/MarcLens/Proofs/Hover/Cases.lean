import MarcLens.Proofs.Hover.Positions

/-!
# What stands under a character, case by case

What a hover answers is about the tag, about a position of a fixed field, or about a part of a data
field. For each of these it is said once what the answer looks like and where it comes from.

## Main statements

- `Locate.exists_of_tag?_eq_some`: an answer on the tag
- `Locate.positionFrom_cases`: an answer on a position
- `Locate.part?_cases`: an answer on a part of a field
- `Locate.at?_cases`: there are no other answers
-/

namespace MarcLens

namespace Locate

variable {cat : Catalogue} {fmt : Format} {l : Text} {f : Field} {c : Int} {start : Nat}
  {found : Located} {type : Option RecordType}

/-- An answer on the tag is about the place where the tag is found, and the cursor is on it. -/
theorem exists_of_tag?_eq_some (h : tag? cat fmt l f c = some found) :
    ∃ (start : Nat) (d : TagDefinition), Text.find? (fmt.writtenTag f.tag) l = some start ∧
      (start : Int) ≤ c ∧ c < (start + (fmt.writtenTag f.tag).length : Nat) ∧
      found = ⟨.tag f.tag d, start, (start + (fmt.writtenTag f.tag).length : Nat)⟩ := by
  simp only [tag?, Option.ite_none_left_eq_some] at h
  obtain ⟨-, h⟩ := h
  split at h
  · cases h
  · next start hstart =>
    obtain ⟨-, h⟩ := Option.ite_none_left_eq_some.1 h
    obtain ⟨⟨hfrom, hto⟩, h⟩ := Option.ite_none_right_eq_some.1 h
    obtain ⟨d, -, rfl⟩ := Option.map_eq_some_iff.1 h
    exact ⟨start, d, hstart, hfrom, hto, rfl⟩

/-- An answer on a position is found from the place where the content starts, for some type. -/
theorem exists_of_position?_eq_some (h : position? cat fmt l f c type = .ok (some found)) :
    ∃ start t, contentStart? fmt l f c = some start ∧ assumedType f type = some t ∧
      positionFrom cat l f c start t = .ok found := by
  rw [position?] at h
  split at h
  · next start t hstart htype =>
    cases hposition : positionFrom cat l f c start t with
    | error fault =>
      rw [hposition] at h
      cases h
    | ok located =>
      rw [hposition] at h
      obtain rfl := Option.some.inj (Except.ok.inj h)
      exact ⟨start, t, hstart, htype, hposition⟩
  · cases h

/-- The content starts at the cursor or before, and the cursor is behind the tag, if any. -/
theorem contentStart?_eq_some_iff :
    contentStart? fmt l f c = some start ↔
      fmt.contentStart? l f.tag = some start ∧ (start : Int) ≤ c ∧
        (fmt.tagEnd < c ∨ fmt.isBareLeader f.tag) := by
  rw [contentStart?]
  by_cases hbehind : fmt.tagEnd < c ∨ fmt.isBareLeader f.tag
  · have hcond : ¬(c ≤ fmt.tagEnd && !fmt.isBareLeader f.tag) := by
      simpa [Classical.or_iff_not_imp_left] using hbehind
    rw [if_neg hcond, Option.filter_eq_some_iff]
    simp [hbehind]
  · have hcond : c ≤ fmt.tagEnd && !fmt.isBareLeader f.tag := by
      simpa using hbehind
    rw [if_pos hcond]
    simp [hbehind]

/-- The place behind the last character of a position that is answered: of an open one, the end of
    the content without blanks. -/
def positionStop (l : Text) (start : Nat) (p : Position) : Int :=
  start + min (if p.isOpen then ((Text.trim (l.drop start)).length : Int)
    else p.stop.capped (l.length - start - 1) + 1) (l.length - start)

/-- An answer on a position is about a single character that no position covers, or about the first
    position that covers the cursor. -/
theorem positionFrom_cases {t : RecordType} (h : positionFrom cat l f c start t = .ok found) :
    cat.position? (String.ofList f.tag) (c - start) t = .ok none ∧
        found = ⟨.character f.tag (c - start), c, c + 1⟩ ∨
      ∃ p value, cat.position? (String.ofList f.tag) (c - start) t = .ok (some p) ∧
        positionValue p (Text.trim (l.drop start)) = .ok value ∧
        found = ⟨.position f.tag p value, start + p.start.capped (l.length - start),
          positionStop l start p⟩ := by
  rw [positionFrom] at h
  cases hposition : cat.position? (String.ofList f.tag) (c - start) t with
  | error fault =>
    rw [hposition] at h
    cases h
  | ok position =>
    rw [hposition] at h
    cases position with
    | none => exact Or.inl ⟨rfl, (Except.ok.inj h).symm⟩
    | some p =>
      change (positionValue p _ >>= fun value => _) = _ at h
      cases hvalue : positionValue p (Text.trim (l.drop start)) with
      | error fault =>
        rw [hvalue] at h
        cases h
      | ok value =>
        rw [hvalue] at h
        exact Or.inr ⟨p, value, rfl, hvalue, (Except.ok.inj h).symm⟩

/-- What stands under a character of a data field, in the order in which it is looked for. -/
theorem part?_eq (hkind : f.kind = .data) :
    part? cat fmt l f c =
      .ok (((indicator? cat fmt l f c).or (subfieldIn? cat l f c f.subfieldList)).or
        ((plain? cat fmt l f c).map fun note => ⟨note, 0, l.length⟩)) := by
  rw [part?, if_pos hkind, if_pos hkind, remark?_eq_ok_plain?]
  cases (indicator? cat fmt l f c).or (subfieldIn? cat l f c f.subfieldList) <;> rfl

/-- An answer on a part of a field is about an indicator or a subfield, or it is about the whole
    line. -/
theorem part?_cases (hfound : part? cat fmt l f c = .ok (some found)) :
    f.kind = .data ∧ (indicator? cat fmt l f c = some found ∨
        subfieldIn? cat l f c f.subfieldList = some found) ∨
      ∃ note, plain? cat fmt l f c = some note ∧ found = ⟨note, 0, l.length⟩ := by
  by_cases hkind : f.kind = .data
  · rw [part?_eq hkind] at hfound
    rcases Option.or_eq_some_iff.1 (Except.ok.inj hfound) with hinside | ⟨-, hplain⟩
    · exact Or.inl ⟨hkind, (Option.or_eq_some_iff.1 hinside).imp_right And.right⟩
    · obtain ⟨note, hnote, rfl⟩ := Option.map_eq_some_iff.1 hplain
      exact Or.inr ⟨note, hnote, rfl⟩
  · rw [part?, if_neg hkind, if_neg hkind, remark?_eq_ok_plain?] at hfound
    obtain ⟨note, hnote, rfl⟩ := Option.map_eq_some_iff.1 (Except.ok.inj hfound)
    exact Or.inr ⟨note, hnote, rfl⟩

/-- What stands under a character of a line is a tag, a position or a part of the field. -/
theorem at?_cases (hfound : at? cat fmt l f c type = .ok (some found)) :
    tag? cat fmt l f c = some found ∨ position? cat fmt l f c type = .ok (some found) ∨
      part? cat fmt l f c = .ok (some found) := by
  rw [at?] at hfound
  split at hfound
  · next located htag =>
    obtain rfl := Option.some.inj (Except.ok.inj hfound)
    exact Or.inl htag
  · split at hfound
    · cases hposition : position? cat fmt l f c type with
      | error fault =>
        rw [hposition] at hfound
        cases hfound
      | ok position =>
        rw [hposition] at hfound
        cases position with
        | none => exact Or.inr (Or.inr hfound)
        | some located =>
          obtain rfl := Option.some.inj (Except.ok.inj hfound)
          exact Or.inr (Or.inl rfl)
    · exact Or.inr (Or.inr hfound)

end Locate

end MarcLens
