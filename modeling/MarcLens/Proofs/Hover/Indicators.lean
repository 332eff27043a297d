import MarcLens.Hover.Locate
import MarcLens.Proofs.DataLine
import MarcLens.Proofs.Shape

/-!
# Hovers over indicators

A hover looks for indicators in a way of its own. In line mode it looks at the columns from which
they are read. In MRK it takes the first two characters of the line that stand between a tag with
blanks and a dollar sign, while the field has its indicators wherever the blanks behind its own tag
end. The two are the same characters if a dollar sign follows the indicators of the field. Otherwise
the hover finds others, in front of these or behind them, unless it finds none at all.

## Main definitions

- `Mrk.StartsWithIndicators`: what a hover looks for in MRK
- `Locate.ShowsOwnIndicators`: hovers over a line show the indicators of its field

## Main statements

- `Format.mrkIndicatorsFrom?_eq_none_iff`: a search finds nothing where there is nothing
- `Format.firstAt_eq_indicatorsAt_iff`: where a search finds what was read
-/

namespace MarcLens

namespace Mrk

/-- A text starts with a tag and blanks, and with two characters and a dollar sign behind them. -/
def StartsWithIndicators (t : Text) : Prop :=
  ∃ (a b c : Char) (gap : Text) (i j : Char) (rest : Text),
    t = '=' :: a :: b :: c :: (gap ++ i :: j :: '$' :: rest) ∧ [a, b, c].all isDecimal ∧
      gap ≠ [] ∧ gap.isVoid ∧ i ≠ '\n' ∧ j ≠ '\n'

end Mrk

namespace Text

/-- What is a line up to its end is one from any later character on. -/
theorem isSome_upToEnd_drop {t : Text} (h : (upToEnd t).isSome) (k : Nat) :
    (upToEnd (t.drop k)).isSome := by
  obtain ⟨body, hbody⟩ := Option.isSome_iff_exists.1 h
  obtain ⟨hnewline, tail, rfl, hend⟩ := upToEnd_eq_some_iff.1 hbody
  rw [Option.isSome_iff_exists]
  refine ⟨body.drop k, upToEnd_eq_some_iff.2 ⟨fun hmem => hnewline (List.mem_of_mem_drop hmem),
    tail.drop (k - body.length), List.drop_append, ?_⟩⟩
  simp only [isLineEnd, Bool.or_eq_true, decide_eq_true_eq] at hend ⊢
  rcases hend with rfl | rfl
  · exact Or.inl List.drop_nil
  · cases k - body.length with
    | zero => exact Or.inr rfl
    | succ k => exact Or.inl List.drop_nil

end Text

/-- How far an indicator stands behind the first one. -/
def IndicatorNumber.offset : IndicatorNumber → Nat
  | first => 0
  | second => 1

namespace Format

variable {fmt : Format} {l t rest : Text} {n : Int} {f : Field} {offset : Nat} {found : Indicators}

/-! ### The search in MRK -/

theorem indicatorsBeforeDollar_eq_some_iff {i j : Char} {left : Nat} :
    indicatorsBeforeDollar t = some (i, j, left) ↔
      i ≠ '\n' ∧ j ≠ '\n' ∧ left = t.length ∧ ∃ rest, t = i :: j :: '$' :: rest := by
  constructor
  · intro h
    unfold indicatorsBeforeDollar at h
    split at h
    · next a b rest =>
      obtain ⟨hne, h⟩ := Option.ite_none_left_eq_some.1 h
      obtain ⟨rfl, rfl, rfl⟩ : a = i ∧ b = j ∧ rest.length + 3 = left := by simpa using h
      obtain ⟨ha, hb⟩ := not_or.1 hne
      exact ⟨ha, hb, rfl, rest, rfl⟩
    · cases h
  · rintro ⟨hi, hj, rfl, rest, rfl⟩
    rw [indicatorsBeforeDollar, if_neg (not_or.2 ⟨hi, hj⟩)]
    rfl

/-- The blanks behind the tag at which a search finds indicators. -/
abbrev gapBeforeDollar (rest : Text) : Nat := Text.gapTaken indicatorsBeforeDollar rest

/-- What a search finds right at the start of a text stands behind the blanks of the tag. -/
theorem mrkIndicatorsHere?_eq_some_iff :
    mrkIndicatorsHere? offset t = some found ↔
      ∃ (a b c : Char) (rest : Text) (i j : Char) (left : Nat), t = '=' :: a :: b :: c :: rest ∧
        [a, b, c].all isDecimal ∧ 0 < gapBeforeDollar rest ∧
        indicatorsBeforeDollar (rest.drop (gapBeforeDollar rest)) = some (i, j, left) ∧
        found = { tag := [a, b, c], tagAt := offset + 1, first := i
                  firstAt := offset + 4 + (rest.length - left), second := j
                  secondAt := offset + 4 + (rest.length - left) + 1
                  stop := offset + 4 + (rest.length - left) + 2 } := by
  constructor
  · intro h
    unfold mrkIndicatorsHere? at h
    split at h
    · next a b c rest =>
      obtain ⟨hdigits, h⟩ := Option.ite_none_right_eq_some.1 h
      obtain ⟨⟨i, j, left⟩, hgap, rfl⟩ := Option.map_eq_some_iff.1 h
      rw [Text.afterBlanks_eq_gapTaken] at hgap
      obtain ⟨hpos, hparts⟩ := Option.ite_none_right_eq_some.1 hgap
      exact ⟨a, b, c, rest, i, j, left, rfl, hdigits, hpos, hparts, rfl⟩
    · cases h
  · rintro ⟨a, b, c, rest, i, j, left, rfl, hdigits, hpos, hparts, rfl⟩
    rw [mrkIndicatorsHere?, if_pos hdigits, Text.afterBlanks_eq_gapTaken, if_pos hpos, hparts]
    rfl

theorem isSome_mrkIndicatorsHere?_iff :
    (mrkIndicatorsHere? offset t).isSome ↔ Mrk.StartsWithIndicators t := by
  rw [Option.isSome_iff_exists]
  constructor
  · rintro ⟨found, hfound⟩
    obtain ⟨a, b, c, rest, i, j, left, rfl, hdigits, hpos, hparts, -⟩ :=
      mrkIndicatorsHere?_eq_some_iff.1 hfound
    obtain ⟨hi, hj, -, r, hdrop⟩ := indicatorsBeforeDollar_eq_some_iff.1 hparts
    refine ⟨a, b, c, rest.take (gapBeforeDollar rest), i, j, r, ?_, hdigits, ?_,
      Text.isVoid_take_gapTaken _ rest, hi, hj⟩
    · rw [← hdrop, List.take_append_drop]
    · refine List.ne_nil_of_length_pos ?_
      rw [List.length_take, Nat.min_eq_left (Text.gapTaken_le_length _ rest)]
      exact hpos
  · rintro ⟨a, b, c, gap, i, j, r, rfl, hdigits, hne, hvoid, hi, hj⟩
    have hpos : 0 < gapBeforeDollar (gap ++ i :: j :: '$' :: r) := by
      refine Nat.findGreatest_pos.2 ⟨gap.length, List.length_pos_of_ne_nil hne,
        Text.length_le_leadingBlanks_append hvoid _, ?_⟩
      rw [List.drop_left, indicatorsBeforeDollar_eq_some_iff.2 ⟨hi, hj, rfl, r, rfl⟩]
      rfl
    obtain ⟨⟨i', j', left⟩, hparts⟩ :=
      Option.isSome_iff_exists.1 (Text.isSome_accept_gapTaken hpos)
    exact ⟨_, mrkIndicatorsHere?_eq_some_iff.2
      ⟨a, b, c, _, i', j', left, rfl, hdigits, hpos, hparts, rfl⟩⟩

/-- A search finds nothing iff no part of the text starts with what is looked for. -/
theorem mrkIndicatorsFrom?_eq_none_iff (offset : Nat) (t : Text) :
    mrkIndicatorsFrom? offset t = none ↔ ∀ s, s <:+ t → ¬Mrk.StartsWithIndicators s := by
  induction t generalizing offset with
  | nil =>
    refine iff_of_true rfl ?_
    rintro s hs ⟨a, b, c, gap, i, j, rest, rfl, -⟩
    simp at hs
  | cons c cs ih =>
    rw [mrkIndicatorsFrom?, Option.or_eq_none_iff, ih, ← Option.not_isSome_iff_eq_none,
      isSome_mrkIndicatorsHere?_iff]
    constructor
    · rintro ⟨hhere, hlater⟩ s hs
      rcases List.suffix_cons_iff.1 hs with rfl | hs
      · exact hhere
      · exact hlater s hs
    · intro h
      exact ⟨h _ List.suffix_rfl, fun s hs => h s (hs.trans (List.suffix_cons c cs))⟩

/-- Behind the indicators that a search finds stands a dollar sign. -/
theorem exists_of_mrkIndicatorsFrom? (h : mrkIndicatorsFrom? offset t = some found) :
    ∃ k, found.firstAt = offset + k ∧ found.secondAt = found.firstAt + 1 ∧
      t[k + 2]? = some '$' := by
  induction t generalizing offset with
  | nil => cases h
  | cons c cs ih =>
    rw [mrkIndicatorsFrom?] at h
    rcases Option.or_eq_some_iff.1 h with h | ⟨-, h⟩
    · obtain ⟨a, b, d, rest, i, j, left, ht, -, -, hparts, rfl⟩ :=
        mrkIndicatorsHere?_eq_some_iff.1 h
      obtain ⟨-, -, rfl, r, hdrop⟩ := indicatorsBeforeDollar_eq_some_iff.1 hparts
      have hdollar : (rest.drop (gapBeforeDollar rest))[2]? = some '$' := by rw [hdrop]; rfl
      refine ⟨gapBeforeDollar rest + 4, ?_, rfl, ?_⟩
      · have hle : gapBeforeDollar rest ≤ rest.length := Text.gapTaken_le_length _ rest
        rw [List.length_drop, Nat.sub_sub_self hle]
        dsimp only
        omega
      · rw [ht, ← hdollar, List.getElem?_drop]
        rfl
    · obtain ⟨k, hfirst, hsecond, hdollar⟩ := ih h
      exact ⟨k + 1, by omega, hsecond, hdollar⟩

/-- If a dollar sign follows the indicators of a field, the search takes the same blanks as the
    reading does. -/
theorem gapBeforeDollar_eq (hpos : 0 < Mrk.gapBehindTag rest)
    (hdollar : rest[Mrk.gapBehindTag rest + 2]? = some '$') :
    gapBeforeDollar rest = Mrk.gapBehindTag rest := by
  obtain ⟨⟨i, j, data⟩, hparts⟩ := Option.isSome_iff_exists.1 (Text.isSome_accept_gapTaken hpos)
  obtain ⟨hnewline, tail, hdrop, hend⟩ := Mrk.indicatorsAndData_eq_some_iff.1 hparts
  simp only [List.mem_cons, not_or] at hnewline
  obtain ⟨hi, hj, hdata⟩ := hnewline
  have hbehind : rest.drop (Mrk.gapBehindTag rest + 2) = data ++ tail := by
    rw [← List.drop_drop, hdrop]
    rfl
  refine Nat.findGreatest_eq_iff.2 ⟨Text.gapTaken_le_leadingBlanks _ _, fun _ => ?_, ?_⟩
  · have hhead : (data ++ tail).head? = some '$' := by
      rw [← hbehind, List.head?_drop, hdollar]
    obtain ⟨r, hr⟩ := List.head?_eq_some_iff.1 hhead
    rw [hdrop, hr, indicatorsBeforeDollar_eq_some_iff.2 ⟨Ne.symm hi, Ne.symm hj, rfl, r, rfl⟩]
    rfl
  · -- With more blanks, what the search accepts could have been read as well.
    intro m hm hmle haccept
    obtain ⟨⟨i', j', left⟩, hfound⟩ := Option.isSome_iff_exists.1 haccept
    obtain ⟨hi', hj', -, r, hr⟩ := indicatorsBeforeDollar_eq_some_iff.1 hfound
    have hlater : (data ++ tail).drop (m - Mrk.gapBehindTag rest) = '$' :: r := by
      have hplace : Mrk.gapBehindTag rest + 2 + (m - Mrk.gapBehindTag rest) = m + 2 := by omega
      rw [← hbehind, List.drop_drop, hplace, ← List.drop_drop, hr]
      rfl
    have hline : (Text.upToEnd (data ++ tail)).isSome := by
      rw [Text.upToEnd_eq_some_iff.2 ⟨hdata, tail, rfl, hend⟩]
      rfl
    obtain ⟨data', hdata'⟩ := Option.isSome_iff_exists.1
      (Text.isSome_upToEnd_drop hline (m - Mrk.gapBehindTag rest))
    have hread : (Mrk.indicatorsAndData (rest.drop m)).isSome := by
      rw [hr, Mrk.indicatorsAndData, if_neg (not_or.2 ⟨hi', hj'⟩), ← hlater, hdata']
      rfl
    exact Nat.findGreatest_is_greatest hm hmle hread

/-! ### What is found and what was read -/

theorem places_of_columnIndicators? (h : columnIndicators? l = some found) :
    found.firstAt = 4 ∧ found.secondAt = 5 ∧ l.head?.any isDecimal := by
  unfold columnIndicators? at h
  split at h
  · obtain ⟨hcolumns, h⟩ := Option.ite_none_right_eq_some.1 h
    obtain rfl := Option.some.inj h
    simp only [Bool.and_eq_true, List.all_cons] at hcolumns
    exact ⟨rfl, rfl, hcolumns.1.1.1.1.1⟩
  · cases h

/-- The second indicator is found right behind the first. -/
theorem secondAt_eq (h : fmt.indicators? l = some found) : found.secondAt = found.firstAt + 1 := by
  cases fmt with
  | mrk =>
    obtain ⟨k, -, hsecond, -⟩ := exists_of_mrkIndicatorsFrom? h
    exact hsecond
  | line =>
    obtain ⟨hfirst, hsecond, -⟩ := places_of_columnIndicators? h
    rw [hfirst, hsecond]
  | other =>
    obtain ⟨hfirst, hsecond, -⟩ := places_of_columnIndicators? h
    rw [hfirst, hsecond]

theorem mrk_firstAt_eq_indicatorsAt_iff (hread : Mrk.field? l n = some f) (hkind : f.kind = .data)
    (hfound : mrkIndicatorsFrom? 0 l = some found) :
    found.firstAt = indicatorsAt .mrk l ↔ l[dataAt .mrk l]? = some '$' := by
  constructor
  · intro hfirst
    obtain ⟨k, hk, -, hdollar⟩ := exists_of_mrkIndicatorsFrom? hfound
    rw [dataAt, ← hfirst, hk, Nat.zero_add]
    exact hdollar
  · intro hdollar
    obtain ⟨a, b, c, rest, i, j, data, rfl, hdigits, hpos, -⟩ := Mrk.exists_eq_of_data hread hkind
    have hdecimal : [a, b, c].all isDecimal := by
      rw [List.all_eq_true] at hdigits ⊢
      exact fun d hd => isDecimal_of_isDigit (hdigits d hd)
    have hplace : dataAt .mrk ('=' :: a :: b :: c :: rest) = Mrk.gapBehindTag rest + 2 + 4 := by
      change 4 + Mrk.gapBehindTag rest + 2 = _
      omega
    rw [hplace] at hdollar
    have hgap := gapBeforeDollar_eq hpos hdollar
    have hpos' : 0 < gapBeforeDollar rest := by rw [hgap]; exact hpos
    obtain ⟨⟨i', j', left⟩, hparts⟩ :=
      Option.isSome_iff_exists.1 (Text.isSome_accept_gapTaken hpos')
    have hhere : mrkIndicatorsHere? 0 ('=' :: a :: b :: c :: rest) = some _ :=
      mrkIndicatorsHere?_eq_some_iff.2
        ⟨a, b, c, rest, i', j', left, rfl, hdecimal, hpos', hparts, rfl⟩
    rw [mrkIndicatorsFrom?, hhere, Option.some_or] at hfound
    obtain rfl := Option.some.inj hfound
    obtain ⟨-, -, rfl, -⟩ := indicatorsBeforeDollar_eq_some_iff.1 hparts
    have hle : gapBeforeDollar rest ≤ rest.length := Text.gapTaken_le_length _ rest
    change 0 + 4 + (rest.length - (rest.drop (gapBeforeDollar rest)).length) =
      4 + Mrk.gapBehindTag rest
    rw [List.length_drop, Nat.sub_sub_self hle, hgap]

/-- A search finds the indicators of the field at their places iff, in MRK, a dollar sign follows
    them. -/
theorem firstAt_eq_indicatorsAt_iff (hread : fmt.field? l n = some f) (hkind : f.kind = .data)
    (hfound : fmt.indicators? l = some found) :
    found.firstAt = fmt.indicatorsAt l ↔ (fmt = .mrk → l[fmt.dataAt l]? = some '$') := by
  cases fmt with
  | mrk =>
    rw [mrk_firstAt_eq_indicatorsAt_iff hread hkind hfound]
    exact ⟨fun h _ => h, fun h => h rfl⟩
  | line => exact iff_of_true (places_of_columnIndicators? hfound).1 nofun
  | other =>
    -- The line starts with an equals sign, so its first column is no digit.
    obtain ⟨a, b, c, rest, i, j, data, rfl, -⟩ := Mrk.exists_eq_of_data hread hkind
    have hdigit : isDecimal '=' := (places_of_columnIndicators? hfound).2.2
    exact absurd hdigit (by decide)

/-- The place in a line from which an indicator of a data field is read. -/
def indicatorAt (fmt : Format) (l : Text) (number : IndicatorNumber) : Nat :=
  fmt.indicatorsAt l + number.offset

end Format

namespace Note

/-- A note on an indicator is worded with its number and its value in front. -/
theorem exists_eq_of_markdown_indicator {number : IndicatorNumber} {value : Text}
    {documented : Json} {text : String}
    (h : (Note.indicator number value documented).markdown = .ok text) :
    ∃ meaning, text =
      "**Indicator " ++ number.key ++ ":** `" ++ String.ofList value ++ "`" ++ meaning := by
  rw [markdown] at h
  cases hmeaning : indicatorMeaning number (String.ofList value) documented with
  | error fault =>
    rw [hmeaning] at h
    cases h
  | ok meaning =>
    rw [hmeaning] at h
    exact ⟨meaning, (Except.ok.inj h).symm⟩

end Note

namespace Locate

variable {cat : Catalogue} {fmt : Format} {l : Text} {n c : Int} {f : Field} {found : Located}

/-- What a hover finds is about the indicator with a number that was read from under the cursor, and
    its text shows the character that stands there. -/
structure IsOwnIndicator (fmt : Format) (l : Text) (c : Int) (number : IndicatorNumber)
    (found : Located) : Prop where
  place : c = fmt.indicatorAt l number
  range : found.start = c ∧ found.stop = c + 1
  shown : ∃ value documented, l[fmt.indicatorAt l number]? = some value ∧
    found.note = .indicator number (fmt.indicator value) documented ∧
    ∀ text, found.note.markdown = .ok text → ∃ meaning,
      text = "**Indicator " ++ number.key ++ ":** `" ++ String.ofList (fmt.indicator value) ++ "`" ++
        meaning

/-- Every answer on an indicator of a line, whatever is documented, is about an indicator that was
    read from under the cursor. -/
def ShowsOwnIndicators (fmt : Format) (l : Text) (f : Field) : Prop :=
  ∀ cat c found, indicator? cat fmt l f c = some found →
    ∃ number, IsOwnIndicator fmt l c number found

theorem indicator?_eq_some_iff :
    indicator? cat fmt l f c = some found ↔
      ∃ places number, fmt.indicators? l = some places ∧
        c = (places.firstAt + number.offset : Nat) ∧
        found = ⟨indicatorNote cat f number, c, c + 1⟩ := by
  rw [indicator?]
  cases hplaces : fmt.indicators? l with
  | none => simp
  | some places =>
    have hsecond := Format.secondAt_eq hplaces
    dsimp only
    rw [hsecond]
    constructor
    · intro h
      split at h
      · next hc =>
        exact ⟨places, .first, rfl, hc, by rw [← Option.some.inj h, hc]⟩
      · obtain ⟨hc, h⟩ := Option.ite_none_right_eq_some.1 h
        exact ⟨places, .second, rfl, hc, by rw [← Option.some.inj h, hc]⟩
    · rintro ⟨_, number, ⟨⟩, rfl, rfl⟩
      cases number with
      | first => exact if_pos rfl
      | second =>
        have hne : ((places.firstAt + 1 : Nat) : Int) ≠ (places.firstAt : Int) := by omega
        exact (if_neg hne).trans (if_pos rfl)

/-- The value that a hover shows for an indicator is the character from which it was read. -/
theorem exists_indicatorValue_eq (hread : fmt.field? l n = some f) (hkind : f.kind = .data)
    (number : IndicatorNumber) :
    ∃ value, l[fmt.indicatorAt l number]? = some value ∧
      indicatorValue f number = fmt.indicator value := by
  obtain ⟨i, j, data, tail, hdata⟩ := Format.exists_readsData hread hkind
  have hget : ∀ k, l[fmt.indicatorsAt l + k]? = (i :: j :: (data ++ tail))[k]? := by
    intro k
    rw [← hdata.parts, List.getElem?_drop]
  cases number with
  | first =>
    obtain ⟨d, hd⟩ := (Format.isRead_of_field? hread).indicator1 hkind
    have hi : fmt.indicator i = [d] := Option.some.inj (hdata.indicator1.symm.trans hd)
    exact ⟨i, hget 0, by rw [indicatorValue, hd, hi]⟩
  | second =>
    obtain ⟨d, hd⟩ := (Format.isRead_of_field? hread).indicator2 hkind
    have hj : fmt.indicator j = [d] := Option.some.inj (hdata.indicator2.symm.trans hd)
    exact ⟨j, hget 1, by rw [indicatorValue, hd, hj]⟩

/-- A hover at the place of an indicator is about that indicator. -/
theorem isOwnIndicator_of_place (hread : fmt.field? l n = some f) (hkind : f.kind = .data)
    {number : IndicatorNumber} (hc : c = fmt.indicatorAt l number) :
    IsOwnIndicator fmt l c number ⟨indicatorNote cat f number, c, c + 1⟩ := by
  obtain ⟨value, hvalue, hshown⟩ := exists_indicatorValue_eq hread hkind number
  refine ⟨hc, ⟨rfl, rfl⟩, value, _, hvalue, by rw [indicatorNote, hshown], ?_⟩
  intro text htext
  rw [← hshown]
  exact Note.exists_eq_of_markdown_indicator htext

/-- Hovers over a data field show its own indicators in line mode. In MRK they do so iff a dollar
    sign stands right behind the two characters that were read as indicators, or nothing in the line
    looks to a hover like a tag with indicators. -/
theorem showsOwnIndicators_iff (hread : fmt.field? l n = some f) (hkind : f.kind = .data) :
    ShowsOwnIndicators fmt l f ↔
      (fmt = .mrk → l[fmt.dataAt l]? = some '$' ∨
        ∀ s, s <:+ l → ¬Mrk.StartsWithIndicators s) := by
  constructor
  · rintro hown rfl
    rw [← Format.mrkIndicatorsFrom?_eq_none_iff 0]
    cases hplaces : Format.mrkIndicatorsFrom? 0 l with
    | none => exact Or.inr rfl
    | some places =>
      -- The first of the indicators that are found has to be the first one of the field.
      left
      have hfound : indicator? {} .mrk l f (places.firstAt + 0 : Nat) = some _ :=
        indicator?_eq_some_iff.2 ⟨places, .first, hplaces, rfl, rfl⟩
      obtain ⟨number, hplace, -, value, documented, -, hnote, -⟩ := hown {} _ _ hfound
      have hnumber : IndicatorNumber.first = number := (Note.indicator.inj hnote).1
      subst hnumber
      have hfirst : places.firstAt = Format.indicatorsAt .mrk l := by
        have hplace : ((places.firstAt + 0 : Nat) : Int) = (Format.indicatorsAt .mrk l + 0 : Nat) :=
          hplace
        omega
      exact (Format.mrk_firstAt_eq_indicatorsAt_iff hread hkind hplaces).1 hfirst
  · intro hline cat c found hfound
    obtain ⟨places, number, hplaces, hc, rfl⟩ := indicator?_eq_some_iff.1 hfound
    have hfirst : places.firstAt = fmt.indicatorsAt l := by
      rw [Format.firstAt_eq_indicatorsAt_iff hread hkind hplaces]
      intro hfmt
      refine (hline hfmt).resolve_right ?_
      rw [← Format.mrkIndicatorsFrom?_eq_none_iff 0]
      subst hfmt
      intro hnone
      cases hnone.symm.trans hplaces
    exact ⟨number, isOwnIndicator_of_place hread hkind (by rw [hc, hfirst]; rfl)⟩

/-- A dollar sign follows the indicators, although blanks are among them, and a tag with other
    indicators stands later in the line. -/
theorem showsOwnIndicators_iff_before_dollar :
    let l := "=245  1 $aSee =100  20$b".toList
    let f : Field :=
      { tag := ['2', '4', '5'], indicator1 := some ['1'], indicator2 := some [' ']
        subfields := some [
          { code := ['a'], content := "See =100  20".toList, start := 0, stop := 14 },
          { code := ['b'], content := [], start := 14, stop := 16 }]
        line := 1, stop := 24 }
    Format.field? .mrk l 1 = some f ∧ f.kind = .data ∧ ShowsOwnIndicators .mrk l f := by
  intro l f
  have hread : Format.field? .mrk l 1 = some f := by decide
  exact ⟨hread, rfl, (showsOwnIndicators_iff hread rfl).2 fun _ => Or.inl (by decide)⟩

/-- Where both indicators are given as spaces, the dollar sign and the code behind them are read as
    indicators, while a hover over the first space shows the dollar sign as the first indicator. -/
theorem not_showsOwnIndicators_of_spaces :
    let l := "=245    $aTitle".toList
    let f : Field :=
      { tag := ['2', '4', '5'], indicator1 := some ['$'], indicator2 := some ['a']
        subfields := some [], line := 1, stop := 15 }
    Format.field? .mrk l 1 = some f ∧ f.kind = .data ∧
      indicator? {} .mrk l f 6 = some ⟨.indicator .first ['$'] (.obj []), 6, 7⟩ ∧
      l[6]? = some ' ' ∧ ¬ShowsOwnIndicators .mrk l f := by
  intro l f
  have hread : Format.field? .mrk l 1 = some f := by decide
  have hfound : indicator? {} .mrk l f 6 = some ⟨.indicator .first ['$'] (.obj []), 6, 7⟩ := rfl
  refine ⟨hread, rfl, hfound, rfl, ?_⟩
  intro hown
  obtain ⟨number, hplace, -⟩ := hown _ _ _ hfound
  revert hplace
  cases number <;> decide

end Locate

end MarcLens
