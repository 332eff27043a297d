import MarcLens.Text.Digit
import MarcLens.Text.LineEnd
import Mathlib.Data.List.DropRight

/-!
# Lines, blanks and line ends

How the operations on text act on texts of a known shape: `Text.lines` takes joined lines apart
again, a search finds the first place of a part, trimming stops at the first character that is no
blank, and `Text.afterBlanks` takes as many blanks as leave enough characters behind them.
-/

namespace MarcLens

theorem isBlank_iff {c : Char} :
    isBlank c ↔ ∃ r ∈ blankRanges, r.1 ≤ c.toNat ∧ c.toNat ≤ r.2 := by
  simp [isBlank]

/-- No decimal digit, of whatever script, is a blank. -/
theorem not_isBlank_of_isDecimal {c : Char} (h : isDecimal c) : ¬isBlank c := by
  have hapart : ∀ z ∈ decimalZeros, ∀ r ∈ blankRanges, r.2 < z ∨ z + 10 ≤ r.1 := by decide
  obtain ⟨z, hz, hc⟩ : ∃ z ∈ decimalZeros, z ≤ c.toNat ∧ c.toNat < z + 10 := by
    simpa [isDecimal, decimalValue?] using h
  rw [isBlank_iff]
  rintro ⟨r, hr, hle⟩
  have := hapart z hz r hr
  omega

theorem isDecimal_of_isDigit {c : Char} (h : c.isDigit) : isDecimal c := by
  rw [isDecimal, decimalValue?_of_isDigit h]
  rfl

namespace Text

/-- The lines of a document are what lies between its line feeds. -/
theorem lines_eq_splitOn (t : Text) : lines t = t.splitOn '\n' := by
  have hsplit : (['\n'].intercalate (lines t)).splitOn '\n' = lines t :=
    List.splitOn_intercalate '\n' (fun l hl => newline_notMem_of_mem_lines hl) (lines_ne_nil t)
  rw [intercalate_lines] at hsplit
  exact hsplit.symm

/-- Joined lines are taken apart again. -/
theorem lines_intercalate {ls : List Text} (hne : ls ≠ []) (h : ∀ l ∈ ls, '\n' ∉ l) :
    lines (['\n'].intercalate ls) = ls := by
  rw [lines_eq_splitOn]
  exact List.splitOn_intercalate '\n' h hne

theorem newline_notMem_of_all {p : Char → Bool} {t : Text} (hp : ¬p '\n') (h : t.all p) :
    '\n' ∉ t := by
  intro hmem
  exact hp (List.all_eq_true.1 h _ hmem)

/-- The first character is a blank. -/
def startsBlank (t : Text) : Bool := t.head?.any isBlank

/-- The last character is a blank. -/
def endsBlank (t : Text) : Bool := t.getLast?.any isBlank

section Searching

variable {part t : Text} {i k : Nat}

/-- The first place of a text at which a part stands. -/
theorem find?_eq_some_iff :
    find? part t = some i ↔ part <+: t.drop i ∧ ∀ j < i, ¬part <+: t.drop j := by
  induction t generalizing i with
  | nil =>
    simp only [find?, Option.ite_none_right_eq_some, List.drop_nil, List.prefix_nil,
      Option.some.injEq]
    refine and_congr_right fun hpart => ?_
    constructor
    · rintro rfl
      exact fun j hj => absurd hj (Nat.not_lt_zero j)
    · intro h
      by_contra hne
      exact h 0 (Nat.pos_of_ne_zero (Ne.symm hne)) hpart
  | cons c cs ih =>
    rw [find?]
    by_cases hhead : part <+: c :: cs
    · rw [if_pos (List.isPrefixOf_iff_prefix.2 hhead), Option.some.injEq]
      constructor
      · rintro rfl
        exact ⟨hhead, fun j hj => absurd hj (Nat.not_lt_zero j)⟩
      · rintro ⟨-, h⟩
        by_contra hne
        exact h 0 (Nat.pos_of_ne_zero (Ne.symm hne)) hhead
    · rw [if_neg (fun h => hhead (List.isPrefixOf_iff_prefix.1 h)), Option.map_eq_some_iff]
      constructor
      · rintro ⟨k, hk, rfl⟩
        obtain ⟨hstarts, hfirst⟩ := ih.1 hk
        refine ⟨hstarts, fun j hj => ?_⟩
        cases j with
        | zero => exact hhead
        | succ j => exact hfirst j (by omega)
      · rintro ⟨hstarts, hfirst⟩
        cases i with
        | zero => exact absurd hstarts hhead
        | succ i => exact ⟨i, ih.2 ⟨hstarts, fun j hj => hfirst (j + 1) (by omega)⟩, rfl⟩

theorem find?_le (hfound : find? part t = some i) (h : part <+: t.drop k) : i ≤ k := by
  by_contra hlt
  exact (find?_eq_some_iff.1 hfound).2 k (by omega) h

theorem find?_of_isPrefix (h : part <+: t) : find? part t = some 0 :=
  find?_eq_some_iff.2 ⟨h, fun j hj => absurd hj (Nat.not_lt_zero j)⟩

end Searching

section Trimming

variable {c : Char} {t pad : Text}

theorem isVoid_iff : isVoid t ↔ ∀ c ∈ t, isBlank c := List.all_eq_true

theorem trimRight_eq_rdropWhile (t : Text) : trimRight t = t.rdropWhile isBlank := rfl

theorem trimRight_isPrefix (t : Text) : trimRight t <+: t := List.rdropWhile_prefix isBlank t

/-- Blanks at the end of a text do not survive. -/
theorem trimRight_append_of_isVoid (t : Text) (h : isVoid pad) :
    trimRight (t ++ pad) = trimRight t := by
  rw [isVoid_iff] at h
  induction pad using List.reverseRecOn with
  | nil => rw [List.append_nil]
  | append_singleton pad c ih =>
    have hc : isBlank c := h c (by simp)
    rw [trimRight_eq_rdropWhile, ← List.append_assoc, List.rdropWhile_concat_pos _ _ _ hc]
    exact ih fun c hc => h c (by simp [hc])

/-- A text whose last character is no blank is left as it is. -/
theorem trimRight_eq_self (h : ¬endsBlank t) : trimRight t = t := by
  rw [trimRight_eq_rdropWhile, List.rdropWhile_eq_self_iff]
  intro hne
  simpa [endsBlank, List.getLast?_eq_some_getLast hne] using h

/-- Trimming the end does not reach in front of a character that is no blank. -/
theorem trimRight_append {s t : Text} (h : trimRight s = s ∨ ¬isVoid t) :
    trimRight (s ++ t) = s ++ trimRight t := by
  induction t using List.reverseRecOn with
  | nil =>
    rcases h with h | h
    · rw [List.append_nil, h]
      simp [trimRight]
    · exact absurd rfl h
  | append_singleton t c ih =>
    rw [trimRight_eq_rdropWhile, trimRight_eq_rdropWhile, ← List.append_assoc,
      List.rdropWhile_concat, List.rdropWhile_concat]
    split
    · next hc =>
      refine ih (h.imp_right fun hvoid ht => hvoid ?_)
      rw [isVoid_iff] at ht ⊢
      intro d hd
      rcases List.mem_append.1 hd with hd | hd
      · exact ht d hd
      · rw [List.mem_singleton.1 hd]
        exact hc
    · rw [List.append_assoc]

theorem trimRight_cons_of_not_isBlank (h : ¬isBlank c) (t : Text) :
    trimRight (c :: t) = c :: trimRight t := by
  have hc : trimRight [c] = [c] := trimRight_eq_self (by simpa [endsBlank] using h)
  rw [← List.singleton_append, trimRight_append (Or.inl hc)]
  rfl

/-- A text that starts with no blank loses blanks at its end only. -/
theorem trim_cons_of_not_isBlank (h : ¬isBlank c) (t : Text) :
    trim (c :: t) = c :: trimRight t := by
  rw [trim, trimLeft, List.dropWhile_cons_of_neg h, trimRight_cons_of_not_isBlank h]

/-- Between two characters that are no blanks, nothing is trimmed. -/
theorem trim_cons_append (h : ¬isBlank c) (s : Text) (ht : ¬isVoid t) :
    trim (c :: s ++ t) = c :: s ++ trimRight t := by
  rw [List.cons_append, trim_cons_of_not_isBlank h, trimRight_append (Or.inr ht)]
  rfl

theorem not_isVoid_of_not_startsBlank (hne : t ≠ []) (h : ¬startsBlank t) : ¬isVoid t := by
  obtain ⟨c, cs, rfl⟩ := List.exists_cons_of_ne_nil hne
  intro hvoid
  exact h (isVoid_iff.1 hvoid c List.mem_cons_self)

theorem mem_of_mem_trim (h : c ∈ trim t) : c ∈ t :=
  List.dropWhile_subset isBlank ((trimRight_isPrefix (trimLeft t)).subset h)

/-- Nothing is left of a text of blanks. -/
theorem trim_eq_nil_iff : trim t = [] ↔ isVoid t := by
  rw [isVoid_iff, trim, trimRight_eq_rdropWhile, List.rdropWhile_eq_nil_iff, trimLeft]
  constructor
  · intro h
    rw [← List.takeWhile_append_dropWhile (p := isBlank) (l := t)]
    intro c hc
    rcases List.mem_append.1 hc with hc | hc
    · exact List.mem_takeWhile_imp hc
    · exact h c hc
  · intro h c hc
    exact h c (List.dropWhile_subset isBlank hc)

theorem trim_isPrefix (h : ¬startsBlank t) : trim t <+: t := by
  cases t with
  | nil => exact List.nil_prefix
  | cons c t =>
    rw [trim_cons_of_not_isBlank (by simpa [startsBlank] using h)]
    exact List.cons_prefix_cons.2 ⟨rfl, trimRight_isPrefix t⟩

theorem trim_append_of_isVoid (h : isVoid pad) (t : Text) : trim (pad ++ t) = trim t := by
  rw [trim, trim, trimLeft, trimLeft, List.dropWhile_append_of_pos (isVoid_iff.1 h)]

/-- Blanks at both ends can be removed in either order. -/
theorem trimLeft_trimRight (t : Text) : trimLeft (trimRight t) = trim t := by
  have hblank : isVoid (t.takeWhile isBlank) := isVoid_iff.2 fun c hc => List.mem_takeWhile_imp hc
  have hsplit : t.takeWhile isBlank ++ trimLeft t = t := List.takeWhile_append_dropWhile
  cases hrest : trimLeft t with
  | nil =>
    rw [hrest, List.append_nil] at hsplit
    rw [trim, hrest, ← hsplit, ← List.nil_append (t.takeWhile isBlank),
      trimRight_append_of_isVoid [] hblank]
    rfl
  | cons c s =>
    have hc : ¬isBlank c := by
      intro hc
      have := List.head?_dropWhile_not isBlank t
      rw [← trimLeft, hrest] at this
      simp [hc] at this
    have hnot : ¬isVoid (c :: s) := fun h => hc (isVoid_iff.1 h c (by simp))
    rw [trim, hrest]
    nth_rewrite 1 [← hsplit]
    rw [hrest, trimRight_append (Or.inr hnot), trimLeft,
      List.dropWhile_append_of_pos (isVoid_iff.1 hblank), trimRight_cons_of_not_isBlank hc,
      List.dropWhile_cons_of_neg hc]

theorem not_endsBlank_trimRight (t : Text) : ¬endsBlank (trimRight t) := by
  rw [trimRight_eq_rdropWhile, endsBlank]
  cases hlast : (t.rdropWhile isBlank).getLast? with
  | none => simp
  | some c =>
    have hne : t.rdropWhile isBlank ≠ [] := by
      rintro h
      simp [h] at hlast
    have := List.rdropWhile_last_not isBlank t hne
    rw [List.getLast?_eq_some_getLast hne] at hlast
    obtain rfl := Option.some.inj hlast
    simpa using this

end Trimming

section Gap

variable {t : Text} {m : Nat}

/-- The number of blanks at the start of a text. -/
def leadingBlanks (t : Text) : Nat := (t.takeWhile isBlank).length

/-- What a run of blanks leaves that is as long as it can be, if `m` characters have to follow. -/
def afterGap (m : Nat) (t : Text) : Text := t.drop (min t.leadingBlanks (t.length - m))

theorem leadingBlanks_cons_of_isBlank {c : Char} (h : isBlank c) (t : Text) :
    leadingBlanks (c :: t) = leadingBlanks t + 1 := by
  simp [leadingBlanks, List.takeWhile_cons_of_pos h]

theorem leadingBlanks_eq_zero (h : ¬startsBlank t) : t.leadingBlanks = 0 := by
  cases t with
  | nil => rfl
  | cons c t =>
    have hc : ¬isBlank c := h
    simp [leadingBlanks, List.takeWhile_cons_of_neg hc]

theorem leadingBlanks_le_length (t : Text) : t.leadingBlanks ≤ t.length :=
  (List.takeWhile_prefix isBlank).length_le

theorem length_le_leadingBlanks_append {gap : Text} (h : gap.isVoid) (t : Text) :
    gap.length ≤ leadingBlanks (gap ++ t) := by
  rw [leadingBlanks, List.takeWhile_append_of_pos (isVoid_iff.1 h), List.length_append]
  omega

theorem drop_length_takeWhile (p : Char → Bool) (t : Text) :
    t.drop (t.takeWhile p).length = t.dropWhile p := by
  have hsplit : t.takeWhile p ++ t.dropWhile p = t := List.takeWhile_append_dropWhile
  calc
    t.drop (t.takeWhile p).length =
        (t.takeWhile p ++ t.dropWhile p).drop (t.takeWhile p).length := by
      rw [hsplit]
    _ = t.dropWhile p := List.drop_left

theorem drop_leadingBlanks (t : Text) : t.drop t.leadingBlanks = trimLeft t :=
  drop_length_takeWhile isBlank t

theorem not_startsBlank_trimLeft (t : Text) : ¬startsBlank (trimLeft t) := by
  have hhead := List.head?_dropWhile_not isBlank t
  rw [startsBlank, trimLeft]
  cases h : (t.dropWhile isBlank).head? with
  | none => simp
  | some c => simpa [h] using hhead

theorem afterGap_isSuffix (m : Nat) (t : Text) : afterGap m t <:+ t := List.drop_suffix _ _

theorem le_length_afterGap (h : m ≤ t.length) : m ≤ (afterGap m t).length := by
  rw [afterGap, List.length_drop]
  omega

/-- A blank in front is taken if enough follows it. -/
theorem afterGap_cons_of_isBlank {c : Char} (hc : isBlank c) (h : m ≤ t.length) :
    afterGap m (c :: t) = afterGap m t := by
  have htaken : min (leadingBlanks (c :: t)) ((c :: t).length - m) =
      min t.leadingBlanks (t.length - m) + 1 := by
    rw [leadingBlanks_cons_of_isBlank hc, List.length_cons]
    omega
  rw [afterGap, htaken, List.drop_succ_cons, afterGap]

/-- Nothing is taken where there is no blank, or where all is needed. -/
theorem afterGap_eq_self (h : ¬(1 ≤ t.leadingBlanks ∧ m < t.length)) : afterGap m t = t := by
  have htaken : min t.leadingBlanks (t.length - m) = 0 := by omega
  rw [afterGap, htaken, List.drop_zero]

/-- A blank is left at the start only if all the rest is needed. -/
theorem not_startsBlank_afterGap_or (h : m ≤ t.length) :
    ¬startsBlank (afterGap m t) ∨ (afterGap m t).length = m := by
  by_cases hk : t.leadingBlanks ≤ t.length - m
  · left
    rw [afterGap, Nat.min_eq_left hk, drop_leadingBlanks]
    exact not_startsBlank_trimLeft t
  · right
    rw [afterGap, List.length_drop]
    omega

end Gap

section LineEnd

variable {α : Type} {t : Text}

theorem upToEnd_of_newline_notMem (h : '\n' ∉ t) : upToEnd t = some t := by
  have htake : t.takeWhile (· ≠ '\n') = t := by
    rw [List.takeWhile_eq_self_iff]
    intro c hc
    simpa using ne_of_mem_of_not_mem hc h
  rw [upToEnd, htake, List.drop_length]
  exact if_pos (Or.inl rfl)

theorem contentUpToEnd_of_newline_notMem (h : '\n' ∉ t) (hne : t ≠ []) :
    contentUpToEnd t = some t := by
  simp [contentUpToEnd, upToEnd_of_newline_notMem h, hne]

theorem upToEnd_cons {c : Char} (hc : c ≠ '\n') (t : Text) :
    upToEnd (c :: t) = (upToEnd t).map (c :: ·) := by
  have htake : (c :: t).takeWhile (· ≠ '\n') = c :: t.takeWhile (· ≠ '\n') :=
    List.takeWhile_cons_of_pos (by simpa using hc)
  simp only [upToEnd, htake, List.length_cons, List.drop_succ_cons]
  split <;> rfl

/-- Content up to the end of a line needs one character. -/
theorem isSome_contentUpToEnd_iff (h : '\n' ∉ t) : (contentUpToEnd t).isSome ↔ 1 ≤ t.length := by
  rw [contentUpToEnd, upToEnd_of_newline_notMem h]
  cases t <;> simp

/-- The run of blanks is as long as it can be, but leaves the `m` characters that `accept` needs. -/
theorem afterBlanks_eq {accept : Text → Option α} {m : Nat}
    (haccept : ∀ s, s <:+ t → ((accept s).isSome ↔ m ≤ s.length)) :
    afterBlanks accept t =
      if 1 ≤ t.leadingBlanks ∧ m < t.length then accept (afterGap m t) else none := by
  induction t with
  | nil => rfl
  | cons c cs ih =>
    have hcs := haccept cs (List.suffix_cons c cs)
    have ih := ih fun s hs => haccept s (hs.trans (List.suffix_cons c cs))
    by_cases hc : isBlank c
    · rw [afterBlanks, if_pos hc, ih, leadingBlanks_cons_of_isBlank hc, List.length_cons]
      by_cases hmore : 1 ≤ leadingBlanks cs ∧ m < cs.length
      · -- The shorter text has a longest run of its own, which `c` extends by one.
        have hsuffix := (afterGap_isSuffix m cs).trans (List.suffix_cons c cs)
        obtain ⟨a, ha⟩ := Option.isSome_iff_exists.1
          ((haccept _ hsuffix).2 (le_length_afterGap (by omega)))
        rw [if_pos hmore, if_pos (by omega), afterGap_cons_of_isBlank hc (by omega), ha]
      · -- The run ends with `c`, since nothing follows it or since all the rest is needed.
        rw [if_neg hmore]
        by_cases hlen : m ≤ cs.length
        · rw [if_pos (by omega), afterGap_cons_of_isBlank hc hlen, afterGap_eq_self hmore]
        · rw [if_neg (by omega)]
          simpa [hlen] using hcs
    · rw [afterBlanks, if_neg hc, leadingBlanks_eq_zero (t := c :: cs) hc]
      rfl

/-- Where less is asked for behind the blanks, more texts are taken. -/
theorem isSome_afterBlanks_of_imp {β : Type} {accept : Text → Option α} {accept' : Text → Option β}
    (himp : ∀ s, (accept s).isSome → (accept' s).isSome) (h : (afterBlanks accept t).isSome) :
    (afterBlanks accept' t).isSome := by
  induction t with
  | nil => exact absurd h (by simp [afterBlanks])
  | cons c cs ih =>
    unfold afterBlanks at h ⊢
    split at h
    · next hc =>
      rw [if_pos hc]
      cases hmore : afterBlanks accept' cs with
      | some b => rfl
      | none =>
        cases hfirst : afterBlanks accept cs with
        | some a =>
          have hsome := ih (by rw [hfirst]; rfl)
          simp [hmore] at hsome
        | none =>
          rw [hfirst] at h
          exact himp cs h
    · simp at h

/-- A run of blanks is followed by something that is accepted iff there is a blank and enough
    behind it. -/
theorem isSome_afterBlanks_iff {accept : Text → Option α} {m : Nat}
    (haccept : ∀ s, s <:+ t → ((accept s).isSome ↔ m ≤ s.length)) :
    (afterBlanks accept t).isSome ↔
      ∃ gap rest, t = gap :: rest ∧ isBlank gap ∧ m ≤ rest.length := by
  rw [afterBlanks_eq haccept]
  cases t with
  | nil => simp
  | cons c cs =>
    by_cases hc : isBlank c
    · rw [leadingBlanks_cons_of_isBlank hc, List.length_cons]
      split
      · rw [haccept _ (afterGap_isSuffix m _)]
        refine iff_of_true (le_length_afterGap ?_) ⟨c, cs, rfl, hc, ?_⟩
        · rw [List.length_cons]
          omega
        · omega
      · have hlen : ¬m ≤ cs.length := by omega
        simp [hlen]
    · simp [leadingBlanks_eq_zero (t := c :: cs) hc, hc]

/-- A run of blanks is taken as a whole if it is followed by content that does not end in blanks. -/
theorem afterBlanks_contentUpToEnd (hnewline : '\n' ∉ t) (hstart : startsBlank t)
    (hend : ¬endsBlank t) : afterBlanks contentUpToEnd t = some (trimLeft t) := by
  have haccept : ∀ s, s <:+ t → ((contentUpToEnd s).isSome ↔ 1 ≤ s.length) := fun s hs =>
    isSome_contentUpToEnd_iff fun hmem => hnewline (hs.subset hmem)
  have hsplit : t.takeWhile isBlank ++ trimLeft t = t := List.takeWhile_append_dropWhile
  -- The last character is no blank, so the run of blanks does not reach it.
  have hne : trimLeft t ≠ [] := by
    intro hnil
    rw [hnil, List.append_nil] at hsplit
    apply hend
    cases hlast : t.getLast? with
    | none => simp [List.getLast?_eq_none_iff.1 hlast, startsBlank] at hstart
    | some c =>
      rw [endsBlank, hlast]
      rw [← hsplit] at hlast
      have hblank : isBlank c := List.mem_takeWhile_imp (List.mem_of_getLast? hlast)
      exact hblank
  have hlen : t.leadingBlanks + (trimLeft t).length = t.length := by
    rw [leadingBlanks, ← List.length_append, hsplit]
  have hpos : 1 ≤ t.leadingBlanks := by
    cases t with
    | nil => simp [startsBlank] at hstart
    | cons c t =>
      have hc : isBlank c := hstart
      rw [leadingBlanks_cons_of_isBlank hc]
      omega
  have hrest := List.length_pos_of_ne_nil hne
  have hgap : afterGap 1 t = trimLeft t := by
    rw [afterGap, Nat.min_eq_left (by omega), drop_leadingBlanks]
  rw [afterBlanks_eq haccept, if_pos ⟨hpos, by omega⟩, hgap]
  exact contentUpToEnd_of_newline_notMem
    (fun hmem => hnewline (List.dropWhile_subset isBlank hmem)) hne

end LineEnd

end Text

end MarcLens
