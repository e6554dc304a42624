import TableSchema.Text.AnyCase
import TableSchema.Text.Word
import Mathlib.Data.List.Basic
import Mathlib.Tactic.Lemma
import Mathlib.Tactic.SplitIfs

/-!
Letters in any case, blanks and word characters.

A character meets at most one small letter, the one it folds to. So a text meets a word of small
letters just if it folds to it, and no text meets two of them. What meets a letter is a word
character, and no blank is one.
-/

namespace TableSchema.Text

def IsSmallLetter (c : Char) : Prop := 'a' ≤ c ∧ c ≤ 'z'

instance (c : Char) : Decidable (IsSmallLetter c) := inferInstanceAs (Decidable (_ ∧ _))

/-- The small letter that a character meets, for those that meet one. -/
def fold (c : Char) : Char :=
  if c = '\u017F' then 's'
  else if c = '\u212A' then 'k'
  else if c = '\u0130' ∨ c = '\u0131' then 'i'
  else c.toLower

variable {l c : Char} {w cs rest : List Char}

/-! ### Letters -/

lemma isUpper_iff : c.isUpper = true ↔ 'A' ≤ c ∧ c ≤ 'Z' := decide_eq_true_iff

lemma isLower_iff : c.isLower = true ↔ IsSmallLetter c :=
  (Bool.and_eq_true_iff).trans (and_congr decide_eq_true_iff decide_eq_true_iff)

lemma isAlpha_iff : c.isAlpha = true ↔ c.isUpper = true ∨ c.isLower = true := Bool.or_eq_true_iff

lemma toLower_of_not_upper (h : ¬ c.isUpper = true) : c.toLower = c :=
  dif_neg fun hc => h (isUpper_iff.mpr hc)

lemma isLetter_iff_of_le (hl : l ≤ 'z') : isLetter l c = true ↔ fold c = l := by
  have hne : ∀ d : Char, 'z' < d → d ≠ l := by
    rintro d hd rfl
    exact Char.not_lt.mpr hl hd
  have hs : '\u017F' ≠ l := hne _ (by decide)
  have hk : '\u212A' ≠ l := hne _ (by decide)
  have hi : '\u0130' ≠ l := hne _ (by decide)
  have hj : '\u0131' ≠ l := hne _ (by decide)
  unfold isLetter fold
  split_ifs with h1 h2 h3
  · subst h1
    simpa [toLower_of_not_upper, hs] using eq_comm
  · subst h2
    simpa [toLower_of_not_upper, hk] using eq_comm
  · rcases h3 with rfl | rfl
    · simpa [toLower_of_not_upper, hi] using eq_comm
    · simpa [toLower_of_not_upper, hj] using eq_comm
  · rw [not_or] at h3
    simp [h1, h2, h3]

lemma isLetter_iff (hl : IsSmallLetter l) : isLetter l c = true ↔ fold c = l :=
  isLetter_iff_of_le hl.2

/-! ### Word characters -/

/-- What holds of the first code points holds of the characters of ASCII. -/
@[elab_as_elim]
lemma ascii_induction {P : Char → Prop} (h : ∀ n < 0x80, P (Char.ofNat n)) (c : Char)
    (hc : c.toNat < 0x80) : P c := by
  have hchar := h c.toNat hc
  rwa [Char.ofNat_toNat] at hchar

lemma isWord_ascii (hc : c.toNat < 0x80) :
    (c.isAlpha = true → isWord c = true) ∧ (isBlank c = true → isWord c = false) :=
  ascii_induction (by decide) c hc

def blankRanges : List (Nat × Nat) :=
  [(0x85, 0x85), (0xA0, 0xA0), (0x1680, 0x1680), (0x2000, 0x200A), (0x2028, 0x2029),
    (0x202F, 0x202F), (0x205F, 0x205F), (0x3000, 0x3000)]

lemma wordRanges_apart : ∀ r ∈ blankRanges, ∀ r' ∈ wordRanges, r.2 < r'.1 ∨ r'.2 < r.1 := by
  decide +kernel

lemma isWord_of_isAlpha (h : c.isAlpha = true) : isWord c = true := by
  have hc : c.toNat < 0x80 := by
    rcases isAlpha_iff.mp h with h | h
    · exact Nat.lt_of_le_of_lt (isUpper_iff.mp h).2 (by decide)
    · exact Nat.lt_of_le_of_lt (isLower_iff.mp h).2 (by decide)
  exact (isWord_ascii hc).1 h

lemma isWord_of_isLetter (hl : IsSmallLetter l) (h : isLetter l c = true) : isWord c = true := by
  have hlower : ∀ c : Char, c.toLower = l → c.isAlpha = true := by
    intro c hc
    by_cases hu : c.isUpper = true
    · exact isAlpha_iff.mpr (.inl hu)
    · rw [toLower_of_not_upper hu] at hc
      subst hc
      exact isAlpha_iff.mpr (.inr (isLower_iff.mpr hl))
  unfold isLetter at h
  simp only [Bool.or_eq_true, Bool.and_eq_true, beq_iff_eq] at h
  rcases h with ((h | ⟨-, rfl⟩) | ⟨-, rfl⟩) | ⟨-, rfl | rfl⟩
  · exact isWord_of_isAlpha (hlower c h)
  all_goals decide +kernel

lemma exists_blankRange (h : isBlank c = true) (hc : ¬ c.toNat < 0x80) :
    ∃ r ∈ blankRanges, r.1 ≤ c.toNat ∧ c.toNat ≤ r.2 := by
  simp only [isBlank, Bool.or_eq_true, beq_iff_eq, Bool.and_eq_true, decide_eq_true_eq] at h
  simp only [blankRanges, List.mem_cons, List.not_mem_nil, or_false, exists_eq_or_imp,
    exists_eq_left]
  omega

lemma isWord_of_isBlank (h : isBlank c = true) : isWord c = false := by
  by_cases hc : c.toNat < 0x80
  · exact (isWord_ascii hc).2 h
  · obtain ⟨r, hr, hfirst, hlast⟩ := exists_blankRange h hc
    unfold isWord inRanges
    rw [if_neg hc, List.any_eq_false]
    intro r' hr' hin
    rw [Bool.and_eq_true, decide_eq_true_eq, decide_eq_true_eq] at hin
    have := wordRanges_apart r hr r' hr'
    omega

lemma IsSmallLetter.fold_eq (hl : IsSmallLetter l) : fold l = l ∧ isWord l = true := by
  have hupper : ¬ l.isUpper = true := fun h =>
    absurd (Char.le_trans hl.1 (isUpper_iff.mp h).2) (by decide)
  have hself : isLetter l l = true := by simp [isLetter, toLower_of_not_upper hupper]
  exact ⟨(isLetter_iff hl).mp hself, isWord_of_isLetter hl hself⟩

/-! ### Words -/

lemma dropWord?_cons (hl : IsSmallLetter l) (w : List Char) (c : Char) (cs : List Char) :
    dropWord? (l :: w) (c :: cs) = if fold c = l then dropWord? w cs else none := by
  rw [dropWord?]
  exact if_congr (isLetter_iff hl) rfl rfl

lemma startsWord_cons (c : Char) (cs : List Char) : startsWord (c :: cs) = isWord c := rfl

/-- What is left after a word, where a run of word characters stands: nothing of the run if the run
folds to the word, and else some of it or no match. -/
lemma dropWord?_append (hw : ∀ l ∈ w, IsSmallLetter l) (hcs : ∀ c ∈ cs, isWord c = true)
    (hrest : startsWord rest = false) :
    (cs.map fold = w ∧ dropWord? w (cs ++ rest) = some rest) ∨
      (cs.map fold ≠ w ∧ ∀ rest', dropWord? w (cs ++ rest) = some rest' →
        startsWord rest' = true) := by
  induction w generalizing cs with
  | nil =>
    cases cs with
    | nil => exact .inl ⟨rfl, rfl⟩
    | cons c cs =>
      refine .inr ⟨by simp, fun rest' h => ?_⟩
      obtain rfl := Option.some.inj h
      exact hcs c List.mem_cons_self
  | cons l w ih =>
    have hl := hw l List.mem_cons_self
    have hw := fun x hx => hw x (List.mem_cons_of_mem _ hx)
    cases cs with
    | nil =>
      refine .inr ⟨by simp, fun rest' h => ?_⟩
      cases rest with
      | nil => cases h
      | cons c rest =>
        rw [List.nil_append, dropWord?] at h
        split_ifs at h with hc
        · rw [startsWord_cons, isWord_of_isLetter hl hc] at hrest
          cases hrest
    | cons c cs =>
      rw [List.cons_append, dropWord?_cons hl, List.map_cons]
      split_ifs with hc
      · rcases ih hw fun x hx => hcs x (List.mem_cons_of_mem _ hx) with ⟨he, h⟩ | ⟨he, h⟩
        · exact .inl ⟨by rw [hc, he], h⟩
        · exact .inr ⟨by simpa [hc] using he, h⟩
      · exact .inr ⟨by simp [hc], by simp⟩

end TableSchema.Text
