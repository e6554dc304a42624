import TableSchema.Proofs.Text.Letters
import TableSchema.Text.Blank
import TableSchema.Text.Casing
import Mathlib.Data.List.Basic
import Mathlib.Tactic.Lemma
import Mathlib.Tactic.SplitIfs

/-!
Upper case and the words of ASCII.

Some letters beyond the capitals have an upper case in ASCII: the small letters, and a few like the
long s. None of them is itself an upper case. Main statement: an upper case that a second
upper-casing takes to a text of ASCII is that text already.
-/

namespace TableSchema.Text

/-- The letters that upper case takes into ASCII, the capitals apart. -/
def smallRanges : List (Nat × Nat) :=
  [(0x61, 0x7A), (0xDF, 0xDF), (0x131, 0x131), (0x17F, 0x17F), (0xFB00, 0xFB06)]

def IsSmall (n : Nat) : Prop := ∃ r ∈ smallRanges, r.1 ≤ n ∧ n ≤ r.2

instance (n : Nat) : Decidable (IsSmall n) := inferInstanceAs (Decidable (∃ r ∈ smallRanges, _))

def smallBeyond : List Nat :=
  [0xDF, 0x131, 0x17F, 0xFB00, 0xFB01, 0xFB02, 0xFB03, 0xFB04, 0xFB05, 0xFB06]

lemma IsSmall.mem_smallBeyond {n : Nat} (h : IsSmall n) (hn : ¬ n < 0x80) : n ∈ smallBeyond := by
  simp only [IsSmall, smallRanges, smallBeyond, List.mem_cons, List.not_mem_nil, or_false,
    exists_eq_or_imp, exists_eq_left] at h ⊢
  omega

/-! ### The tables -/

lemma toUpper_ascii {c : Char} (hc : c.toNat < 0x80) :
    ¬ IsSmall c.toUpper.toNat ∧ (¬ IsSmall c.toNat → c.toUpper = c) :=
  ascii_induction (by decide) c hc

lemma toLower_toUpper_ascii {c : Char} (hc : c.toNat < 0x80) :
    c.toUpper.toLower = c.toLower ∧ c.toLower.toUpper = c.toUpper :=
  ascii_induction (by decide) c hc

lemma upperExpansions_apart : ∀ p ∈ upperExpansions,
    (∀ n ∈ p.2, n.isValidChar ∧ ¬ IsSmall n) ∧ ((∀ n ∈ p.2, n < 0x80) → IsSmall p.1) := by
  decide +kernel

lemma upperRuns_apart : ∀ run ∈ upperRuns,
    (∀ r ∈ smallRanges, run.last + run.shift < r.1 ∨ r.2 < run.first + run.shift) ∧
      (run.last + run.shift < 0xD800 ∨
        0xDFFF < run.first + run.shift ∧ run.last + run.shift < 0x110000) ∧
      0 ≤ run.first + run.shift ∧
      (0x80 ≤ run.first + run.shift ∨ run.first = run.last ∧ IsSmall run.first) := by
  decide +kernel

lemma lookup_small : ∀ n ∈ smallBeyond,
    upperExpansions.lookup n = none → upperRuns.findSome? (·.image? n) ≠ none := by
  decide +kernel

lemma toNat_ofNat {n : Nat} (h : n.isValidChar) : (Char.ofNat n).toNat = n := by
  rw [Char.ofNat, dif_pos h]
  rfl

lemma of_image? {run : CaseRun} {n m : Nat} (h : run.image? n = some m) :
    run.first ≤ n ∧ n ≤ run.last ∧ m = (n + run.shift).toNat := by
  unfold CaseRun.image? at h
  split_ifs at h with hn
  simp only [Bool.and_eq_true, decide_eq_true_eq] at hn
  exact ⟨hn.1.1, hn.1.2, (Option.some.inj h).symm⟩

lemma image?_apart {run : CaseRun} (hrun : run ∈ upperRuns) {n m : Nat}
    (h : run.image? n = some m) : m.isValidChar ∧ ¬ IsSmall m ∧ (m < 0x80 → IsSmall n) := by
  obtain ⟨hfirst, hlast, rfl⟩ := of_image? h
  obtain ⟨hsmall, hvalid, hpos, hascii⟩ := upperRuns_apart run hrun
  refine ⟨?_, ?_, fun hm => ?_⟩
  · rcases hvalid with h1 | ⟨h1, h2⟩
    · exact .inl (by omega)
    · exact .inr ⟨by omega, by omega⟩
  · rintro ⟨r, hr, h1, h2⟩
    have := hsmall r hr
    omega
  · rcases hascii with h1 | ⟨h1, h2⟩
    · omega
    · obtain rfl : n = run.first := by omega
      exact h2

/-! ### Single characters -/

/-- The three ways a character beyond ASCII has an upper case. -/
lemma upperChar_cases {c : Char} (h : ¬ c.toNat < 0x80) :
    (∃ p ∈ upperExpansions, p.1 = c.toNat ∧ upperChar c = p.2.map Char.ofNat) ∨
      (∃ run ∈ upperRuns, ∃ m, run.image? c.toNat = some m ∧ upperChar c = [Char.ofNat m]) ∨
      (¬ IsSmall c.toNat ∧ upperChar c = [c]) := by
  unfold upperChar recase
  rw [if_neg h]
  split
  · next image himage =>
    obtain ⟨l₁, l₂, hl, -⟩ := List.lookup_eq_some_iff.mp himage
    refine .inl ⟨(c.toNat, image), ?_, rfl, rfl⟩
    rw [hl]
    exact List.mem_append_right _ List.mem_cons_self
  · next hnone =>
    rcases hrun : upperRuns.findSome? (·.image? c.toNat) with _ | m
    · exact .inr (.inr ⟨fun hs => lookup_small _ (hs.mem_smallBeyond h) hnone hrun,
        by rw [hrun]; rfl⟩)
    · obtain ⟨run, hmem, himage⟩ := List.exists_of_findSome?_eq_some hrun
      exact .inr (.inl ⟨run, hmem, m, himage, by rw [hrun]; rfl⟩)

lemma not_isSmall_of_mem_upperChar {c d : Char} (h : d ∈ upperChar c) : ¬ IsSmall d.toNat := by
  by_cases hc : c.toNat < 0x80
  · have hu : upperChar c = [c.toUpper] := if_pos hc
    obtain rfl : d = c.toUpper := by simpa [hu] using h
    exact (toUpper_ascii hc).1
  · rcases upperChar_cases hc with ⟨p, hp, -, hu⟩ | ⟨run, hrun, m, hm, hu⟩ | ⟨hs, hu⟩
    · rw [hu] at h
      obtain ⟨n, hn, rfl⟩ := List.mem_map.mp h
      have := (upperExpansions_apart p hp).1 n hn
      rw [toNat_ofNat this.1]
      exact this.2
    · obtain rfl : d = Char.ofNat m := by simpa [hu] using h
      obtain ⟨hv, hm, -⟩ := image?_apart hrun hm
      rw [toNat_ofNat hv]
      exact hm
    · obtain rfl : d = c := by simpa [hu] using h
      exact hs

/-- What is no small letter and has its upper case in ASCII is its own upper case. -/
lemma upperChar_eq_self {c : Char} (hs : ¬ IsSmall c.toNat)
    (h : ∀ d ∈ upperChar c, d.toNat < 0x80) : upperChar c = [c] := by
  by_cases hc : c.toNat < 0x80
  · have hu : upperChar c = [c.toUpper] := if_pos hc
    rw [hu, (toUpper_ascii hc).2 hs]
  · rcases upperChar_cases hc with ⟨p, hp, hpc, hu⟩ | ⟨run, hrun, m, hm, hu⟩ | ⟨-, hu⟩
    · rw [hu] at h
      refine absurd ((upperExpansions_apart p hp).2 fun n hn => ?_) (hpc ▸ hs)
      have := h _ (List.mem_map_of_mem hn)
      rwa [toNat_ofNat ((upperExpansions_apart p hp).1 n hn).1] at this
    · obtain ⟨hv, -, hm⟩ := image?_apart hrun hm
      have := h (Char.ofNat m) (by rw [hu]; exact List.mem_singleton_self _)
      rw [toNat_ofNat hv] at this
      exact absurd (hm this) hs
    · exact hu

/-! ### Texts -/

lemma upper_eq_self {cs : List Char} (h : ∀ c ∈ cs, upperChar c = [c]) : upper cs = cs := by
  induction cs with
  | nil => rfl
  | cons c cs ih =>
    have ih' := ih fun x hx => h x (List.mem_cons_of_mem _ hx)
    unfold upper at ih' ⊢
    rw [List.flatMap_cons, h c List.mem_cons_self, ih']
    rfl

/-- What a second upper-casing takes to ASCII was there already. -/
theorem upper_eq_iff {cs w : List Char} (hcs : ∀ c ∈ cs, ¬ IsSmall c.toNat)
    (hw : ∀ c ∈ w, c.toNat < 0x80 ∧ ¬ IsSmall c.toNat) : upper cs = w ↔ cs = w := by
  constructor
  · rintro rfl
    refine (upper_eq_self fun c hc => upperChar_eq_self (hcs c hc) fun d hd => ?_).symm
    exact (hw d (List.mem_flatMap.mpr ⟨c, hc, hd⟩)).1
  · rintro rfl
    refine upper_eq_self fun c hc => upperChar_eq_self (hw c hc).2 fun d hd => ?_
    have hu : upperChar c = [c.toUpper] := if_pos (hw c hc).1
    rw [hu, (toUpper_ascii (hw c hc).1).2 (hw c hc).2, List.mem_singleton] at hd
    exact hd ▸ (hw c hc).1

lemma mem_of_mem_wordsFrom {word cs w : List Char} {c : Char} (hw : w ∈ wordsFrom word cs)
    (hc : c ∈ w) : c ∈ word ∨ c ∈ cs := by
  induction cs generalizing word with
  | nil =>
    unfold wordsFrom at hw
    split_ifs at hw
    · simp at hw
    · exact .inl (List.mem_singleton.mp hw ▸ hc)
  | cons x cs ih =>
    have hnil : w ∈ wordsFrom [] cs → c ∈ x :: cs := fun h =>
      List.mem_cons_of_mem _ ((ih h).resolve_left List.not_mem_nil)
    unfold wordsFrom at hw
    split_ifs at hw
    · exact .inr (hnil hw)
    · rcases List.mem_cons.mp hw with rfl | hw
      · exact .inl hc
      · exact .inr (hnil hw)
    · rcases ih hw with h | h
      · rcases List.mem_append.mp h with h | h
        · exact .inl h
        · exact .inr (List.mem_singleton.mp h ▸ List.mem_cons_self)
      · exact .inr (List.mem_cons_of_mem _ h)

lemma mem_intersperse {sep w : List Char} {ws : List (List Char)}
    (h : w ∈ ws.intersperse sep) : w = sep ∨ w ∈ ws := by
  fun_induction List.intersperse sep ws with
  | case1 => simp at h
  | case2 x => exact .inr h
  | case3 x xs hxs ih =>
    rcases List.mem_cons.mp h with rfl | h
    · exact .inr List.mem_cons_self
    · rcases List.mem_cons.mp h with rfl | h
      · exact .inl rfl
      · exact (ih h).imp_right (List.mem_cons_of_mem _)

/-- Squeezing a text brings in spaces at most. -/
lemma mem_squeeze {c : Char} {cs : List Char} (h : c ∈ squeeze cs) : c = ' ' ∨ c ∈ cs := by
  obtain ⟨w, hw, hc⟩ := List.mem_flatten.mp h
  rcases mem_intersperse hw with rfl | hw
  · exact .inl (List.mem_singleton.mp hc)
  · exact .inr ((mem_of_mem_wordsFrom hw hc).resolve_left List.not_mem_nil)

end TableSchema.Text
