import TableSchema.Text.Integer
import Mathlib.Data.List.TakeWhile
import Mathlib.Tactic.Lemma
import Mathlib.Tactic.SplitIfs

/-!
Which texts are integers, as a grammar.

An integer is an optional sign and a run of digits with single underscores between them, of at most
`maxDigits` digits, with blanks allowed around the whole. Main statement: a text reads as a number
exactly when the grammar derives that number for it.
-/

namespace TableSchema.Text

/-- Digits with their values. A single underscore may stand between two digits. -/
inductive DigitRun : List Char → List Nat → Prop
  | last {c : Char} {d : Nat} (h : digitValue? c = some d) : DigitRun [c] [d]
  | next {c : Char} {d : Nat} {cs : List Char} {ds : List Nat} (h : digitValue? c = some d)
      (rest : DigitRun cs ds) : DigitRun (c :: cs) (d :: ds)
  | gap {c : Char} {d : Nat} {cs : List Char} {ds : List Nat} (h : digitValue? c = some d)
      (rest : DigitRun cs ds) : DigitRun (c :: '_' :: cs) (d :: ds)

inductive Unsigned : List Char → Nat → Prop
  | mk {cs : List Char} {ds : List Nat} (run : DigitRun cs ds) (len : ds.length ≤ maxDigits) :
    Unsigned cs (ofDigits ds)

inductive Signed : List Char → Int → Prop
  | plain {cs : List Char} {n : Nat} (h : Unsigned cs n) : Signed cs n
  | plus {cs : List Char} {n : Nat} (h : Unsigned cs n) : Signed ('+' :: cs) n
  | minus {cs : List Char} {n : Nat} (h : Unsigned cs n) : Signed ('-' :: cs) (-n)

/-- A text that writes a number, blanks around it included. -/
inductive Writes : List Char → Int → Prop
  | mk {before core after : List Char} {n : Int} (hb : ∀ c ∈ before, isBlank c)
      (ha : ∀ c ∈ after, isBlank c) (h : Signed core n) : Writes (before ++ core ++ after) n

/-! ### Runs of digits -/

lemma digitRun_of_digitValues? {fresh : Bool} {cs : List Char} {ds : List Nat}
    (h : digitValues? fresh cs = some ds) :
    if fresh then DigitRun cs ds
    else ∀ c d, digitValue? c = some d → DigitRun (c :: cs) (d :: ds) := by
  induction cs generalizing fresh ds with
  | nil =>
    cases fresh with
    | true => simp [digitValues?] at h
    | false =>
      obtain rfl : ds = [] := by simpa [digitValues?] using h.symm
      exact fun c d hc => .last hc
  | cons c cs ih =>
    unfold digitValues? at h
    split at h
    · next d hd =>
      obtain ⟨es, hes, rfl⟩ := Option.map_eq_some_iff.mp h
      have hrun : DigitRun (c :: cs) (d :: es) := ih hes c d hd
      cases fresh with
      | true => exact hrun
      | false => exact fun c' d' hc' => .next hc' hrun
    · split_ifs at h with hgap
      simp only [Bool.and_eq_true, beq_iff_eq, Bool.not_eq_true'] at hgap
      obtain ⟨rfl, rfl⟩ := hgap
      have hrun : DigitRun cs ds := ih h
      exact fun c' d' hc' => .gap hc' hrun

lemma digitValues?_of_digitRun {cs : List Char} {ds : List Nat} (h : DigitRun cs ds)
    (fresh : Bool) : digitValues? fresh cs = some ds := by
  have hgap : digitValue? '_' = none := by decide
  induction h generalizing fresh with
  | last h => simp [digitValues?, h]
  | next h rest ih => simp [digitValues?, h, ih]
  | gap h rest ih => simp [digitValues?, h, hgap, ih]

lemma natural?_eq_some_iff {cs : List Char} {n : Nat} : natural? cs = some n ↔ Unsigned cs n := by
  unfold natural?
  constructor
  · intro h
    split at h
    · next ds hds =>
      split_ifs at h with hlen
      obtain rfl := Option.some.inj h
      exact ⟨digitRun_of_digitValues? hds, hlen⟩
    · cases h
  · rintro ⟨hrun, hlen⟩
    rw [digitValues?_of_digitRun hrun]
    exact if_pos hlen

/-! ### Blanks around -/

/-- Zeros lie between the blanks, far enough from the next blank for all ten digits. -/
lemma zeros_apart : ∀ z ∈ zeros, (0x20 < z ∧ z + 9 < 0x85) ∨ (0xA0 < z ∧ z + 9 < 0x1680) ∨
    (0x1680 < z ∧ z + 9 < 0x2000) ∨ 0x3000 < z := by
  decide

lemma isBlank_of_digitValue? {c : Char} {d : Nat} (h : digitValue? c = some d) :
    isBlank c = false := by
  unfold digitValue? at h
  obtain ⟨z, hz, -⟩ := Option.map_eq_some_iff.mp h
  have hle := List.find?_some hz
  have hz := zeros_apart z (List.mem_of_find?_eq_some hz)
  simp only [Bool.and_eq_true, decide_eq_true_eq] at hle
  simp only [isBlank, Bool.or_eq_false_iff, Bool.and_eq_false_iff, beq_eq_false_iff_ne,
    decide_eq_false_iff_not]
  omega

lemma DigitRun.head {c : Char} {cs : List Char} {ds : List Nat} (h : DigitRun (c :: cs) ds) :
    ∃ d, digitValue? c = some d := by
  cases h with
  | last h | next h _ | gap h _ => exact ⟨_, h⟩

lemma DigitRun.getLast {cs : List Char} {ds : List Nat} (h : DigitRun cs ds) :
    ∃ front c d, cs = front ++ [c] ∧ digitValue? c = some d := by
  induction h with
  | @last c d h => exact ⟨[], c, d, rfl, h⟩
  | @next c d cs ds h rest ih =>
    obtain ⟨front, c', d', rfl, h'⟩ := ih
    exact ⟨c :: front, c', d', rfl, h'⟩
  | @gap c d cs ds h rest ih =>
    obtain ⟨front, c', d', rfl, h'⟩ := ih
    exact ⟨c :: '_' :: front, c', d', rfl, h'⟩

lemma Signed.ends {cs : List Char} {n : Int} (h : Signed cs n) :
    (∃ c rest, cs = c :: rest ∧ isBlank c = false) ∧
      ∃ front c, cs = front ++ [c] ∧ isBlank c = false := by
  have hrun : ∀ {body : List Char} {k : Nat}, Unsigned body k →
      (∃ c rest, body = c :: rest ∧ isBlank c = false) ∧
        ∃ front c, body = front ++ [c] ∧ isBlank c = false := by
    rintro body k ⟨hr, -⟩
    obtain ⟨front, c, d, rfl, hd⟩ := hr.getLast
    refine ⟨?_, front, c, rfl, isBlank_of_digitValue? hd⟩
    rcases front with _ | ⟨x, xs⟩
    · exact ⟨c, [], rfl, isBlank_of_digitValue? hd⟩
    · obtain ⟨e, he⟩ := hr.head
      exact ⟨x, xs ++ [c], rfl, isBlank_of_digitValue? he⟩
  cases h with
  | plain h => exact hrun h
  | plus h =>
    obtain ⟨-, front, c, rfl, hc⟩ := hrun h
    exact ⟨⟨'+', _, rfl, by decide⟩, '+' :: front, c, rfl, hc⟩
  | minus h =>
    obtain ⟨-, front, c, rfl, hc⟩ := hrun h
    exact ⟨⟨'-', _, rfl, by decide⟩, '-' :: front, c, rfl, hc⟩

/-- Trimming takes the blanks at both ends of a text that holds more, and nothing else. -/
lemma trim_append {before core after : List Char} (hb : ∀ c ∈ before, isBlank c)
    (ha : ∀ c ∈ after, isBlank c) (hhead : ∃ c rest, core = c :: rest ∧ isBlank c = false)
    (hlast : ∃ front c, core = front ++ [c] ∧ isBlank c = false) :
    trim (before ++ core ++ after) = core := by
  have hleft : (before ++ core ++ after).dropWhile isBlank = core ++ after := by
    obtain ⟨c, rest, rfl, hc⟩ := hhead
    rw [List.append_assoc, List.dropWhile_append_of_pos hb]
    simp [hc]
  have hright : (core ++ after).reverse.dropWhile isBlank = core.reverse := by
    obtain ⟨front, c, rfl, hc⟩ := hlast
    rw [List.reverse_append, List.dropWhile_append_of_pos (by simpa using ha)]
    simp [hc]
  rw [trim, hleft, hright, List.reverse_reverse]

lemma exists_eq_append_trim (cs : List Char) :
    ∃ before after, cs = before ++ trim cs ++ after ∧ (∀ c ∈ before, isBlank c) ∧
      ∀ c ∈ after, isBlank c := by
  refine ⟨cs.takeWhile isBlank, ((cs.dropWhile isBlank).reverse.takeWhile isBlank).reverse, ?_,
    fun c hc => List.mem_takeWhile_imp hc,
    fun c hc => List.mem_takeWhile_imp (List.mem_reverse.mp hc)⟩
  rw [List.append_assoc, trim, ← List.reverse_append, List.takeWhile_append_dropWhile,
    List.reverse_reverse, List.takeWhile_append_dropWhile]

/-- **Reading numbers**: a text reads as a number exactly when the grammar derives it. -/
theorem integer?_eq_some_iff {cs : List Char} {n : Int} : integer? cs = some n ↔ Writes cs n := by
  constructor
  · intro h
    obtain ⟨before, after, hcs, hb, ha⟩ := exists_eq_append_trim cs
    rw [hcs]
    refine ⟨hb, ha, ?_⟩
    unfold integer? at h
    split at h
    · next body hbody =>
      rw [hbody]
      simp only [Option.map_eq_some_iff, Option.bind_eq_bind, Option.bind_eq_some_iff] at h
      obtain ⟨_, ⟨k, hk, hk'⟩, rfl⟩ := h
      obtain rfl := Option.some.inj hk'
      exact .minus (natural?_eq_some_iff.mp hk)
    · next body hbody =>
      rw [hbody]
      obtain ⟨k, hk, rfl⟩ := Option.map_eq_some_iff.mp h
      exact .plus (natural?_eq_some_iff.mp hk)
    · obtain ⟨k, hk, rfl⟩ := Option.map_eq_some_iff.mp h
      exact .plain (natural?_eq_some_iff.mp hk)
  · rintro ⟨hb, ha, hs⟩
    unfold integer?
    rw [trim_append hb ha hs.ends.1 hs.ends.2]
    cases hs with
    | minus h => simp [natural?_eq_some_iff.mpr h]
    | plus h => simp [natural?_eq_some_iff.mpr h]
    | plain h =>
      -- a run of digits starts with no sign
      have hsign : ∀ sign body k, digitValue? sign = none → ¬ Unsigned (sign :: body) k := by
        rintro sign body k hnone ⟨hrun, -⟩
        obtain ⟨d, hd⟩ := hrun.head
        rw [hnone] at hd
        cases hd
      split
      · exact absurd h (hsign _ _ _ (by decide))
      · exact absurd h (hsign _ _ _ (by decide))
      · simp [natural?_eq_some_iff.mpr h]

lemma Writes.unique {cs : List Char} {m n : Int} (hm : Writes cs m) (hn : Writes cs n) :
    m = n := by
  rw [← integer?_eq_some_iff] at hm hn
  exact Option.some.inj (hm.symm.trans hn)

/-! ### Digits alone -/

end TableSchema.Text
