import TableSchema.Proofs.Source.Pieces

/-!
Occurrences of a form.

An occurrence is a run of pieces: the words of a form with blanks between them, and perhaps the kept
word. A pass over the pieces replaces what occurs there, one occurrence after the other. For a
single form that is what replacing it in the text comes to: see `apply_spell`.
-/

namespace TableSchema.Source

open Text

variable {ps rep rest form : List Piece}

/-! ### Occurrences -/

namespace Rewrite

variable (r : Rewrite)

def mayStandBefore (ps : List Piece) : Bool :=
  r.beforeParenthesis || (ps.dropWhile Piece.isGap).head? != some (.mark '(')

def afterKept? (ps : List Piece) : Option (List Piece) :=
  r.kept.bind fun w => dropForm? [[w]] (afterGap ps)

/-- What the form becomes if `ps` follows its words, and what is left of `ps`. -/
def replace (ps : List Piece) : List Piece × List Piece :=
  match r.afterKept? ps with
  | some rest => (ps.take (ps.length - rest.length) ++ pieces r.replacement, rest)
  | none => (pieces r.replacement, ps)

/-- What the form in front of pieces becomes, and what follows it. -/
def at? (ps : List Piece) : Option (List Piece × List Piece) :=
  ((dropForm? r.words ps).filter r.mayStandBefore).map r.replace

/-- All words of a form, the kept one too. -/
def phrase : List (List (List Char)) := r.words ++ r.kept.toList.map fun w => [w]

variable {r}

lemma lettered_words (hr : ∀ word ∈ r.phrase, Lettered word) : ∀ word ∈ r.words, Lettered word :=
  fun word hw => hr word (List.mem_append_left _ hw)

lemma lettered_kept (hr : ∀ word ∈ r.phrase, Lettered word) {w : List Char} (hw : w ∈ r.kept) :
    ∀ word ∈ [[w]], Lettered word := by
  intro word hword
  obtain rfl := List.mem_singleton.mp hword
  exact hr _ (List.mem_append_right _ (by simpa using hw))

lemma mayPrecede_spell (h : Proper ps) : r.mayPrecede (spell ps) = r.mayStandBefore ps := by
  unfold mayPrecede mayStandBefore
  rw [dropWhile_spell h]
  congr 1
  rcases hd : ps.dropWhile Piece.isGap with _ | ⟨p, qs⟩
  · rfl
  · have hp : Proper (p :: qs) := hd ▸ h.dropWhile
    cases p with
    | mark c => simp [Piece.text, bne]
    | word cs =>
      obtain ⟨⟨hne, hcs⟩, -⟩ := hp
      obtain ⟨c, cs, rfl⟩ := List.exists_cons_of_ne_nil hne
      have hc : c ≠ '(' := by
        rintro rfl
        exact absurd (hcs _ List.mem_cons_self) (by decide)
      simp [Piece.text, bne, hc]

lemma dropKept?_spell (hr : ∀ word ∈ r.phrase, Lettered word) (h : Proper ps) :
    r.dropKept? (spell ps) = (r.afterKept? ps).map spell := by
  unfold dropKept? afterKept?
  rcases hk : r.kept with _ | w
  · rfl
  · have hw := lettered_kept hr hk
    show (dropBlanks? (spell ps)).bind (dropWords? [[w]]) =
      (dropForm? [[w]] (afterGap ps)).map spell
    rw [dropBlanks?_spell h]
    unfold afterGap
    split_ifs
    · exact dropWords?_spell hw h.dropWhile
    · rfl

lemma afterKept?_eq_some (h : r.afterKept? ps = some rest) :
    ∃ kept, ps = kept ++ rest ∧ ∃ w ∈ r.kept, ∀ p ∈ kept, p.isGap = true ∨ p.key = w := by
  obtain ⟨w, hw, hdrop⟩ := Option.bind_eq_some_iff.mp h
  obtain ⟨form, hform, -, hmem⟩ := dropForm?_eq_some hdrop
  rcases afterGap_suffix ps with hnil | ⟨gap, hgap, hblank⟩
  · rw [hnil, dropForm?_nil] at hdrop
    cases hdrop
  · refine ⟨gap ++ form, by rw [hgap, hform, List.append_assoc], w, hw, fun p hp => ?_⟩
    rcases List.mem_append.mp hp with hp | hp
    · exact .inl (hblank p hp)
    · exact (hmem p hp).imp_right fun hkey => by simpa using hkey

lemma match?_spell (hr : ∀ word ∈ r.phrase, Lettered word) (h : Proper ps) :
    r.match? (spell ps) = (r.at? ps).map (Prod.map spell spell) := by
  unfold match? at?
  rw [dropWords?_spell (lettered_words hr) h]
  rcases hd : dropForm? r.words ps with _ | rest
  · rfl
  · obtain ⟨form, rfl, -, -⟩ := dropForm?_eq_some hd
    have hrest : Proper rest := h.of_append
    rw [Option.map_some, Option.filter_some, Option.filter_some, mayPrecede_spell hrest]
    by_cases hmay : r.mayStandBefore rest = true
    · rw [if_pos hmay, if_pos hmay, Option.map_some, Option.map_some, replace]
      rw [Option.bind_eq_bind, Option.bind_some, dropKept?_spell hr hrest]
      rcases hk : r.afterKept? rest with _ | rest'
      · simp
      · obtain ⟨form, rfl, -⟩ := afterKept?_eq_some hk
        simp
    · rw [if_neg hmay, if_neg hmay]
      rfl

/-! ### What an occurrence covers -/

def first (r : Rewrite) : List (List Char) := r.words.headD []

lemma lettered_first (hr : ∀ word ∈ r.phrase, Lettered word) : Lettered r.first := by
  unfold first
  rcases hw : r.words with _ | ⟨word, words⟩
  · simp [Lettered]
  · exact lettered_words hr word (by simp [hw])

lemma at?_of_first {p : Piece} (h : p.key ∉ r.first) : r.at? (p :: ps) = none := by
  unfold first at h
  unfold at?
  rcases hw : r.words with _ | ⟨word, words⟩
  · rfl
  · rw [hw] at h
    have hword : p.key ∉ word := h
    rw [dropForm?_cons, if_neg hword]
    rfl

lemma at?_nil : r.at? [] = none := by
  rw [at?, dropForm?_nil]
  rfl

lemma of_at? (h : r.at? ps = some (rep, rest)) :
    ∃ after, dropForm? r.words ps = some after ∧ r.replace after = (rep, rest) := by
  obtain ⟨after, hfilter, hreplace⟩ := Option.map_eq_some_iff.mp h
  exact ⟨after, (Option.filter_eq_some_iff.mp hfilter).1, hreplace⟩

/-- **An occurrence** is made of the words of its form and the blanks between them. What it becomes
is the kept word, if there is one, and the replacement. -/
lemma at?_eq_some (h : r.at? ps = some (rep, rest)) :
    ∃ form kept, ps = form ++ kept ++ rest ∧ form ≠ [] ∧ rep = kept ++ pieces r.replacement ∧
      (∀ p ∈ form, p.isGap = true ∨ p.key ∈ r.words.flatten) ∧
      (kept = [] ∨ ∃ w ∈ r.kept, ∀ p ∈ kept, p.isGap = true ∨ p.key = w) := by
  obtain ⟨after, hdrop, hreplace⟩ := of_at? h
  obtain ⟨form, rfl, hne, hform⟩ := dropForm?_eq_some hdrop
  unfold replace at hreplace
  rcases hk : r.afterKept? after with _ | rest'
  · rw [hk] at hreplace
    cases hreplace
    exact ⟨form, [], by simp, hne, rfl, hform, .inl rfl⟩
  · rw [hk] at hreplace
    obtain ⟨kept, rfl, hkept⟩ := afterKept?_eq_some hk
    cases hreplace
    exact ⟨form, kept, by simp, hne, by simp, hform, .inr hkept⟩

lemma at?_length (h : r.at? ps = some (rep, rest)) : rest.length < ps.length := by
  obtain ⟨form, kept, rfl, hne, -⟩ := at?_eq_some h
  have := List.length_pos_iff.mpr hne
  simp only [List.length_append]
  omega

lemma at?_suffix (h : r.at? ps = some (rep, rest)) : rest <:+ ps := by
  obtain ⟨form, kept, rfl, -⟩ := at?_eq_some h
  exact List.suffix_append _ _

lemma at?_startsWord (hr : ∀ word ∈ r.phrase, Lettered word) (h : Proper ps)
    (hat : r.at? ps = some (rep, rest)) : startsWord (spell rest) = false := by
  obtain ⟨after, hdrop, hreplace⟩ := of_at? hat
  have hafter := dropForm?_startsWord (lettered_words hr) h hdrop
  obtain ⟨form, rfl, -⟩ := dropForm?_eq_some hdrop
  unfold replace at hreplace
  rcases hk : r.afterKept? after with _ | rest'
  · rw [hk] at hreplace
    cases hreplace
    exact hafter
  · rw [hk] at hreplace
    cases hreplace
    obtain ⟨w, hw, hkept⟩ := Option.bind_eq_some_iff.mp hk
    exact dropForm?_startsWord (lettered_kept hr hw) h.of_append.afterGap hkept

end Rewrite

/-! ### One pass -/

/-- What the first of some forms becomes that stands in front of pieces, and what follows it. -/
def firstAt? (forms : List Rewrite) (ps : List Piece) : Option (List Piece × List Piece) :=
  forms.findSome? fun r => r.at? ps

variable {forms : List Rewrite} {r : Rewrite} {p : Piece}

lemma firstAt?_mem (h : firstAt? forms ps = some (rep, rest)) :
    ∃ r ∈ forms, r.at? ps = some (rep, rest) :=
  List.exists_of_findSome?_eq_some h

/-- Pieces with the forms in them replaced, from the left. What replaces a form is not looked at
again. -/
def sweep (forms : List Rewrite) : List Piece → List Piece
  | [] => []
  | p :: ps =>
    match _h : firstAt? forms (p :: ps) with
    | some (rep, rest) => rep ++ sweep forms rest
    | none => p :: sweep forms ps
termination_by ps => ps.length
decreasing_by
  · obtain ⟨r, -, hat⟩ := firstAt?_mem _h
    exact Rewrite.at?_length hat
  · simp

@[simp] lemma sweep_nil : sweep forms [] = [] := by
  rw [sweep]

lemma firstAt?_nil : firstAt? forms [] = none :=
  List.findSome?_eq_none_iff.mpr fun _ _ => Rewrite.at?_nil

lemma sweep_of_some (h : firstAt? forms ps = some (rep, rest)) :
    sweep forms ps = rep ++ sweep forms rest := by
  cases ps with
  | nil =>
    rw [firstAt?_nil] at h
    cases h
  | cons p ps =>
    rw [sweep]
    split
    · next heq =>
      rw [h] at heq
      cases heq
      rfl
    · next heq =>
      rw [h] at heq
      cases heq

lemma sweep_of_none (h : firstAt? forms (p :: ps) = none) :
    sweep forms (p :: ps) = p :: sweep forms ps := by
  rw [sweep]
  split
  · next heq =>
    rw [h] at heq
    cases heq
  · rfl

/-! ### The text of a pass -/

namespace Rewrite

lemma applyFrom_append (inWord : Bool) (cs ds : List Char) :
    ∃ b, r.applyFrom inWord cs.length (cs ++ ds) = r.applyFrom b 0 ds := by
  induction cs generalizing inWord with
  | nil => exact ⟨inWord, rfl⟩
  | cons c cs ih => exact ih (isWord c)

lemma applyFrom_word {cs : List Char} (h : ∀ c ∈ cs, isWord c = true) (ds : List Char) :
    r.applyFrom true 0 (cs ++ ds) = cs ++ r.applyFrom true 0 ds := by
  induction cs with
  | nil => rfl
  | cons c cs ih =>
    have hc := h c List.mem_cons_self
    have hstep : r.applyFrom true 0 (c :: (cs ++ ds)) = c :: r.applyFrom (isWord c) 0 (cs ++ ds) :=
      rfl
    rw [List.cons_append, hstep, hc, ih fun x hx => h x (List.mem_cons_of_mem _ hx)]
    rfl

/-- What comes before matters only to a word. -/
lemma applyFrom_inWord (hr : ∀ word ∈ r.phrase, Lettered word) {cs : List Char}
    (h : startsWord cs = false) (b : Bool) : r.applyFrom b 0 cs = r.applyFrom false 0 cs := by
  cases cs with
  | nil => rfl
  | cons c cs =>
    have hnone : r.match? (c :: cs) = none := by
      have hc : ¬ isWord c = true := by
        rw [startsWord_cons] at h
        simp [h]
      have hpieces : pieces (c :: cs) = .mark c :: pieces cs := if_neg hc
      have hfirst : (Piece.mark c).key ∉ r.first := fun hmem => (lettered_first hr _ hmem).1 rfl
      rw [← spell_pieces (c :: cs), match?_spell hr (proper_pieces _), hpieces,
        at?_of_first hfirst]
      rfl
    cases b
    · rfl
    · rw [applyFrom, applyFrom, hnone]
      rfl

lemma applyFrom_of_some {c : Char} {cs before after out : List Char} (hcs : cs = before ++ after)
    (h : r.match? (c :: cs) = some (out, after)) :
    ∃ b, r.applyFrom false 0 (c :: cs) = out ++ r.applyFrom b 0 after := by
  obtain ⟨b, hb⟩ := applyFrom_append (isWord c) (r := r) before after
  refine ⟨b, ?_⟩
  have hlength : cs.length - after.length = before.length := by simp [hcs]
  have hstep : r.applyFrom false 0 (c :: cs) =
      out ++ r.applyFrom (isWord c) (cs.length - after.length) cs := by
    simp [applyFrom, h]
  rw [hstep, hlength, ← hb, ← hcs]

lemma applyFrom_of_none {c : Char} {cs : List Char} (h : r.match? (c :: cs) = none) :
    r.applyFrom false 0 (c :: cs) = c :: r.applyFrom (isWord c) 0 cs := by
  simp [applyFrom, h]

/-- **One form**: replacing it in a text is a pass over the pieces. -/
lemma apply_spell (hr : ∀ word ∈ r.phrase, Lettered word) (h : Proper ps) :
    r.apply (spell ps) = spell (sweep [r] ps) := by
  have hfind : ∀ qs, firstAt? [r] qs = r.at? qs := by
    intro qs
    simp [firstAt?]
  unfold apply
  induction ps using sweep.induct [r] with
  | case1 => simp [applyFrom]
  | case2 p ps rep rest hat ih =>
    have hsweep := sweep_of_some hat
    rw [hfind] at hat
    obtain ⟨form, kept, hform, hne, -⟩ := at?_eq_some hat
    obtain ⟨q, form, rfl⟩ := List.exists_cons_of_ne_nil hne
    obtain ⟨rfl, hps⟩ := List.cons.inj hform
    have hrest : Proper rest := (hform ▸ h : Proper (_ ++ rest)).of_append
    obtain ⟨c, cs, htext, -⟩ := h.head
    have hcons : spell (p :: ps) = c :: (cs ++ spell ps) := by rw [spell_cons, htext]; rfl
    have hmatch : r.match? (c :: (cs ++ spell ps)) = some (spell rep, spell rest) := by
      rw [← hcons, match?_spell hr h, hat]
      rfl
    have hbefore : cs ++ spell ps = (cs ++ spell (form ++ kept)) ++ spell rest := by
      rw [hps]
      simp
    obtain ⟨b, hb⟩ := applyFrom_of_some hbefore hmatch
    rw [hcons, hb, applyFrom_inWord hr (at?_startsWord hr h hat), ih hrest, hsweep, spell_append]
  | case3 p ps hat ih =>
    have hsweep := sweep_of_none hat
    rw [hfind] at hat
    obtain ⟨c, cs, htext, -⟩ := h.head
    have hcons : spell (p :: ps) = c :: (cs ++ spell ps) := by rw [spell_cons, htext]; rfl
    have hmatch : r.match? (c :: (cs ++ spell ps)) = none := by
      rw [← hcons, match?_spell hr h, hat]
      rfl
    rw [hcons, applyFrom_of_none hmatch, hsweep, spell_cons, htext, ← ih h.tail]
    cases p with
    | mark d =>
      obtain ⟨rfl, rfl⟩ := List.cons.inj htext
      rw [h.1]
      rfl
    | word ds =>
      obtain rfl : ds = c :: cs := htext
      obtain ⟨⟨-, hds⟩, hstart, -⟩ := h
      rw [hds c List.mem_cons_self, applyFrom_word fun x hx => hds x (List.mem_cons_of_mem _ hx),
        applyFrom_inWord hr hstart]
      rfl

end Rewrite
end TableSchema.Source
