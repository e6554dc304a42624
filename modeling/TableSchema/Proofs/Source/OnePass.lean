import TableSchema.Proofs.Source.Occurrence
import Mathlib.Data.List.Induction

/-!
Rewriting in one pass.

The forms are replaced one after the other, each in the text that the earlier ones have left. They
do not feed or hide one another: no replacement shows a word of a later form, and no form begins
inside a later one. So all of them can be replaced in a single pass from the left: see
`rewritePlain_eq_sweep`. Where several forms stand in one place, the pass takes the longest.
-/

namespace TableSchema.Source

open Text

variable {forms : List Rewrite} {r : Rewrite} {p : Piece} {ps rep rest : List Piece}

namespace Rewrite

/-! ### Forms that leave each other alone -/

def later (r : Rewrite) : List (List (List Char)) :=
  r.words.tail ++ r.kept.toList.map fun w => [w]

/-- A form in small letters, whose replacement begins neither with a word nor with a parenthesis
where that matters. -/
structure Regular (r : Rewrite) : Prop where
  lettered : ∀ word ∈ r.phrase, Lettered word
  spaced : r.kept ≠ none → startsWord r.replacement = false
  begins : ((pieces r.replacement).find? (!·.isGap)).any (· ≠ .mark '(') = true

/-- What replaces the form `r'` shows no word of the form `r`, and `r'` begins nowhere inside
`r`. -/
structure Apart (r' r : Rewrite) : Prop where
  replacement : ∀ p ∈ pieces r'.replacement, p.key ∉ r.phrase.flatten
  kept : ∀ w ∈ r'.kept, w ∉ r.phrase.flatten
  first : ∀ w ∈ r'.first, w ∉ r.later.flatten

end Rewrite

lemma rewrites_regular : ∀ r ∈ rewrites, r.Regular := by
  have h1 : ∀ r ∈ rewrites, ∀ word ∈ r.phrase, Lettered word := by decide
  have h2 : ∀ r ∈ rewrites, r.kept ≠ none → startsWord r.replacement = false := by decide
  have h3 : ∀ r ∈ rewrites,
      ((pieces r.replacement).find? (!·.isGap)).any (· ≠ .mark '(') = true := by
    decide
  exact fun r hr => ⟨h1 r hr, h2 r hr, h3 r hr⟩

lemma rewrites_apart : rewrites.Pairwise Rewrite.Apart := by
  have h1 : rewrites.Pairwise fun r' r =>
      ∀ p ∈ pieces r'.replacement, p.key ∉ r.phrase.flatten := by
    decide
  have h2 : rewrites.Pairwise fun r' r => ∀ w ∈ r'.kept, w ∉ r.phrase.flatten := by decide
  have h3 : rewrites.Pairwise fun r' r => ∀ w ∈ r'.first, w ∉ r.later.flatten := by decide
  exact ((h1.and h2).and h3).imp fun h => ⟨h.1.1, h.1.2, h.2⟩

/-! ### A pass before another form -/

variable {xs : List Piece}

/-- Pieces with which no form begins are copied. -/
lemma sweep_append (h : ∀ p ∈ xs, ∀ r ∈ forms, p.key ∉ r.first) (ps : List Piece) :
    sweep forms (xs ++ ps) = xs ++ sweep forms ps := by
  induction xs with
  | nil => rfl
  | cons p xs ih =>
    have hnone : firstAt? forms (p :: (xs ++ ps)) = none :=
      List.findSome?_eq_none_iff.mpr fun r hr => Rewrite.at?_of_first (h p List.mem_cons_self r hr)
    rw [List.cons_append, sweep_of_none hnone, ih fun q hq => h q (List.mem_cons_of_mem _ hq)]
    rfl

lemma Rewrite.Regular.key_ne_nil (hr : r.Regular) {w : List Char} (h : w ∈ r.phrase.flatten) :
    w ≠ [] := by
  obtain ⟨word, hword, hw⟩ := List.mem_flatten.mp h
  exact (hr.lettered word hword w hw).1

lemma Rewrite.first_subset {w : List Char} (h : w ∈ r.first) : w ∈ r.phrase.flatten := by
  unfold first at h
  rcases hw : r.words with _ | ⟨word, words⟩
  · simp [hw] at h
  · rw [hw] at h
    exact List.mem_flatten.mpr ⟨word, List.mem_append_left _ (by simp [hw]), h⟩

lemma Rewrite.later_subset {word : List (List Char)} (h : word ∈ r.later) : word ∈ r.phrase := by
  rcases List.mem_append.mp h with h | h
  · exact List.mem_append_left _ (List.mem_of_mem_tail h)
  · exact List.mem_append_right _ h

lemma Rewrite.mem_later_of_kept {w : List Char} (h : w ∈ r.kept) : [w] ∈ r.later :=
  List.mem_append_right _ (by simpa using h)

lemma Rewrite.Regular.not_first (hr : r.Regular) (hp : p.key = []) : p.key ∉ r.first := fun hmem =>
  hr.key_ne_nil (Rewrite.first_subset hmem) hp

lemma Piece.key_of_isGap (h : p.isGap = true) : p.key = [] := by
  cases p with
  | word => cases h
  | mark => rfl

lemma firstAt?_of_key (hf : ∀ r ∈ forms, r.Regular) (hp : p.key = []) (ps : List Piece) :
    firstAt? forms (p :: ps) = none :=
  List.findSome?_eq_none_iff.mpr fun r hr => Rewrite.at?_of_first ((hf r hr).not_first hp)

/-- A form finds nothing in what replaced other forms. -/
lemma sweep_occurrence (ha : ∀ r' ∈ forms, r'.Apart r) (hr : r.Regular)
    (hat : firstAt? forms ps = some (rep, rest)) (qs : List Piece) :
    sweep [r] (rep ++ qs) = rep ++ sweep [r] qs := by
  obtain ⟨r', hmem, hat⟩ := firstAt?_mem hat
  obtain ⟨form, kept, -, -, rfl, -, hkept⟩ := Rewrite.at?_eq_some hat
  refine sweep_append (fun p hp r'' hr'' hfirst => ?_) qs
  obtain rfl := List.mem_singleton.mp hr''
  have hphrase := Rewrite.first_subset hfirst
  rcases List.mem_append.mp hp with hp | hp
  · rcases hkept with rfl | ⟨w, hw, hkeys⟩
    · cases hp
    · rcases hkeys p hp with hgap | rfl
      · exact hr.not_first (Piece.key_of_isGap hgap) hfirst
      · exact (ha r' hmem).kept _ hw hphrase
  · exact (ha r' hmem).replacement p hp hphrase

/-- Pieces that do not go on with a form, and may follow one. -/
def Foreign (r : Rewrite) (ps : List Piece) : Prop :=
  ∀ p ∈ ps.head?, p.key ∉ r.later.flatten ∧ p ≠ .mark '('

lemma Foreign.head (h : Foreign r ps) : (ps.head? != some (.mark '(')) = true := by
  cases ps with
  | nil => rfl
  | cons p ps => simpa using (h p rfl).2

lemma Foreign.dropForm? (h : Foreign r ps) {words : List (List (List Char))}
    (hw : ∀ word ∈ words, word ∈ r.later) : dropForm? words ps = none := by
  cases words with
  | nil => cases ps <;> rfl
  | cons word words =>
    cases ps with
    | nil => rfl
    | cons p ps =>
      refine if_neg fun hmem => (h p rfl).1 ?_
      exact List.mem_flatten.mpr ⟨word, hw word List.mem_cons_self, hmem⟩

section Composition

variable (hf : ∀ r' ∈ forms, r'.Regular) (ha : ∀ r' ∈ forms, r'.Apart r)
include hf ha

lemma foreign_occurrence (hat : firstAt? forms (p :: ps) = some (rep, rest)) (qs : List Piece) :
    Foreign r (p :: ps) ∧ Foreign r ((rep ++ qs).dropWhile Piece.isGap) := by
  obtain ⟨r', hmem, hat⟩ := firstAt?_mem hat
  have hregular := hf r' hmem
  have hapart := ha r' hmem
  have hlater : ∀ w ∈ r.later.flatten, w ∈ r.phrase.flatten := by
    intro w hw
    obtain ⟨word, hword, hw⟩ := List.mem_flatten.mp hw
    exact List.mem_flatten.mpr ⟨word, Rewrite.later_subset hword, hw⟩
  have hmark : ∀ {p : Piece}, p.key ≠ [] → p ≠ .mark '(' := by
    rintro p h rfl
    exact h rfl
  constructor
  · have hfirst : p.key ∈ r'.first := by
      by_contra hno
      rw [Rewrite.at?_of_first hno] at hat
      cases hat
    rintro q ⟨⟩
    exact ⟨hapart.first _ hfirst, hmark (hregular.key_ne_nil (Rewrite.first_subset hfirst))⟩
  · obtain ⟨form, kept, -, -, rfl, -, hkept⟩ := Rewrite.at?_eq_some hat
    obtain ⟨x, hx, hne⟩ := (Option.any_eq_true _ _).mp hregular.begins
    have hhead : ∀ xs : List Piece,
        (xs.dropWhile Piece.isGap).head? = xs.find? (!·.isGap) := by
      intro xs
      rw [List.find?_eq_head?_dropWhile_not]
      simp
    intro q hq
    rw [hhead, List.append_assoc, List.find?_append, List.find?_append, hx, Option.some_or] at hq
    rcases hfind : kept.find? (!·.isGap) with _ | y
    · rw [hfind, Option.none_or] at hq
      obtain rfl := Option.some.inj hq
      have hmem := List.mem_of_find?_eq_some hx
      exact ⟨fun h => hapart.replacement _ hmem (hlater _ h), by simpa using hne⟩
    · rw [hfind, Option.some_or] at hq
      obtain rfl := Option.some.inj hq
      have hgap := List.find?_some hfind
      have hmem := List.mem_of_find?_eq_some hfind
      rcases hkept with rfl | ⟨w, hw, hkeys⟩
      · cases hmem
      · obtain rfl := (hkeys _ hmem).resolve_left (by simpa using hgap)
        refine ⟨fun h => hapart.kept _ hw (hlater _ h), hmark (hregular.key_ne_nil ?_)⟩
        exact List.mem_flatten.mpr
          ⟨[y.key], Rewrite.later_subset (Rewrite.mem_later_of_kept hw), List.mem_singleton_self _⟩

/-- After the blanks in front, a pass either leaves what is there or has replaced what does not go
on with `r` by what does not either. -/
lemma dropWhile_sweep (ps : List Piece) :
    (sweep forms ps).dropWhile Piece.isGap = sweep forms (ps.dropWhile Piece.isGap) ∧
        firstAt? forms (ps.dropWhile Piece.isGap) = none ∨
      Foreign r ((sweep forms ps).dropWhile Piece.isGap) ∧
        Foreign r (ps.dropWhile Piece.isGap) := by
  induction ps with
  | nil => exact .inl ⟨by simp, firstAt?_nil⟩
  | cons p ps ih =>
    by_cases hp : p.isGap = true
    · rw [sweep_of_none (firstAt?_of_key hf (Piece.key_of_isGap hp) ps), List.dropWhile_cons,
        if_pos hp, List.dropWhile_cons, if_pos hp]
      exact ih
    · have hdrop : (p :: ps).dropWhile Piece.isGap = p :: ps := by
        rw [List.dropWhile_cons, if_neg hp]
      rw [hdrop]
      rcases hat : firstAt? forms (p :: ps) with _ | ⟨rep, rest⟩
      · refine .inl ⟨?_, rfl⟩
        rw [sweep_of_none hat, List.dropWhile_cons, if_neg hp]
      · rw [sweep_of_some hat]
        exact .inr (foreign_occurrence hf ha hat _).symm

lemma afterGap_sweep (ps : List Piece) :
    afterGap (sweep forms ps) = sweep forms (afterGap ps) ∧
        firstAt? forms (afterGap ps) = none ∨
      Foreign r (afterGap (sweep forms ps)) ∧ Foreign r (afterGap ps) := by
  have hnil : Foreign r [] := by simp [Foreign]
  cases ps with
  | nil => exact .inl ⟨by simp [afterGap], firstAt?_nil⟩
  | cons p ps =>
    by_cases hp : p.isGap = true
    · have hsweep := sweep_of_none (firstAt?_of_key hf (Piece.key_of_isGap hp) ps)
      have hgap : ∀ qs, afterGap (p :: qs) = (p :: qs).dropWhile Piece.isGap := fun qs => if_pos hp
      have h := dropWhile_sweep hf ha (p :: ps)
      rwa [hsweep, ← hgap, ← hgap, ← hsweep] at h
    · have hgap : ∀ qs, afterGap (p :: qs) = [] := fun qs => if_neg hp
      rcases hat : firstAt? forms (p :: ps) with _ | ⟨rep, rest⟩
      · rw [sweep_of_none hat, hgap, hgap]
        exact .inl ⟨by simp, firstAt?_nil⟩
      · rw [hgap, sweep_of_some hat]
        refine .inr ⟨?_, hnil⟩
        unfold afterGap
        split_ifs
        · exact (foreign_occurrence hf ha hat _).2
        · exact hnil

/-- Words that follow the first one are met in the same places before a pass and after it. -/
lemma dropForm?_sweep {words : List (List (List Char))} (hw : ∀ word ∈ words, word ∈ r.later)
    (ps : List Piece) :
    dropForm? words (afterGap (sweep forms ps)) =
      (dropForm? words (afterGap ps)).map (sweep forms) := by
  induction words generalizing ps with
  | nil => simp [dropForm?]
  | cons word words ih =>
    have ih := fun ps => ih (fun x hx => hw x (List.mem_cons_of_mem _ hx)) ps
    rcases afterGap_sweep hf ha ps with ⟨heq, hat⟩ | ⟨hs, hps⟩
    · rw [heq]
      rcases hgap : afterGap ps with _ | ⟨p, qs⟩
      · simp [dropForm?_nil]
      · rw [hgap] at hat
        rw [sweep_of_none hat, dropForm?_cons, dropForm?_cons, ih]
        split_ifs <;> rfl
    · rw [hs.dropForm? hw, hps.dropForm? hw]
      rfl

lemma mayStandBefore_sweep (ps : List Piece) :
    r.mayStandBefore (sweep forms ps) = r.mayStandBefore ps := by
  unfold Rewrite.mayStandBefore
  congr 1
  rcases dropWhile_sweep hf ha ps with ⟨heq, hat⟩ | ⟨hs, hps⟩
  · rw [heq]
    rcases hdrop : ps.dropWhile Piece.isGap with _ | ⟨p, qs⟩
    · simp
    · rw [hdrop] at hat
      rw [sweep_of_none hat]
      rfl
  · rw [hs.head, hps.head]

lemma replace_sweep (ps : List Piece) :
    r.replace (sweep forms ps) = (r.replace ps).map id (sweep forms) := by
  have hkept : r.afterKept? (sweep forms ps) = (r.afterKept? ps).map (sweep forms) := by
    unfold Rewrite.afterKept?
    rcases hw : r.kept with _ | w
    · rfl
    · refine dropForm?_sweep hf ha (fun word hword => List.mem_append_right _ ?_) ps
      simpa [hw] using hword
  unfold Rewrite.replace
  rw [hkept]
  rcases hk : r.afterKept? ps with _ | rest
  · rfl
  · obtain ⟨kept, rfl, w, hw, hmem⟩ := Rewrite.afterKept?_eq_some hk
    have hcopy : sweep forms (kept ++ rest) = kept ++ sweep forms rest := by
      refine sweep_append (fun p hp r' hr' hfirst => ?_) rest
      rcases hmem p hp with hgap | hkey
      · exact (hf r' hr').not_first (Piece.key_of_isGap hgap) hfirst
      · exact (ha r' hr').first _ hfirst
          (List.mem_flatten.mpr ⟨[w], Rewrite.mem_later_of_kept hw, by simp [hkey]⟩)
    rw [hcopy]
    simp

/-- **A form after a pass** stands where it stood before. -/
lemma at?_sweep (p : Piece) (ps : List Piece) :
    r.at? (p :: sweep forms ps) = (r.at? (p :: ps)).map (Prod.map id (sweep forms)) := by
  have hdrop : dropForm? r.words (p :: sweep forms ps) =
      (dropForm? r.words (p :: ps)).map (sweep forms) := by
    rcases hw : r.words with _ | ⟨word, words⟩
    · rfl
    · rw [dropForm?_cons, dropForm?_cons, dropForm?_sweep hf ha fun x hx =>
        List.mem_append_left _ (by simpa [hw] using hx)]
      split_ifs <;> rfl
  unfold Rewrite.at?
  rw [hdrop]
  rcases dropForm? r.words (p :: ps) with _ | after
  · rfl
  · rw [Option.map_some, Option.filter_some, Option.filter_some, mayStandBefore_sweep hf ha]
    split_ifs
    · exact congrArg some (replace_sweep hf ha after)
    · rfl

/-- **One more form**: a pass for some forms and then one for another is a pass for all of them. -/
theorem sweep_sweep (hr : r.Regular) (ps : List Piece) :
    sweep [r] (sweep forms ps) = sweep (forms ++ [r]) ps := by
  have hall : ∀ qs, firstAt? (forms ++ [r]) qs = (firstAt? forms qs).or (r.at? qs) := by
    intro qs
    simp [firstAt?, List.findSome?_append]
  have hone : ∀ qs, firstAt? [r] qs = r.at? qs := by
    intro qs
    simp [firstAt?]
  induction ps using sweep.induct (forms ++ [r]) with
  | case1 => simp
  | case2 p ps rep rest hat ih =>
    rw [sweep_of_some hat]
    rw [hall] at hat
    rcases hfirst : firstAt? forms (p :: ps) with _ | x
    · rw [hfirst, Option.none_or] at hat
      have hafter : firstAt? [r] (p :: sweep forms ps) = some (rep, sweep forms rest) := by
        rw [hone, at?_sweep hf ha, hat]
        rfl
      rw [sweep_of_none hfirst, sweep_of_some hafter, ih]
    · rw [hfirst, Option.some_or] at hat
      obtain rfl := Option.some.inj hat
      rw [sweep_of_some hfirst, sweep_occurrence ha hr hfirst, ih]
  | case3 p ps hat ih =>
    rw [sweep_of_none hat]
    rw [hall, Option.or_eq_none_iff] at hat
    have hafter : firstAt? [r] (p :: sweep forms ps) = none := by
      rw [hone, at?_sweep hf ha, hat.2]
      rfl
    rw [sweep_of_none hat.1, sweep_of_none hafter, ih]

end Composition

/-! ### All forms -/

lemma startsWord_sweep (hf : ∀ r ∈ forms, r.Regular) (h : Proper ps)
    (hs : startsWord (spell ps) = false) : startsWord (spell (sweep forms ps)) = false := by
  cases ps with
  | nil => simpa using hs
  | cons p ps =>
    cases p with
    | mark c =>
      rw [sweep_of_none (firstAt?_of_key hf rfl ps)]
      exact hs
    | word cs =>
      obtain ⟨⟨hne, hcs⟩, -⟩ := h
      obtain ⟨c, cs, rfl⟩ := List.exists_cons_of_ne_nil hne
      rw [show startsWord (spell (.word (c :: cs) :: ps)) = isWord c from rfl,
        hcs c List.mem_cons_self] at hs
      cases hs

lemma proper_sweep (hf : ∀ r ∈ forms, r.Regular) (h : Proper ps) : Proper (sweep forms ps) := by
  induction ps using sweep.induct forms with
  | case1 =>
    rw [sweep_nil]
    trivial
  | case2 p ps rep rest hat ih =>
    rw [sweep_of_some hat]
    obtain ⟨r, hr, hat⟩ := firstAt?_mem hat
    have hafter := Rewrite.at?_startsWord (hf r hr).lettered h hat
    obtain ⟨form, kept, hform, -, rfl, -, hkept⟩ := Rewrite.at?_eq_some hat
    rw [hform] at h
    have hrest := h.of_append
    have hrep : Proper (kept ++ pieces r.replacement) := by
      rcases hkept with rfl | ⟨w, hw, -⟩
      · exact proper_pieces _
      · refine Proper.append ?_ (proper_pieces _) ?_
        · rw [List.append_assoc] at h
          exact h.of_append.left
        · rw [spell_pieces]
          exact (hf r hr).spaced (by rw [hw]; simp)
    exact hrep.append (ih hrest) (startsWord_sweep hf hrest hafter)
  | case3 p ps hat ih =>
    rw [sweep_of_none hat]
    cases p with
    | word cs => exact ⟨h.1, startsWord_sweep hf h.tail h.2.1, ih h.tail⟩
    | mark c => exact ⟨h.1, ih h.tail⟩

/-- **All forms**: replacing forms one after the other is a single pass for all of them, if each
leaves the later ones alone. -/
lemma foldl_apply (forms : List Rewrite) (hf : ∀ r ∈ forms, r.Regular)
    (ha : forms.Pairwise Rewrite.Apart) (h : Proper ps) :
    forms.foldl (fun cs r => r.apply cs) (spell ps) = spell (sweep forms ps) := by
  induction forms using List.reverseRecOn with
  | nil =>
    have hnone : ∀ ps, sweep [] ps = ps := by
      intro ps
      induction ps with
      | nil => simp
      | cons p ps ih => rw [sweep_of_none rfl, ih]
    rw [hnone]
    rfl
  | append_singleton forms r ih =>
    have hforms : ∀ r' ∈ forms, r'.Regular := fun r' hr' => hf r' (List.mem_append_left _ hr')
    have hr : r.Regular := hf r (by simp)
    obtain ⟨hpair, -, hapart⟩ := List.pairwise_append.mp ha
    rw [List.foldl_append, ih hforms hpair]
    show r.apply (spell (sweep forms ps)) = _
    rw [Rewrite.apply_spell hr.lettered (proper_sweep hforms h),
      sweep_sweep hforms (fun r' hr' => hapart r' hr' r (by simp)) hr]

/-- **One pass**: plain text is rewritten in a single pass from the left, in which the first form
that stands at a place is replaced there. -/
theorem rewritePlain_eq_sweep (cs : List Char) :
    rewritePlain cs = spell (sweep rewrites (pieces cs)) := by
  have h := foldl_apply rewrites rewrites_regular rewrites_apart (proper_pieces cs)
  rwa [spell_pieces] at h

/-! ### The longest form -/

/-- Words of which two in the same place have no spelling in common. -/
def Diverge : List (List (List Char)) → List (List (List Char)) → Prop
  | word :: words, word' :: words' => (∀ w ∈ word, w ∉ word') ∨ Diverge words words'
  | _, _ => False

instance decidableDiverge : (ws ws' : List (List (List Char))) → Decidable (Diverge ws ws')
  | word :: words, word' :: words' =>
    have := decidableDiverge words words'
    inferInstanceAs (Decidable ((∀ w ∈ word, w ∉ word') ∨ Diverge words words'))
  | [], _ => inferInstanceAs (Decidable False)
  | _ :: _, [] => inferInstanceAs (Decidable False)

lemma Diverge.not_both {ws ws' : List (List (List Char))} (h : Diverge ws ws') {rest' : List Piece}
    (hd : dropForm? ws ps = some rest) (hd' : dropForm? ws' ps = some rest') : False := by
  induction ws generalizing ws' ps with
  | nil => exact h
  | cons word words ih =>
    cases ws' with
    | nil => exact h
    | cons word' words' =>
      cases ps with
      | nil => cases hd
      | cons p ps =>
        rw [dropForm?_cons] at hd hd'
        split_ifs at hd with hp hnil
        · obtain rfl : words = [] := by simpa using hnil
          rcases h with h | h
          · rw [if_neg (h _ hp)] at hd'
            cases hd'
          · exact h
        · rcases h with h | h
          · rw [if_neg (h _ hp)] at hd'
            cases hd'
          · split_ifs at hd' with hp' hnil'
            · obtain rfl : words' = [] := by simpa using hnil'
              cases words <;> exact h
            · exact ih h hd hd'

lemma dropForm?_length_words {ws : List (List (List Char))} (hd : dropForm? ws ps = some rest) :
    rest.length + ws.length ≤ ps.length := by
  induction ws generalizing ps with
  | nil => cases ps <;> cases hd
  | cons word words ih =>
    cases ps with
    | nil => cases hd
    | cons p ps =>
      rw [dropForm?_cons] at hd
      simp only [List.length_cons]
      split_ifs at hd with hp hnil
      · obtain rfl : words = [] := by simpa using hnil
        obtain rfl := Option.some.inj hd
        simp
      · have hwords := ih hd
        rcases afterGap_suffix ps with hgap | ⟨gap, hgap, -⟩
        · rw [hgap, dropForm?_nil] at hd
          cases hd
        · have hlength := congrArg List.length hgap
          rw [List.length_append] at hlength
          omega

lemma dropForm?_length {ws ws' : List (List (List Char))} {rest' : List Piece}
    (hlength : ws'.length ≤ ws.length) (hd : dropForm? ws ps = some rest)
    (hd' : dropForm? ws' ps = some rest') :
    rest.length + (ws.length - ws'.length) ≤ rest'.length := by
  induction ws generalizing ws' ps with
  | nil => cases ps <;> cases hd
  | cons word words ih =>
    cases ps with
    | nil => cases hd
    | cons p ps =>
      cases ws' with
      | nil => cases hd'
      | cons word' words' =>
        simp only [List.length_cons, Nat.add_le_add_iff_right] at hlength
        rw [List.length_cons, List.length_cons, Nat.add_sub_add_right]
        rw [dropForm?_cons] at hd hd'
        split_ifs at hd with hp hnil
        · obtain rfl : words = [] := by simpa using hnil
          obtain rfl : words' = [] := by simpa using hlength
          split_ifs at hd'
          rw [Option.some.inj (hd.symm.trans hd')]
          simp
        · split_ifs at hd' with hp' hnil'
          · obtain rfl := Option.some.inj hd'
            have hwords := dropForm?_length_words hd
            rcases afterGap_suffix ps with hgap | ⟨gap, hgap, -⟩
            · rw [hgap, dropForm?_nil] at hd
              cases hd
            · have hlength := congrArg List.length hgap
              rw [List.length_append] at hlength
              omega
          · exact ih hlength hd hd'

/-- The form `r'` reaches at least as far as `r` wherever both stand. -/
def Rewrite.Outreaches (r' r : Rewrite) : Prop :=
  Diverge r'.words r.words ∨ r.words.length ≤ r'.words.length ∧ r.kept = none

instance (r' r : Rewrite) : Decidable (r'.Outreaches r) := inferInstanceAs (Decidable (_ ∨ _))

lemma Rewrite.Outreaches.length {r' : Rewrite} (h : r'.Outreaches r) {rep' rest' : List Piece}
    (hat' : r'.at? ps = some (rep', rest')) (hat : r.at? ps = some (rep, rest)) :
    rest'.length + (r'.words.length - r.words.length) ≤ rest.length := by
  obtain ⟨after, hdrop, hreplace⟩ := of_at? hat
  obtain ⟨after', hdrop', hreplace'⟩ := of_at? hat'
  rcases h with h | ⟨hlength, hkept⟩
  · exact (h.not_both hdrop' hdrop).elim
  · have hrest : rest = after := by
      unfold replace afterKept? at hreplace
      rw [hkept] at hreplace
      exact (congrArg Prod.snd hreplace).symm
    have hrest' : rest'.length ≤ after'.length := by
      unfold replace at hreplace'
      rcases hk : r'.afterKept? after' with _ | rest''
      · rw [hk] at hreplace'
        cases hreplace'
        exact le_rfl
      · rw [hk] at hreplace'
        cases hreplace'
        obtain ⟨kept, rfl, -⟩ := afterKept?_eq_some hk
        simp
    have hafter := dropForm?_length hlength hdrop' hdrop
    rw [hrest]
    omega

lemma rewrites_outreach : rewrites.Pairwise Rewrite.Outreaches := by
  decide

lemma firstAt?_of_at? {R : Rewrite → Rewrite → Prop} (hf : forms.Pairwise R) (hr : r ∈ forms)
    {x : List Piece × List Piece} (hat : r.at? ps = some x) :
    ∃ r' y, firstAt? forms ps = some y ∧ r'.at? ps = some y ∧ (r' = r ∨ R r' r) := by
  unfold firstAt?
  induction forms with
  | nil => cases hr
  | cons r' forms ih =>
    obtain ⟨hhead, htail⟩ := List.pairwise_cons.mp hf
    rw [List.findSome?_cons]
    rcases hat' : r'.at? ps with _ | y
    · have hmem : r ∈ forms := (List.mem_cons.mp hr).resolve_left fun heq => by
        rw [heq, hat'] at hat
        cases hat
      exact ih htail hmem
    · refine ⟨r', y, rfl, hat', ?_⟩
      exact (List.mem_cons.mp hr).imp Eq.symm (hhead r)

/-- **The longest form**: where several forms stand, the first of them reaches furthest. -/
lemma firstAt?_longest (hf : forms.Pairwise Rewrite.Outreaches) (hr : r ∈ forms)
    (hat : r.at? ps = some (rep, rest)) :
    ∃ rep' rest', firstAt? forms ps = some (rep', rest') ∧ rest'.length ≤ rest.length := by
  obtain ⟨r', ⟨rep', rest'⟩, hfirst, hat', rfl | h⟩ := firstAt?_of_at? hf hr hat
  · obtain ⟨-, rfl⟩ := Prod.mk.inj (Option.some.inj (hat'.symm.trans hat))
    exact ⟨rep', rest', hfirst, le_rfl⟩
  · have hlength := h.length hat' hat
    exact ⟨rep', rest', hfirst, by omega⟩

end TableSchema.Source
