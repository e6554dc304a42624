import TableSchema.Proofs.Json.RoundTrip
import TableSchema.Proofs.Log

/-!
Marks in printed values.

The written form of a value holds a mark exactly where one of its texts does, for no mark can begin
in one text and end outside. Removing the marks from the written form is therefore the same as
removing them from the texts and then writing. Main statement: `cleans_print`.
-/

namespace TableSchema.Json

open Log (removeMarks unmarked isMarked Cleans)

/-! ### The texts of a value -/

mutual

/-- The texts of a value, the keys of its objects among them. -/
def texts : Json → List String
  | null | bool _ | number _ => []
  | text s => [s]
  | array items => itemTexts items
  | object members => memberTexts members

def itemTexts : List Json → List String
  | [] => []
  | v :: items => texts v ++ itemTexts items

def memberTexts : List (String × Json) → List String
  | [] => []
  | (key, v) :: members => key :: texts v ++ memberTexts members

end

mutual

def mapTexts (f : String → String) : Json → Json
  | null => null
  | bool b => bool b
  | number n => number n
  | text s => text (f s)
  | array items => array (mapItems f items)
  | object members => object (mapMembers f members)

def mapItems (f : String → String) : List Json → List Json
  | [] => []
  | v :: items => mapTexts f v :: mapItems f items

def mapMembers (f : String → String) : List (String × Json) → List (String × Json)
  | [] => []
  | (key, v) :: members => (f key, mapTexts f v) :: mapMembers f members

end

lemma itemTexts_eq (items : List Json) : itemTexts items = items.flatMap texts := by
  induction items with
  | nil => rfl
  | cons v items ih => rw [itemTexts, ih, List.flatMap_cons]

lemma memberTexts_eq (members : List (String × Json)) :
    memberTexts members = members.flatMap fun m => m.1 :: texts m.2 := by
  induction members with
  | nil => rfl
  | cons m members ih => rw [memberTexts, ih, List.flatMap_cons]

variable (f : String → String)

lemma mapItems_eq (items : List Json) : mapItems f items = items.map (mapTexts f) := by
  induction items with
  | nil => rfl
  | cons v items ih => rw [mapItems, ih, List.map_cons]

lemma mapMembers_eq (members : List (String × Json)) :
    mapMembers f members = members.map fun m => (f m.1, mapTexts f m.2) := by
  induction members with
  | nil => rfl
  | cons m members ih => rw [mapMembers, ih, List.map_cons]

/-- Induction on values: what holds of all items of an array holds of the array, and likewise for
the members of an object. -/
@[elab_as_elim]
lemma induction {P : Json → Prop} (null : P null) (bool : ∀ b, P (bool b))
    (number : ∀ n, P (number n)) (text : ∀ s, P (text s))
    (array : ∀ items, (∀ v ∈ items, P v) → P (array items))
    (object : ∀ members : List (String × Json), (∀ m ∈ members, P m.2) → P (object members))
    (v : Json) : P v := by
  refine @Json.rec P (fun items => ∀ v ∈ items, P v) (fun members => ∀ m ∈ members, P m.2)
    (fun m => P m.2) null bool number text array object ?_ ?_ ?_ ?_ ?_ v
  · simp
  · exact fun _ _ h hs => List.forall_mem_cons.mpr ⟨h, hs⟩
  · simp
  · exact fun _ _ h hs => List.forall_mem_cons.mpr ⟨h, hs⟩
  · exact fun _ _ h => h

lemma map_eq_self_iff {α : Type} (g : α → α) (l : List α) : l.map g = l ↔ ∀ x ∈ l, g x = x := by
  have h := List.map_inj_left (f := g) (g := id) (l := l)
  rwa [List.map_id] at h

lemma mapTexts_eq_self_iff (v : Json) : mapTexts f v = v ↔ ∀ s ∈ texts v, f s = s := by
  induction v using Json.induction with
  | null | bool | number | text => simp [mapTexts, texts]
  | array items ih =>
    rw [mapTexts, mapItems_eq, array.injEq, map_eq_self_iff, texts, itemTexts_eq,
      List.forall_mem_flatMap]
    exact forall₂_congr ih
  | object members ih =>
    rw [mapTexts, mapMembers_eq, object.injEq, map_eq_self_iff, texts, memberTexts_eq,
      List.forall_mem_flatMap]
    refine forall₂_congr fun m hm => ?_
    rw [List.forall_mem_cons, ← ih m hm, Prod.ext_iff]

/-! ### Texts -/

lemma not_mem_escape {c : Char} (h : c ≠ '[') : '[' ∉ escape c := by
  have hdigit : ∀ n < 16, '[' ≠ hexDigit n := by decide
  unfold escape
  by_cases hcontrol : c.toNat < 0x20
  · have hhigh := hdigit (c.toNat / 16) (by omega)
    have hlow := hdigit (c.toNat % 16) (by omega)
    split_ifs <;> simp [hhigh, hlow]
  · split_ifs <;> simp [Ne.symm h]

/-- A character of a text shows in its written form, unless it is one that is escaped. -/
lemma escaped_eq_cons {cs rest ys : List Char} {x : Char} (hquote : x ≠ '"') (hslash : x ≠ '\\')
    (h : cs.flatMap escape ++ '"' :: rest = x :: ys) :
    ∃ cs', cs = x :: cs' ∧ cs'.flatMap escape ++ '"' :: rest = ys := by
  cases cs with
  | nil => exact absurd (List.cons.inj h).1.symm hquote
  | cons c cs =>
    rw [List.flatMap_cons, List.append_assoc] at h
    rcases escape_cases c with ⟨he, -⟩ | ⟨code, he, -⟩
    · rw [he] at h
      obtain ⟨rfl, hys⟩ := List.cons.inj h
      exact ⟨cs, rfl, hys⟩
    · rw [he] at h
      exact absurd (List.cons.inj h).1.symm hslash

lemma removeMarks_escape {c : Char} {cs rest : List Char}
    (h : ∀ ds, c :: cs ≠ '[' :: '!' :: 'n' :: ']' :: ds) :
    removeMarks (escape c ++ (cs.flatMap escape ++ '"' :: rest)) =
      (escape c ++ (removeMarks (cs.flatMap escape ++ '"' :: rest)).1,
        (removeMarks (cs.flatMap escape ++ '"' :: rest)).2) := by
  by_cases hc : c = '['
  · subst hc
    -- a mark in the written form would be one in the text
    refine Log.removeMarks_cons fun ds e => ?_
    obtain ⟨cs, rfl, h₁⟩ := escaped_eq_cons (by decide) (by decide) (List.cons.inj e).2
    obtain ⟨cs, rfl, h₂⟩ := escaped_eq_cons (by decide) (by decide) h₁
    obtain ⟨cs, rfl, -⟩ := escaped_eq_cons (by decide) (by decide) h₂
    exact h cs rfl
  · rw [Log.cleans_plain (not_mem_escape hc), Bool.false_or]

lemma removeMarks_escaped (cs rest : List Char) :
    removeMarks (cs.flatMap escape ++ '"' :: rest) =
      ((removeMarks cs).1.flatMap escape ++ '"' :: (removeMarks rest).1,
        (removeMarks cs).2 || (removeMarks rest).2) := by
  induction cs using Log.removeMarks.induct with
  | case1 cs ih =>
    have hescape : ('[' :: '!' :: 'n' :: ']' :: cs).flatMap escape =
        '[' :: '!' :: 'n' :: ']' :: cs.flatMap escape := rfl
    rw [Log.removeMarks_mark, hescape]
    simp only [List.cons_append]
    rw [Log.removeMarks_mark, ih, Bool.true_or]
  | case2 c cs hno ih =>
    have hmark : ∀ ds, c :: cs ≠ '[' :: '!' :: 'n' :: ']' :: ds := fun ds e => by
      cases e
      exact hno ds rfl rfl
    rw [List.flatMap_cons, List.append_assoc, removeMarks_escape hmark, ih,
      Log.removeMarks_cons hmark, List.flatMap_cons, List.append_assoc]
  | case3 =>
    exact Log.removeMarks_of_ne (by decide) rest

lemma cleans_quoted (s : String) : Cleans (quoted s) (quoted (unmarked s)) (isMarked s) := by
  intro rest
  have happend : ∀ cs rest : List Char, '"' :: cs.flatMap escape ++ ['"'] ++ rest =
      '"' :: (cs.flatMap escape ++ '"' :: rest) := fun cs rest => by simp
  rw [quoted, happend, Log.removeMarks_of_ne (by decide), removeMarks_escaped, quoted, unmarked,
    String.toList_ofList, happend]
  rfl

/-! ### Values -/

variable (layout : Layout) (level : Nat)

lemma not_mem_of_blank {b : List Char} (hb : Blank b) : '[' ∉ b := fun h => by
  have hspace := hb _ h
  cases hspace

lemma not_mem_separator : '[' ∉ layout.separator level := by
  obtain ⟨gap, hgap, h⟩ := separator_eq layout level
  rw [h, List.mem_cons, not_or]
  exact ⟨by decide, not_mem_of_blank hgap⟩

section Lists

variable {α : Type} {f g : α → List Char} {b : α → Bool} {l : List α}

lemma cleans_joined (h : ∀ x ∈ l, Cleans (f x) (g x) (b x)) :
    Cleans (joined layout level (l.map f)) (joined layout level (l.map g)) (l.any b) := by
  induction l with
  | nil => exact Log.cleans_plain (by simp [joined])
  | cons x l ih =>
    have hx := h x List.mem_cons_self
    cases l with
    | nil => simpa [joined_singleton] using hx
    | cons y l =>
      have hrest := ih fun z hz => h z (List.mem_cons_of_mem _ hz)
      have hall := (hx.append (Log.cleans_plain (not_mem_separator layout level))).append hrest
      simpa only [List.map_cons, joined_cons_cons, List.any_cons, Bool.or_false] using hall

lemma cleans_closed (h : ∀ x ∈ l, Cleans (f x) (g x) (b x)) {closing : Char}
    (hclosing : closing ≠ '[') :
    Cleans (closed layout level closing (l.map f)) (closed layout level closing (l.map g))
      (l.any b) := by
  have hplain : '[' ∉ [closing] := by simpa using Ne.symm hclosing
  cases l with
  | nil => exact Log.cleans_plain hplain
  | cons x l =>
    have hopen := Log.cleans_plain (not_mem_of_blank (blank_lineBreak layout (level + 1)))
    have hend := Log.cleans_plain (not_mem_of_blank (blank_lineBreak layout level))
    have hall := hopen.append ((cleans_joined layout (level + 1) h).append
      (hend.append (Log.cleans_plain hplain)))
    rw [Bool.or_false, Bool.or_false, Bool.false_or] at hall
    exact hall

end Lists

/-- What follows the bracket of an array does not make a mark of it. -/
lemma head?_closed (items : List Json) :
    (closed layout level ']' (items.map (print layout (level + 1)))).head? ≠ some '!' := by
  have happend : ∀ b cs, Blank b → Opens '!' cs → (b ++ cs).head? ≠ some '!' := by
    rintro b _ hb ⟨c, cs, rfl, -, hc⟩ h
    cases b with
    | nil => exact hc (Option.some.inj h)
    | cons d b =>
      have hspace := hb d List.mem_cons_self
      rw [Option.some.inj h] at hspace
      cases hspace
  cases items with
  | nil =>
    show [']'].head? ≠ some '!'
    decide
  | cons v items =>
    have hmark : '!' ∈ [']', '!'] := by decide
    have hopens := opens_items layout (level + 1) hmark v items
    exact happend _ _ (blank_lineBreak layout (level + 1)) (hopens.append _)

lemma closed_ne_nil (closing : Char) (texts : List (List Char)) :
    closed layout level closing texts ≠ [] := by
  unfold closed
  split_ifs <;> simp

/-- **Marks in a written value** are the marks in its texts. -/
theorem cleans_print (v : Json) (level : Nat) :
    Cleans (print layout level v) (print layout level (v.mapTexts unmarked))
      (v.texts.any isMarked) := by
  induction v using Json.induction generalizing level with
  | null =>
    rw [mapTexts, print]
    exact Log.cleans_plain (by decide)
  | bool b =>
    rw [mapTexts]
    cases b <;> rw [print] <;> exact Log.cleans_plain (by decide)
  | number n =>
    have hno : '[' ∉ (toString n).toList := fun h => by
      rcases mem_toString n _ h with h | h <;> cases h
    rw [mapTexts, print]
    exact Log.cleans_plain hno
  | text s =>
    rw [mapTexts, print, print, texts, List.any_cons, List.any_nil, Bool.or_false]
    exact cleans_quoted s
  | array items ih =>
    have hclosing : ']' ≠ '[' := by decide
    have hitems := cleans_closed layout level (fun v hv => ih v hv (level + 1)) hclosing
    rw [mapTexts, mapItems_eq, print, print, printItems_eq, printItems_eq, enclose_eq, enclose_eq,
      List.map_map, texts, itemTexts_eq, List.any_flatMap]
    exact hitems.bracket (closed_ne_nil layout level ']' _) (head?_closed layout level items)
  | object members ih =>
    have hmember : ∀ m ∈ members, Cleans (printMember layout (level + 1) m)
        (printMember layout (level + 1) (unmarked m.1, m.2.mapTexts unmarked))
        ((m.1 :: m.2.texts).any isMarked) := fun m hm => by
      have hcolon : '[' ∉ [':', ' '] := by decide
      have hall := ((cleans_quoted m.1).append (Log.cleans_plain hcolon)).append
        (ih m hm (level + 1))
      rw [Bool.or_false] at hall
      exact hall
    have hopen : '[' ∉ ['\x7b'] := by decide
    have hclosing : '\x7d' ≠ '[' := by decide
    have hall := (Log.cleans_plain hopen).append (cleans_closed layout level hmember hclosing)
    rw [mapTexts, mapMembers_eq, print, print, printMembers_eq, printMembers_eq, enclose_eq,
      enclose_eq, List.map_map, texts, memberTexts_eq, List.any_flatMap]
    exact hall

end TableSchema.Json
