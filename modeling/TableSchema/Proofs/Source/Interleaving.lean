import TableSchema.Proofs.Source.Regions

/-!
Plain texts and regions in turn.

A statement that is made of plain texts with complete regions between them is rewritten in its plain
texts, each on its own, and its regions are copied. A region is found as it was put there, unless
another one of its kind follows at once: the two quotes that meet then count as a doubled quote, and
the regions are found as a single one. Both are copied, so this does not show. Main statement:
`normalize_interleaved`.
-/

namespace TableSchema.Source

open Text

variable {q c : Char} {cs ds body rest : List Char} {n : Nat}

/-! ### Complete regions -/

/-- What a pair of quotes encloses: other characters, quotes written twice and, where a backslash
escapes, a backslash with any character but a line break after it. -/
inductive Enclosed (q : Char) : List Char → Prop
  | nil : Enclosed q []
  | plain {c : Char} {cs : List Char} (hq : c ≠ q) (he : ¬ Escapes q c) (h : Enclosed q cs) :
    Enclosed q (c :: cs)
  | escaped {b c : Char} {cs : List Char} (he : Escapes q b) (hc : c ≠ '\n')
      (h : Enclosed q cs) : Enclosed q (b :: c :: cs)
  | doubled {cs : List Char} (h : Enclosed q cs) : Enclosed q (q :: q :: cs)

structure Region where
  quote : Char
  body : List Char
  isQuote : isQuote quote = true
  enclosed : Enclosed quote body

def Region.text (r : Region) : List Char := r.quote :: (r.body ++ [r.quote])

lemma enclosed_of_not_mem (hq : q ∉ cs) (hb : '\\' ∉ cs) : Enclosed q cs := by
  induction cs with
  | nil => exact .nil
  | cons c cs ih =>
    rw [List.mem_cons, not_or] at hq hb
    exact .plain (Ne.symm hq.1) (fun he => hb.1 he.1.symm) (ih hq.2 hb.2)

/-- Bodies of one kind with a doubled quote between them. -/
lemma Enclosed.append (h : Enclosed q cs) (h' : Enclosed q ds) :
    Enclosed q (cs ++ q :: q :: ds) := by
  induction h with
  | nil => exact .doubled h'
  | plain hq he _ ih => exact .plain hq he ih
  | escaped he hc _ ih => exact .escaped he hc ih
  | doubled _ ih => exact .doubled ih

lemma closing?_enclosed (hq : isQuote q = true) (h : Enclosed q cs) (hn : closing? q ds = some n) :
    closing? q (cs ++ ds) = some (cs.length + n) := by
  induction h with
  | nil => simpa using hn
  | plain hne he _ ih =>
    rw [List.cons_append, closing?_step hne he, ih, Option.map_some, List.length_cons]
    congr 1
    omega
  | @escaped b c cs he hc _ ih =>
    have hne : b ≠ q := by
      rintro rfl
      rw [he.1] at hq
      cases hq
    rw [List.cons_append, List.cons_append, closing?_escape hne he, if_neg hc, ih,
      Option.map_some, List.length_cons, List.length_cons]
    congr 1
    omega
  | doubled _ ih =>
    rw [List.cons_append, List.cons_append, closing?_double, ih, Option.elim_some,
      List.length_cons, List.length_cons]
    congr 1
    omega

/-- A region ends with its closing quote if no other quote of its kind follows. -/
lemma Region.closing? (r : Region) (h : rest.head? ≠ some r.quote) :
    Source.closing? r.quote (r.body ++ r.quote :: rest) = some (r.body.length + 1) :=
  closing?_enclosed r.isQuote r.enclosed (closing?_stop h)

lemma Region.segments (r : Region) (h : rest.head? ≠ some r.quote) :
    Source.segments (r.text ++ rest) = .quoted r.text :: Source.segments rest := by
  have htext : r.text ++ rest = r.quote :: (r.body ++ r.quote :: rest) := by simp [text]
  rw [htext, segments_region r.isQuote (r.closing? h)]
  rfl

lemma Region.segments_ne_plain (r : Region) (rest p : List Char) (ss : List Segment) :
    Source.segments (r.text ++ rest) ≠ .plain p :: ss := by
  have hstart : ∃ n, Source.closing? r.quote (r.quote :: rest) = some n := by
    by_cases h : rest.head? = some r.quote
    · obtain ⟨rest, rfl⟩ := List.head?_eq_some_iff.mp h
      exact ⟨_, closing?_double rest⟩
    · exact ⟨_, closing?_stop h⟩
  obtain ⟨n, hn⟩ := hstart
  have hclosing := closing?_enclosed r.isQuote r.enclosed hn
  obtain ⟨body, after, hsplit, hlength⟩ := closing?_eq_some hclosing
  rw [hsplit, hlength] at hclosing
  have htext : r.text ++ rest = r.quote :: (r.body ++ r.quote :: rest) := by simp [text]
  rw [htext, hsplit, segments_region r.isQuote hclosing]
  simp

/-- A region and one of its kind that follows at once, as a single region. -/
def Region.merge (r r' : Region) (h : r'.quote = r.quote) : Region where
  quote := r.quote
  body := r.body ++ r.quote :: r.quote :: r'.body
  isQuote := r.isQuote
  enclosed := r.enclosed.append (h ▸ r'.enclosed)

lemma Region.text_merge {r r' : Region} (h : r'.quote = r.quote) :
    (r.merge r' h).text = r.text ++ r'.text := by
  simp [merge, text, h]

/-! ### Rewriting -/

/-- Regions, each with the plain text after it. -/
def interleaved (parts : List (Region × List Char)) : List Char :=
  parts.flatMap fun p => p.1.text ++ p.2

def interleavedRewritten (parts : List (Region × List Char)) : List Char :=
  parts.flatMap fun p => p.1.text ++ rewritePlain p.2

lemma rewrite_region (r : Region) (h : rest.head? ≠ some r.quote) :
    rewrite (r.text ++ rest) = r.text ++ rewrite rest := by
  rw [rewrite, r.segments h]
  rfl

/-- Plain text before a region, or before nothing, is rewritten on its own. -/
lemma rewrite_append_interleaved (hcs : cs.any isQuote = false)
    (parts : List (Region × List Char)) :
    rewrite (cs ++ interleaved parts) = rewritePlain cs ++ rewrite (interleaved parts) := by
  rw [rewrite, segments_plain hcs]
  refine flatMap_foldr_consPlain fun p ss => ?_
  cases parts with
  | nil => simp [interleaved, segments, segmentsFrom]
  | cons part parts =>
    have hcons : interleaved (part :: parts) =
        part.1.text ++ (part.2 ++ interleaved parts) := by simp [interleaved]
    rw [hcons]
    exact part.1.segments_ne_plain _ p ss

lemma rewrite_interleaved (parts : List (Region × List Char))
    (h : ∀ p ∈ parts, p.2.any isQuote = false) :
    rewrite (interleaved parts) = interleavedRewritten parts := by
  induction hn : parts.length using Nat.strongRecOn generalizing parts with
  | ind n ih =>
    rcases parts with _ | ⟨⟨r, cs⟩, parts⟩
    · rfl
    have hcs : cs.any isQuote = false := h (r, cs) List.mem_cons_self
    have hparts := fun p hp => h p (List.mem_cons_of_mem _ hp)
    have hcons : interleaved ((r, cs) :: parts) = r.text ++ (cs ++ interleaved parts) := by
      simp [interleaved]
    by_cases hhead : (cs ++ interleaved parts).head? = some r.quote
    · -- another region of the kind follows at once, with which this one is read
      obtain rfl : cs = [] := by
        rcases cs with _ | ⟨c, cs⟩
        · rfl
        · obtain rfl : c = r.quote := Option.some.inj hhead
          simp [r.isQuote] at hcs
      rcases parts with _ | ⟨⟨r', cs'⟩, parts⟩
      · cases hhead
      have hkind : r'.quote = r.quote := Option.some.inj hhead
      have hmerged := ih (parts.length + 1) (by rw [← hn]; simp)
        ((r.merge r' hkind, cs') :: parts) (List.forall_mem_cons.mpr
          ⟨hparts (r', cs') List.mem_cons_self, fun p hp => hparts p (List.mem_cons_of_mem _ hp)⟩)
        rfl
      have hnil : rewritePlain [] = [] := by decide
      simpa [interleaved, interleavedRewritten, Region.text_merge, hnil] using hmerged
    · have hrest := ih parts.length (by rw [← hn]; simp) parts hparts rfl
      rw [hcons, rewrite_region r hhead, rewrite_append_interleaved hcs, hrest]
      simp [interleavedRewritten]

/-- **Plain texts and regions in turn**: each plain text is rewritten as if it stood by itself, and
the regions between them are copied. -/
theorem normalize_interleaved (u : String) (parts : List (Region × String))
    (hu : u.toList.any isQuote = false) (h : ∀ p ∈ parts, p.2.toList.any isQuote = false) :
    normalize (u ++ String.join (parts.map fun p => String.ofList p.1.text ++ p.2)) =
      normalize u ++ String.join (parts.map fun p => String.ofList p.1.text ++ normalize p.2) := by
  have hnormalize : ∀ s : String, (normalize s).toList = rewrite s.toList := fun _ =>
    String.toList_ofList
  have hplain : ∀ p ∈ parts.map (Prod.map id String.toList), p.2.any isQuote = false :=
    List.forall_mem_map.mpr h
  have htext : (u ++ String.join (parts.map fun p => String.ofList p.1.text ++ p.2)).toList =
      u.toList ++ interleaved (parts.map (Prod.map id String.toList)) := by
    simp [interleaved, List.flatMap_map]
  have hrewritten : (String.join (parts.map fun p =>
      String.ofList p.1.text ++ normalize p.2)).toList =
        interleavedRewritten (parts.map (Prod.map id String.toList)) := by
    simp only [interleavedRewritten, String.toList_join, List.flatMap_map, String.toList_append,
      String.toList_ofList, hnormalize]
    exact List.flatMap_congr fun p hp => congrArg _ (rewrite_plain (h p hp))
  refine String.toList_inj.mp ?_
  rw [hnormalize, htext, rewrite_append_interleaved hu, rewrite_interleaved _ hplain,
    String.toList_append, hnormalize, rewrite_plain hu, hrewritten]

def escapedRegion : Region where
  quote := '\''
  body := "\\' ZEROFILL".toList
  isQuote := rfl
  enclosed := .escaped ⟨rfl, by decide⟩ (by decide) (enclosed_of_not_mem (by decide) (by decide))

def formRegion : Region where
  quote := '\''
  body := "LONG VARCHAR".toList
  isQuote := rfl
  enclosed := enclosed_of_not_mem (by decide) (by decide)

theorem normalize_interleaved_adjacent :
    let parts := [(escapedRegion, ""), (formRegion, " ZEROFILL")]
    (∀ p ∈ parts, p.2.toList.any isQuote = false) ∧
      normalize ("LONG VARCHAR " ++
          String.join (parts.map fun p => String.ofList p.1.text ++ p.2)) =
        "MEDIUMTEXT CHECK (cdc_ddl_long_varchar) '\\' ZEROFILL''LONG VARCHAR'  " ++
          "CHECK (cdc_ddl_zerofill)" := by
  intro parts
  have hplain : ∀ p ∈ parts, p.2.toList.any isQuote = false := by decide
  exact ⟨hplain, (normalize_interleaved "LONG VARCHAR " parts (by decide) hplain).trans
    (by decide +kernel)⟩

end TableSchema.Source
