import TableSchema.Proofs.Visit

/-!
Steps that read.

The steps that read a type change neither the table nor the name and the nullability of the column,
and they would do the same beside any other table. What only clauses write, they neither look at nor
touch. They fail for reasons that lie in the type. Steps of this kind can be done one after the
other: see `Reads.bind_of`.
-/

namespace TableSchema

namespace Resolver

/-- The state in which a step ends, failed or not. -/
def ending {α : Type} : EStateM.Result ResolveError Resolver α → Resolver
  | .ok _ s | .error _ s => s

/-- A state as it would be beside another table, which its diagnostics name. -/
def beside (table : Option TableDraft) (r : Resolver) : Resolver :=
  { r with
    table
    diagnostics := r.diagnostics.map fun d => { d with table := table.map TableDraft.id } }

def endBeside {α : Type} (table : Option TableDraft) :
    EStateM.Result ResolveError Resolver α → EStateM.Result ResolveError Resolver α
  | .ok a s => .ok a (s.beside table)
  | .error e s => .error e (s.beside table)

/-- What a state holds that only clauses write, and the default still to be decided. -/
structure Clausal where
  nullability : Nullability
  comment : Option String
  hasDefault : Bool
  defaultValue : Option String
  pending : Option DefaultDecision

def clausal (r : Resolver) : Clausal where
  nullability := r.column.nullability
  comment := r.column.comment
  hasDefault := r.column.hasDefault
  defaultValue := r.column.defaultValue
  pending := r.pending

/-- A state as it would be had other clauses come before. -/
def after (k : Clausal) (r : Resolver) : Resolver :=
  { r with
    pending := k.pending
    column := { r.column with
      nullability := k.nullability
      comment := k.comment
      hasDefault := k.hasDefault
      defaultValue := k.defaultValue } }

def endAfter {α : Type} (k : Clausal) :
    EStateM.Result ResolveError Resolver α → EStateM.Result ResolveError Resolver α
  | .ok a s => .ok a (s.after k)
  | .error e s => .error e (s.after k)

lemma after_clausal (r : Resolver) : r.after r.clausal = r := rfl

structure Keeps (r s : Resolver) : Prop where
  name : s.column.name = r.column.name
  nullability : s.column.nullability = r.column.nullability
  table : s.table = r.table
  pending : s.pending = r.pending

lemma Keeps.refl (r : Resolver) : Keeps r r := ⟨rfl, rfl, rfl, rfl⟩

lemma Keeps.trans {r s t : Resolver} (h : Keeps r s) (h' : Keeps s t) : Keeps r t :=
  ⟨h'.name.trans h.name, h'.nullability.trans h.nullability, h'.table.trans h.table,
    h'.pending.trans h.pending⟩

/-- What is known of a column after a type, where `serial` says whether it is a serial one. -/
structure Marks (serial : Bool) (r s : Resolver) : Prop where
  observed : s.observed =
    if serial ∧ r.observed = .unspecified then .notNull else r.observed
  promotable : s.promotable = (serial || r.promotable)

lemma Marks.refl (r : Resolver) : Marks false r r := ⟨by simp, rfl⟩

lemma Marks.trans {b b' : Bool} {r s t : Resolver} (h : Marks b r s) (h' : Marks b' s t) :
    Marks (b || b') r t := by
  refine ⟨?_, ?_⟩
  · rw [h'.observed, h.observed]
    cases b <;> cases b' <;> simp
    split_ifs <;> simp_all
  · rw [h'.promotable, h.promotable, Bool.or_comm b b', Bool.or_assoc]

/-- A step that reads a part of a type. It fails exactly if `fails`. -/
structure Reads {α : Type} (fails : Prop) (serial : Bool) (x : Resolving α) : Prop where
  keeps : ∀ r, Keeps r (ending (x r))
  marks : ∀ {r a s}, x r = .ok a s → Marks serial r s
  beside : ∀ table r, x (r.beside table) = endBeside table (x r)
  after : ∀ k r, x (r.after k) = endAfter k (x r)
  fails_iff : ∀ r, (∃ e s, x r = .error e s) ↔ fails
  fault : ∀ {r e s}, x r = .error e s → e.kind = .grammarInvariant

namespace Reads

variable {α β : Type} {P Q R : Prop} {b b' : Bool} {x : Resolving α} {f : α → Resolving β}

lemma congr (h : Reads P b x) (hP : P ↔ Q) : Reads Q b x := propext hP ▸ h

lemma clausal_ending (h : Reads P b x) (r : Resolver) : (ending (x r)).clausal = r.clausal := by
  have ha := h.after r.clausal r
  rw [after_clausal] at ha
  have hend : ending (x r) = (ending (x r)).after r.clausal := by
    rcases hr : x r with ⟨a, s⟩ | ⟨e, s⟩
    · rw [hr] at ha
      exact (EStateM.Result.ok.inj ha).2
    · rw [hr] at ha
      exact (EStateM.Result.error.inj ha).2
  calc (ending (x r)).clausal = ((ending (x r)).after r.clausal).clausal := congrArg clausal hend
    _ = r.clausal := rfl

lemma of_pure (a : α) : Reads False false (pure a : Resolving α) where
  keeps := Keeps.refl
  marks h := by
    cases h
    exact Marks.refl _
  beside _ _ := rfl
  after _ _ := rfl
  fails_iff r := ⟨fun ⟨_, _, h⟩ => (by cases h), False.elim⟩
  fault h := by cases h

lemma of_modify {f : Resolver → Resolver} (hk : ∀ r, Keeps r (f r)) (hm : ∀ r, Marks b r (f r))
    (hb : ∀ table r, f (r.beside table) = (f r).beside table)
    (ha : ∀ k r, f (r.after k) = (f r).after k) :
    Reads False b (modify f : Resolving Unit) where
  keeps := hk
  marks h := by
    cases h
    exact hm _
  beside table r := by
    rw [modify_apply, modify_apply, hb]
    rfl
  after k r := by
    rw [modify_apply, modify_apply, ha]
    rfl
  fails_iff r := ⟨fun ⟨_, _, h⟩ => (by cases h), False.elim⟩
  fault h := by cases h

lemma of_onColumn {f : Column → Column} (hn : ∀ c, (f c).name = c.name)
    (ha : ∀ (k : Clausal) (r : Resolver), onColumn f (r.after k) = (onColumn f r).after k) :
    Reads False false (modify (onColumn f) : Resolving Unit) := by
  refine .of_modify (fun r => ⟨hn _, ?_, rfl, rfl⟩) (fun r => ⟨(Marks.refl r).observed, rfl⟩)
    (fun _ _ => rfl) ha
  exact congrArg (fun s => s.column.nullability) (ha r.clausal r)

lemma of_throw {e : String → ResolveError} (he : ∀ name, (e name).kind = .grammarInvariant) :
    Reads True b (do throw (e (← get).column.name) : Resolving α) where
  keeps := Keeps.refl
  marks h := by cases h
  beside _ _ := rfl
  after _ _ := rfl
  fails_iff r := ⟨fun _ => trivial, fun _ => ⟨_, _, rfl⟩⟩
  fault h := by
    cases h
    exact he _

/-- One step and then another, whose failures may go by what the first one returns. -/
lemma bind_of {Q : α → Prop} (hx : Reads P b x) (hf : ∀ a, Reads (Q a) b' (f a))
    (hQ : ∀ {r a s}, x r = .ok a s → (Q a ↔ R)) : Reads (P ∨ R) (b || b') (x >>= f) where
  keeps r := by
    have hk := hx.keeps r
    rcases h : x r with ⟨a, s⟩ | ⟨e, s⟩
    · rw [h] at hk
      rw [bind_ok h]
      exact hk.trans ((hf a).keeps s)
    · rw [bind_error h]
      rwa [h] at hk
  marks {r c t} h := by
    rcases hr : x r with ⟨a, s⟩ | ⟨e, s⟩
    · rw [bind_ok hr] at h
      exact (hx.marks hr).trans ((hf a).marks h)
    · rw [bind_error hr] at h
      cases h
  beside table r := by
    have hb := hx.beside table r
    rcases h : x r with ⟨a, s⟩ | ⟨e, s⟩
    · rw [h] at hb
      rw [bind_ok h, bind_ok hb, (hf a).beside]
    · rw [h] at hb
      rw [bind_error h, bind_error hb]
      rfl
  after k r := by
    have ha := hx.after k r
    rcases h : x r with ⟨a, s⟩ | ⟨e, s⟩
    · rw [h] at ha
      rw [bind_ok h, bind_ok ha, (hf a).after]
    · rw [h] at ha
      rw [bind_error h, bind_error ha]
      rfl
  fails_iff r := by
    have hP := hx.fails_iff r
    rcases h : x r with ⟨a, s⟩ | ⟨e, s⟩
    · -- the first step has not failed, so what it returned decides
      have hno : ¬ P := fun p => by
        obtain ⟨_, _, he⟩ := hP.mpr p
        rw [h] at he
        cases he
      rw [bind_ok h, (hf a).fails_iff, hQ h]
      simp [hno]
    · rw [bind_error h]
      exact ⟨fun _ => .inl (hP.mp ⟨e, s, h⟩), fun _ => ⟨e, s, rfl⟩⟩
  fault {r e t} h := by
    rcases hr : x r with ⟨a, s⟩ | ⟨e', s⟩
    · rw [bind_ok hr] at h
      exact (hf a).fault h
    · rw [bind_error hr] at h
      cases h
      exact hx.fault hr

lemma bind (hx : Reads P false x) (hf : ∀ a, Reads Q b (f a)) : Reads (P ∨ Q) b (x >>= f) :=
  hx.bind_of hf fun _ => Iff.rfl

lemma bind_plain (hx : Reads P b x) (hf : ∀ a, Reads Q false (f a)) : Reads (P ∨ Q) b (x >>= f) :=
  Bool.or_false b ▸ hx.bind_of hf fun _ => Iff.rfl

end Reads

end Resolver
end TableSchema
