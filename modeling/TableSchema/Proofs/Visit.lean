import TableSchema.Resolver
import TableSchema.Proofs.Draft

/-!
A visit of a definition, clause by clause.

Only the data type of a definition can make a visit fail. What follows is a fold: each clause turns
one state into the next, and leaving the definition turns the last state into the result. Main
statement: a resolution is the type, then the fold, then the column put into the table.
-/

namespace TableSchema

/-- A part that a resolver passes by. -/
def Node.Idle : Node → Prop
  | .definition _ | .constraint _ | .nullMark _ | .defaultText _ => False
  | _ => True

lemma Node.idle_of_mem_ofType {t : ColumnType} {n : Node} (h : n ∈ Node.ofType t) : n.Idle := by
  cases t with
  | dimensioned _ one two oneOrTwo _ _ =>
    simp only [Node.ofType, List.mem_append, Option.mem_toList, Option.map_eq_some_iff] at h
    rcases h with (⟨_, _, rfl⟩ | ⟨_, _, rfl⟩) | ⟨_, _, rfl⟩ <;> trivial
  | string | nationalString | nationalVarying =>
    simp only [Node.ofType, Option.mem_toList, Option.map_eq_some_iff] at h
    obtain ⟨_, _, rfl⟩ := h
    trivial
  | collection =>
    obtain rfl := List.mem_singleton.mp h
    trivial
  | longVarchar | simple => simp [Node.ofType] at h

namespace Resolver

variable (rules : Rules) (r : Resolver)

/-- The column as it stands, in the table and its primary key. -/
def keyed : Resolver :=
  { r with table := r.table.map fun t => { t.add r.column with primaryKey := [r.column.name] } }

/-- What one clause does from its start to its end. -/
def clause : Constraint → Resolver
  | .null mark => { r with observed := if mark.notNull then .notNull else .nullable }
  | .default value => r.notice (.defaultText value)
  | .autoIncrement => r.onColumn fun c => { c with autoIncremented := true, generated := true }
  | .primaryKey =>
    keyed { r with observed := .notNull, column := { r.column with nullability := .notNull } }
  | .uniqueKey => { r with promotable := true }
  | .comment (some literal) =>
    if rules.skipComments then r
    else r.onColumn fun c => { c with comment := some (Text.unquoted literal) }
  | .comment none => r
  | .serialDefault => r.makeSerial

def settleNull : Resolver :=
  if r.observed = .unspecified then r
  else r.onColumn fun c => { c with nullability := r.observed }

/-- A column that is to be unique, made the key of a table that has none. -/
def promote : Resolver :=
  if r.promotable && r.table.any (!·.hasPrimaryKey) then r.keyed else r

def settleDefault : Resolver :=
  match r.pending with
  | none => r
  | some d => { r with pending := none, column := (d.settle true r.observed r.column).2 }

def close : Resolver := r.settleNull.promote.settleDefault

variable {r} in
lemma bind_ok {α β : Type} {x : Resolving α} {a : α} {s : Resolver} (h : x r = .ok a s)
    (f : α → Resolving β) : (x >>= f) r = f a s := by
  simp only [bind, EStateM.bind, h]

variable {r} in
lemma bind_error {α β : Type} {x : Resolving α} {e : ResolveError} {s : Resolver}
    (h : x r = .error e s) (f : α → Resolving β) : (x >>= f) r = .error e s := by
  simp only [bind, EStateM.bind, h]

variable {r} in
lemma of_bind_ok {α β : Type} {x : Resolving α} {f : α → Resolving β} {b : β} {t : Resolver}
    (h : (x >>= f) r = .ok b t) : ∃ a s, x r = .ok a s ∧ f a s = .ok b t := by
  rcases hx : x r with ⟨a, s⟩ | ⟨e, s⟩
  · rw [bind_ok hx] at h
    exact ⟨a, s, rfl, h⟩
  · rw [bind_error hx] at h
    cases h

lemma modify_apply (f : Resolver → Resolver) : (modify f : Resolving Unit) r = .ok () (f r) := rfl

lemma get_apply : (get : Resolving Resolver) r = .ok r r := rfl

lemma makeKey_eq : makeKey r = .ok () r.keyed := by
  obtain ⟨column, table, _, _, _, _⟩ := r
  cases table with
  | none => rfl
  | some t =>
    unfold makeKey
    simp only [TableDraft.setKey_add]
    rfl

lemma notice_of_ne {n : Node} (h : ∀ t, n ≠ .defaultText t) : r.notice n = r := by
  unfold notice DefaultDecision.notice
  rcases hp : r.pending with _ | d
  · rfl
  · cases n with
    | defaultText t => exact absurd rfl (h t)
    | _ => simp [← hp]

lemma leaveDefinition_eq : leaveDefinition r = .ok () r.close := by
  unfold leaveDefinition close promote
  rw [bind_ok (modify_apply r _), bind_ok (get_apply _)]
  have h : (if r.observed = .unspecified then r
      else r.onColumn fun c => { c with nullability := r.observed }) = r.settleNull := rfl
  rw [h]
  dsimp only
  split_ifs
  · rw [bind_ok (makeKey_eq _)]
    rfl
  · rfl

/-! ### Runs -/

lemma run_cons (e : Event) (es : List Event) :
    run rules (e :: es) = handle rules e >>= fun _ => run rules es := by
  unfold run
  rw [List.forM_eq_forM, List.forM_cons]

lemma run_append (xs ys : List Event) :
    run rules (xs ++ ys) = run rules xs >>= fun _ => run rules ys := by
  unfold run
  simp only [List.forM_eq_forM, List.forM_append]

lemma run_visit (n : Node) :
    run rules n.visit = handle rules (.enter n) >>= fun _ =>
      run rules (n.children.flatMap Node.visit) >>= fun _ => handle rules (.leave n) := by
  have hlast : run rules [.leave n] = handle rules (.leave n) := by
    rw [run_cons]
    exact bind_pure_unit
  rw [Node.visit_eq, Node.visitWith, List.cons_append, run_cons, run_append, hlast]

variable {rules r} in
/-- Where a part is no definition, what it holds decides once it is entered. -/
lemma run_visit_ok {n : Node} {s s' : Resolver} (hn : ∀ d, n ≠ .definition d)
    (ha : apply rules n r = .ok () s)
    (hc : run rules (n.children.flatMap Node.visit) (s.notice n) = .ok () s') :
    run rules n.visit r = .ok () s' := by
  have henter : handle rules (.enter n) r = .ok () (s.notice n) := by
    show (apply rules n >>= fun _ => modify (notice n)) r = _
    rw [bind_ok ha, modify_apply]
  have hleave : handle rules (.leave n) s' = .ok () s' := by
    cases n with
    | definition d => exact absurd rfl (hn d)
    | _ => rfl
  rw [run_visit, bind_ok henter, bind_ok hc, hleave]

lemma run_visit_idle {n : Node} (h : n.Idle) (hc : n.children = []) :
    run rules n.visit r = .ok () r := by
  have ha : apply rules n r = .ok () r := by
    cases n with
    | definition | constraint | nullMark | defaultText => exact h.elim
    | _ => rfl
  refine run_visit_ok (by rintro d rfl; exact h) ha ?_
  rw [hc, notice_of_ne _ (by rintro t rfl; exact h)]
  rfl

/-- The data type was read when its definition was entered. -/
lemma run_visit_type (t : ColumnType) : run rules (Node.type t).visit r = .ok () r := by
  refine run_visit_ok (by simp) rfl ?_
  rw [notice_of_ne _ (by simp)]
  have h : ∀ ns : List Node, (∀ n ∈ ns, n ∈ Node.ofType t) →
      run rules (ns.flatMap Node.visit) r = .ok () r := by
    intro ns hns
    induction ns with
    | nil => rfl
    | cons n ns ih =>
      have hn := hns n List.mem_cons_self
      rw [List.flatMap_cons, run_append, bind_ok (run_visit_idle rules r
        (Node.idle_of_mem_ofType hn) (Node.children_of_mem_ofType hn))]
      exact ih fun n hn => hns n (List.mem_cons_of_mem _ hn)
  exact h _ fun _ hn => hn

lemma run_visit_constraint (c : Constraint) :
    run rules (Node.constraint c).visit r = .ok () (r.clause rules c) := by
  have hc : ∀ s : Resolver, s.notice (.constraint c) = s := fun s => s.notice_of_ne (by simp)
  cases c with
  | null mark =>
    refine run_visit_ok (by simp) rfl ?_
    rw [hc]
    show run rules ((Node.nullMark mark).visit ++ []) r = _
    rw [List.append_nil]
    refine run_visit_ok (by simp) rfl ?_
    rw [notice_of_ne _ (by simp)]
    rfl
  | default value =>
    refine run_visit_ok (by simp) rfl ?_
    rw [hc]
    show run rules ((Node.defaultText value).visit ++ []) r = _
    rw [List.append_nil]
    exact run_visit_ok (by simp) rfl rfl
  | primaryKey =>
    refine run_visit_ok (s := r.clause rules .primaryKey) (by simp) ?_ (by rw [hc]; rfl)
    show (modify _ >>= fun _ => makeKey) r = _
    rw [bind_ok (modify_apply _ _), makeKey_eq]
    rfl
  | comment literal =>
    cases literal with
    | none => exact run_visit_ok (by simp) rfl (by rw [hc]; rfl)
    | some literal =>
      refine run_visit_ok (s := r.clause rules (.comment (some literal))) (by simp) ?_ ?_
      · unfold apply clause
        split_ifs <;> rfl
      · rw [hc]
        rfl
  | autoIncrement | uniqueKey | serialDefault =>
    exact run_visit_ok (by simp) rfl (by rw [hc]; rfl)

lemma run_visit_constraints (cs : List Constraint) :
    run rules ((cs.map Node.constraint).flatMap Node.visit) r =
      .ok () (cs.foldl (clause rules) r) := by
  induction cs generalizing r with
  | nil => rfl
  | cons c cs ih =>
    rw [List.map_cons, List.flatMap_cons, run_append, bind_ok (run_visit_constraint rules r c), ih]
    rfl

lemma run_visit_definition (d : ColumnDefinition) :
    run rules (Node.definition d).visit = enterDefinition rules d.type >>= fun _ =>
      modify fun s => (d.constraints.foldl (clause rules) s).close := by
  funext r
  have hn : ∀ s : Resolver, s.notice (.definition d) = s := fun s => s.notice_of_ne (by simp)
  rw [run_visit]
  rcases he : enterDefinition rules d.type r with ⟨⟨⟩, s⟩ | ⟨e, s⟩
  · have henter : handle rules (.enter (.definition d)) r = .ok () s := by
      show (enterDefinition rules d.type >>= fun _ => modify (notice (.definition d))) r = _
      rw [bind_ok he, modify_apply, hn]
    have hbelow : run rules ((Node.definition d).children.flatMap Node.visit) s =
        .ok () (d.constraints.foldl (clause rules) s) := by
      have hch : (Node.definition d).children.flatMap Node.visit = (Node.type d.type).visit ++
          (d.constraints.map Node.constraint).flatMap Node.visit := rfl
      rw [hch, run_append, bind_ok (run_visit_type rules s d.type), run_visit_constraints]
    rw [bind_ok he, bind_ok henter, bind_ok hbelow, modify_apply]
    exact leaveDefinition_eq _
  · have henter : handle rules (.enter (.definition d)) r = .error e s := by
      show (enterDefinition rules d.type >>= fun _ => modify (notice (.definition d))) r = _
      rw [bind_error he]
    rw [bind_error he, bind_error henter]

end Resolver

open Resolver

/-- A resolution fails just where its type does, with nothing else done. -/
theorem resolveColumn_of_error {rules : Rules} {name : String} {d : ColumnDefinition}
    {table : Option TableDraft} {e : ResolveError} {s : Resolver}
    (h : enterDefinition rules d.type { column := { name }, table } = .error e s) :
    resolveColumn rules name d table = ⟨.error e, s.table, s.diagnostics⟩ := by
  unfold resolveColumn
  rw [run_visit_definition, bind_error h]

/-- Once the type is read, the clauses and the end of the definition make the column. -/
theorem resolveColumn_of_ok {rules : Rules} {name : String} {d : ColumnDefinition}
    {table : Option TableDraft} {s : Resolver}
    (h : enterDefinition rules d.type { column := { name }, table } = .ok () s) :
    resolveColumn rules name d table =
      let r := (d.constraints.foldl (clause rules) s).close
      ⟨.ok r.column, r.table.map (·.add r.column), r.diagnostics⟩ := by
  unfold resolveColumn
  rw [run_visit_definition, bind_ok h, modify_apply]

end TableSchema
