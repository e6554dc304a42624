import TableSchema.Definition.Basic

/-!
The parts of a column definition, and the order in which they are visited. The main statement is
that a visit enters a part, visits what it contains in order, and leaves it.
-/

namespace TableSchema

/-- A part of a column definition. -/
inductive Node where
  | oneDimension (d : OneDimension)
  | twoDimensions (d : TwoDimensions)
  | oneOrTwoDimensions (d : OneOrTwoDimensions)
  | valueList (l : ValueList)
  | type (t : ColumnType)
  | nullMark (m : NullMark)
  | defaultText (d : DefaultText)
  | constraint (c : Constraint)
  | definition (d : ColumnDefinition)
  deriving DecidableEq, Repr

namespace Node

def ofType : ColumnType → List Node
  | .string _ length _ _ | .nationalString _ length | .nationalVarying _ length =>
    (length.map oneDimension).toList
  | .longVarchar .. | .simple .. => []
  | .dimensioned _ one two oneOrTwo _ _ =>
    (one.map oneDimension).toList ++ (two.map twoDimensions).toList ++
      (oneOrTwo.map oneOrTwoDimensions).toList
  | .collection _ values _ => [valueList values]

def ofConstraint : Constraint → List Node
  | .null mark => [nullMark mark]
  | .default value => [defaultText value]
  | _ => []

def children : Node → List Node
  | type t => ofType t
  | constraint c => ofConstraint c
  | definition d => type d.type :: d.constraints.map constraint
  | _ => []

end Node

/-- A step of a visit. -/
inductive Event where
  | enter (n : Node)
  | leave (n : Node)
  deriving DecidableEq, Repr

namespace Node

def visitWith (below : Node → List Event) (n : Node) : List Event :=
  .enter n :: n.children.flatMap below ++ [.leave n]

/-- The steps of a visit. A definition holds types and constraints, and these hold parts that are
empty inside, so three levels are all there are. -/
def visit : Node → List Event := visitWith (visitWith (visitWith fun _ => []))

theorem visitWith_congr {n : Node} {f g : Node → List Event} (h : ∀ c ∈ n.children, f c = g c) :
    visitWith f n = visitWith g n := by
  unfold visitWith
  rw [List.flatMap_def, List.flatMap_def, List.map_congr_left h]

theorem children_of_mem_ofType {t : ColumnType} {n : Node} (h : n ∈ ofType t) :
    n.children = [] := by
  cases t with
  | dimensioned _ one two oneOrTwo _ _ =>
    simp only [ofType, List.mem_append, Option.mem_toList, Option.map_eq_some_iff] at h
    obtain (⟨_, _, rfl⟩ | ⟨_, _, rfl⟩) | ⟨_, _, rfl⟩ := h <;> rfl
  | string | nationalString | nationalVarying =>
    simp only [ofType, Option.mem_toList, Option.map_eq_some_iff] at h
    obtain ⟨_, _, rfl⟩ := h; rfl
  | collection => simp only [ofType, List.mem_singleton] at h; subst h; rfl
  | longVarchar | simple => simp [ofType] at h

theorem children_of_mem_ofConstraint {c : Constraint} {n : Node} (h : n ∈ ofConstraint c) :
    n.children = [] := by
  cases c with
  | null | default => simp only [ofConstraint, List.mem_singleton] at h; subst h; rfl
  | _ => simp [ofConstraint] at h

/-- Parts two levels down hold no parts. -/
theorem children_of_mem_of_mem {n c d : Node} (hc : c ∈ n.children) (hd : d ∈ c.children) :
    d.children = [] := by
  cases n with
  | type t => rw [children_of_mem_ofType hc] at hd; simp at hd
  | constraint k => rw [children_of_mem_ofConstraint hc] at hd; simp at hd
  | definition x =>
    simp only [children, List.mem_cons, List.mem_map] at hc
    obtain rfl | ⟨_, _, rfl⟩ := hc
    · exact children_of_mem_ofType hd
    · exact children_of_mem_ofConstraint hd
  | _ => simp [children] at hc

theorem visit_eq (n : Node) : n.visit = visitWith visit n :=
  visitWith_congr fun _ hc => visitWith_congr fun _ hd => visitWith_congr fun _ hx => by
    rw [children_of_mem_of_mem hc hd] at hx; simp at hx

end Node
end TableSchema
