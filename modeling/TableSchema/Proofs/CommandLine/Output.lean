import TableSchema.CommandLine.Run
import TableSchema.Proofs.Json.Marks

/-!
What the resolving commands write.

In the informing mode a column or table that is resolved without a cut length is written as JSON on
standard output and nothing else is. The text goes through the log, which removes the marks from it.
What can be read back is therefore the column or table without the marks in its texts, and it is
the one that was resolved only if it had none. Main statement: `run_shown`.
-/

namespace TableSchema

open Log (unmarked isMarked)

/-! ### Columns and tables as JSON -/

namespace Json

variable {f : String → String}

lemma distinct_object {members : List (String × Json)}
    (hkeys : ((members.map Prod.fst).map f).Nodup)
    (h : ∀ m ∈ members, (m.2.mapTexts f).Distinct) : ((object members).mapTexts f).Distinct := by
  rw [mapTexts, mapMembers_eq]
  refine .object ?_ (List.forall_mem_map.mpr h)
  rwa [List.map_map] at hkeys ⊢

lemma distinct_array {items : List Json} (h : ∀ v ∈ items, (v.mapTexts f).Distinct) :
    ((array items).mapTexts f).Distinct := by
  rw [mapTexts, mapItems_eq]
  exact .array (List.forall_mem_map.mpr h)

lemma distinct_ofText? (s : Option String) : ((ofText? s).mapTexts f).Distinct := by
  cases s with
  | none => exact .null
  | some s => exact .text (f s)

lemma distinct_ofNumber? (n : Option Int) : ((ofNumber? n).mapTexts f).Distinct := by
  cases n with
  | none => exact .null
  | some n => exact .number n

lemma distinct_ofTexts (l : List String) : ((ofTexts l).mapTexts f).Distinct :=
  distinct_array (List.forall_mem_map.mpr fun s _ => .text (f s))

end Json

def Column.keys : List String :=
  ["name", "position", "type", "jdbc_type", "length", "scale", "charset", "optional", "unique",
    "auto_incremented", "generated", "enum_values", "comment", "has_default_value",
    "default_value"]

lemma Column.distinct_toJson (c : Column) : (c.toJson.mapTexts unmarked).Distinct := by
  have hkeys : (Column.keys.map unmarked).Nodup := by decide
  refine Json.distinct_object hkeys ?_
  simp only [Column.toMembers, List.forall_mem_cons]
  exact ⟨.text _, .number _, .text _, .number _, Json.distinct_ofNumber? _,
    Json.distinct_ofNumber? _, Json.distinct_ofText? _, .bool _, .bool _, .bool _, .bool _,
    Json.distinct_ofTexts _, Json.distinct_ofText? _, .bool _, Json.distinct_ofText? _, by simp⟩

lemma Table.distinct_toJson (t : Table) : (t.toJson.mapTexts unmarked).Distinct := by
  have hkeys : (["table", "columns", "primary_key"].map unmarked).Nodup := by decide
  have hcolumns : ((Json.array (t.columns.map Column.toJson)).mapTexts unmarked).Distinct :=
    Json.distinct_array (List.forall_mem_map.mpr fun c _ => c.distinct_toJson)
  refine Json.distinct_object hkeys ?_
  simp only [Table.toMembers, List.forall_mem_cons]
  exact ⟨.text _, hcolumns, Json.distinct_ofTexts _, by simp⟩

/-! ### Values in the log -/

namespace Json

/-- A value as it is shown: without the marks in its texts, and on a line of its own if there were
none. -/
def shown (layout : Layout) (v : Json) : String :=
  render layout (v.mapTexts unmarked) ++ if v.texts.any isMarked then "" else "\n"

variable (layout : Layout) (v : Json)

lemma isMarked_render : isMarked (render layout v) = v.texts.any isMarked := by
  rw [isMarked, render, String.toList_ofList, (cleans_print layout v 0).removeMarks_eq]

lemma unmarked_render : unmarked (render layout v) = render layout (v.mapTexts unmarked) := by
  rw [unmarked, render, String.toList_ofList, (cleans_print layout v 0).removeMarks_eq, render]

lemma shown_eq : shown layout v = unmarked (render layout v) ++ Log.lineEnd (render layout v) := by
  rw [Log.lineEnd, isMarked_render, unmarked_render, shown]

lemma shown_eq_iff :
    shown layout v = render layout v ++ "\n" ↔ ∀ t ∈ v.texts, isMarked t = false := by
  rw [shown_eq, Log.unmarked_append_lineEnd_iff, isMarked_render]
  simp

lemma mapTexts_unmarked_iff :
    v.mapTexts unmarked = v ↔ ∀ t ∈ v.texts, isMarked t = false := by
  rw [mapTexts_eq_self_iff]
  exact forall₂_congr fun t _ => Log.unmarked_eq_self_iff t

variable {v}

lemma parse?_shown (hv : (v.mapTexts unmarked).Distinct) :
    parse? (shown layout v) = some (v.mapTexts unmarked) := by
  refine parse?_render layout hv ?_
  split_ifs
  · simp [Blank]
  · simp [Blank, isSpace]

/-- Only a value without marks is read back as it was. -/
lemma parse?_shown_iff (hv : (v.mapTexts unmarked).Distinct) :
    parse? (shown layout v) = some v ↔ ∀ t ∈ v.texts, isMarked t = false := by
  rw [parse?_shown layout hv, Option.some_inj, mapTexts_unmarked_iff]

end Json

namespace CommandLine

variable {time : String} {s : Surroundings} {settings : Settings} {i : Invocation}
  {arguments : List String} {indent : Option Int} {json : Json}

/-- What a command shows of a definition or a file that is resolved without a cut length, and how it
is to be indented. A blank definition is refused before it is looked at. -/
inductive Command.Shows (s : Surroundings) (settings : Settings) :
    Command → Option Int → Json → Prop where
  | column {definition : String} {table : Option String} {indent : Option Int} {c : Column}
      (hblank : ¬ definition.toList.all Text.isBlank)
      (h : Ddl.column settings definition (table.getD Ddl.defaultTable) = ⟨.ok c, []⟩) :
      Shows s settings (.resolveColumn definition table indent) indent c.toJson
  | table {file text : String} {indent : Option Int} {t : Table}
      (hfile : s.statement? file = some text)
      (h : Ddl.table settings (Text.unifyLines text) = ⟨.ok t, []⟩) :
      Shows s settings (.parseTable file indent) indent t.toJson

lemma Command.Shows.report {command : Command} (h : command.Shows s settings indent json) :
    command.report s settings = ⟨[(.info, Json.render (.ofIndent? indent) json)], .done⟩ ∧
      command.isVersion = false := by
  cases h with
  | column hblank h =>
    refine ⟨?_, rfl⟩
    rw [Command.report, if_neg hblank, h]
    rfl
  | table hfile h =>
    refine ⟨?_, rfl⟩
    rw [Command.report, hfile]
    dsimp only
    rw [h]
    rfl

lemma Command.Shows.distinct {command : Command} (h : command.Shows s settings indent json) :
    (json.mapTexts unmarked).Distinct := by
  cases h with
  | column => exact Column.distinct_toJson _
  | table => exact Table.distinct_toJson _

lemma output_message (time : String) (text : String) :
    Report.output time false ⟨[(.info, text)], .done⟩ =
      { out := unmarked text ++ Log.lineEnd text } := by
  simp [Report.output, Log.run, Log.step, Log.Mode.write, Log.Output.append, Log.Level.rank,
    Log.Mode.threshold]

lemma run_of_shows (time : String) (hparse : parse? arguments = some i) (hmode : i.debug = false)
    (hsettings : i.settings s = .ok settings) (hshows : i.command.Shows s settings indent json) :
    run time s arguments = ({ out := json.shown (.ofIndent? indent) }, 0) := by
  obtain ⟨hreport, hversion⟩ := hshows.report
  have hinvocation : i.report s = ⟨[(.info, Json.render (.ofIndent? indent) json)], .done⟩ := by
    rw [Invocation.report, hversion, hsettings]
    exact hreport
  rw [run, hparse]
  dsimp only
  rw [hinvocation, hmode, output_message, ← Json.shown_eq]
  rfl

/-- **What is shown** can be read back without the marks in its texts. It is the JSON of what was
resolved, with a line end, exactly if there were none. -/
theorem run_shown (hparse : parse? arguments = some i) (hmode : i.debug = false)
    (hsettings : i.settings s = .ok settings) (hshows : i.command.Shows s settings indent json) :
    run time s arguments = ({ out := json.shown (.ofIndent? indent) }, 0) ∧
      Json.parse? (json.shown (.ofIndent? indent)) = some (json.mapTexts unmarked) ∧
      (json.shown (.ofIndent? indent) = Json.render (.ofIndent? indent) json ++ "\n" ↔
        ∀ t ∈ json.texts, isMarked t = false) ∧
      (Json.parse? (json.shown (.ofIndent? indent)) = some json ↔
        ∀ t ∈ json.texts, isMarked t = false) := by
  have hdistinct := hshows.distinct
  exact ⟨run_of_shows time hparse hmode hsettings hshows, Json.parse?_shown _ hdistinct,
    Json.shown_eq_iff _ json, Json.parse?_shown_iff _ hdistinct⟩

/-- A definition whose comment has a mark. -/
def markedDefinition : String := "c INT COMMENT 'a[!n]b'"

def markedInvocation : Invocation where
  command := .resolveColumn markedDefinition none none

def markedColumn : Column where
  name := "c"
  typeName := "INT"
  typeCode := TypeCode.integer
  comment := some "a[!n]b"

lemma parse?_marked :
    parse? ["column", "resolve", markedDefinition] = some markedInvocation := by decide +kernel

lemma column_marked : Ddl.column {} markedDefinition = ⟨.ok markedColumn, []⟩ := by
  have hparts : (fun o : Outcome DdlError Column => (o.result.toOption, o.diagnostics))
      (Ddl.column {} markedDefinition) = (some markedColumn, []) := by decide +kernel
  rcases h : Ddl.column {} markedDefinition with ⟨_ | c, diagnostics⟩
  · rw [h] at hparts
    cases hparts
  · rw [h] at hparts
    cases hparts
    rfl

lemma shows_marked : markedInvocation.command.Shows {} {} none markedColumn.toJson :=
  .column (by decide) column_marked

theorem run_shown_marked :
    parse? ["column", "resolve", markedDefinition] = some markedInvocation ∧
      markedInvocation.debug = false ∧ markedInvocation.settings {} = .ok {} ∧
      markedInvocation.command.Shows {} {} none markedColumn.toJson ∧
      run "" {} ["column", "resolve", markedDefinition] =
        ({ out := markedColumn.toJson.shown .oneLine }, 0) ∧
      Json.parse? (markedColumn.toJson.shown .oneLine) =
        some { markedColumn with comment := some "ab" }.toJson := by
  obtain ⟨hrun, hread, -⟩ := run_shown (s := {}) parse?_marked rfl rfl shows_marked
  exact ⟨parse?_marked, rfl, rfl, shows_marked, hrun, hread⟩

/-- A mark in a text is lost on the way out, and the line end with it. -/
theorem marked_text_lost :
    ¬ ∀ (time : String) (s : Surroundings) (arguments : List String) (i : Invocation)
      (settings : Settings) (indent : Option Int) (json : Json), parse? arguments = some i →
      i.debug = false → i.settings s = .ok settings → i.command.Shows s settings indent json →
      run time s arguments = ({ out := Json.render (.ofIndent? indent) json ++ "\n" }, 0) := by
  intro h
  have hclaim := h "" {} _ _ {} none _ parse?_marked rfl rfl shows_marked
  rw [run_of_shows "" parse?_marked rfl rfl shows_marked] at hclaim
  have hshown : markedColumn.toJson.shown .oneLine =
      Json.render .oneLine markedColumn.toJson ++ "\n" :=
    congrArg (fun o => o.1.out) hclaim
  have hno := (Json.shown_eq_iff .oneLine _).mp hshown "a[!n]b" (by decide)
  revert hno
  decide

end CommandLine
end TableSchema
