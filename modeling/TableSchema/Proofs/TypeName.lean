import TableSchema.DataType
import TableSchema.Proofs.Text.Casing

/-!
The name of a resolved type is its canonical name and the words its modifiers add. It is in upper
case as it stands: compared with a word of ASCII, its upper case says no more than the name itself.
-/

namespace TableSchema

open Text (IsSmall)

lemma DataType.ofName_name (name : String) : (DataType.ofName name).name = name := by
  unfold DataType.ofName
  rcases h : DataType.registered.find? (·.name == name) with _ | type
  · rw [h]
    rfl
  · rw [h]
    simpa using List.find?_some h

namespace ColumnType

lemma resolve_name (t : ColumnType) :
    t.resolve.name = DataType.canonicalName t.name ++ t.suffix := by
  show (DataType.ofName (DataType.canonicalName t.name)).name ++ t.suffix = _
  rw [DataType.ofName_name]

lemma not_isSmall_suffix (t : ColumnType) : ∀ c ∈ t.suffix.toList, ¬ IsSmall c.toNat := by
  have hall : ∀ u z : Bool, (modifierSuffix u z).toList.all fun c => ¬ IsSmall c.toNat := by
    decide
  have h : ∀ u z : Bool, ∀ c ∈ (modifierSuffix u z).toList, ¬ IsSmall c.toNat := by
    simpa only [List.all_eq_true, decide_eq_true_eq] using hall
  cases t with
  | dimensioned | simple => exact h _ _
  | _ => exact fun c hc => by simp [suffix] at hc

lemma not_isSmall_canonicalName (name : String) :
    ∀ c ∈ (DataType.canonicalName name).toList, ¬ IsSmall c.toNat := by
  intro c hc
  rw [DataType.canonicalName, String.toList_ofList] at hc
  rcases Text.mem_squeeze hc with rfl | hc
  · decide
  · obtain ⟨d, -, hd⟩ := List.mem_flatMap.mp hc
    exact Text.not_isSmall_of_mem_upperChar hd

/-- **Names are in upper case**, as far as words of ASCII are concerned. -/
theorem upperString_resolve_name_iff (t : ColumnType) {w : String}
    (hw : w.toList.all fun c => c.toNat < 0x80 ∧ ¬ IsSmall c.toNat) :
    Text.upperString t.resolve.name = w ↔ t.resolve.name = w := by
  have hname : ∀ c ∈ t.resolve.name.toList, ¬ IsSmall c.toNat := by
    intro c hc
    rw [resolve_name, String.toList_append] at hc
    rcases List.mem_append.mp hc with hc | hc
    · exact not_isSmall_canonicalName _ c hc
    · exact not_isSmall_suffix t c hc
  have hword : ∀ c ∈ w.toList, c.toNat < 0x80 ∧ ¬ IsSmall c.toNat := by
    simpa only [List.all_eq_true, decide_eq_true_eq] using hw
  have h := Text.upper_eq_iff hname hword
  rw [String.toList_inj] at h
  rw [← h, Text.upperString, ← String.toList_inj, String.toList_ofList]

end ColumnType
end TableSchema
