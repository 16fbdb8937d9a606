import RecordStore.Definition.File

/-!
# What the text of a file defines

A file is its structs: the path only says where it is and which module it defines
(`RecordStore.SourceFile.parse_eq_ok_iff`).
-/

namespace RecordStore

namespace SourceFile

variable {path text : String} {source : SourceFile}

theorem parse_eq_ok_iff : SourceFile.parse path text = .ok source ↔
    ∃ file, Source.SourceText.parse text = .ok file ∧
      source = { path, package := packageName path,
                 structs := file.structs.map StructDef.ofItem } := by
  rw [SourceFile.parse]
  cases Source.SourceText.parse text <;> simp [bind, Except.bind, pure, Except.pure, eq_comm]

theorem parse_eq_error_iff {e : Source.SyntaxError} :
    SourceFile.parse path text = .error e ↔ Source.SourceText.parse text = .error e := by
  rw [SourceFile.parse]
  cases Source.SourceText.parse text <;> simp [bind, Except.bind, pure, Except.pure]

/-- A file with the structs that its text declares. -/
theorem parse_of_structs {structs : List StructDef}
    (h : (Source.SourceText.parse text).toOption.map
      (fun file => file.structs.map StructDef.ofItem) = some structs) :
    SourceFile.parse path text = .ok { path, package := packageName path, structs } := by
  cases hfile : Source.SourceText.parse text with
  | error e =>
    rw [hfile] at h
    cases h
  | ok file =>
    rw [hfile] at h
    exact parse_eq_ok_iff.2 ⟨file, hfile, by rw [← Option.some.inj h]⟩

end SourceFile

end RecordStore
