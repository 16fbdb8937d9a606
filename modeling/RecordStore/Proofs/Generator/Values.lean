import Mathlib.Data.List.TakeDrop
import RecordStore.Proofs.Definition.File
import RecordStore.Proofs.Generator.Context
import RecordStore.Proofs.ModulePath
import RecordStore.Proofs.Source.Answers
import RecordStore.Proofs.Template.Spelling
import RecordStore.Proofs.Text.Origin

/-!
# Values that fit the template

The values that a store is rendered with come from a source file, so they are made of what can stand in
one: the struct and its key are called by names or positions, and the module of the file and its path
have no characters but those of names and of the paths of files. What the template asks of its values is
then a matter of a few characters (`RecordStore.SourceFile.fits`), and of one name: a field that has a
line in place of its name cannot be spelled as a member.
-/

namespace RecordStore

open Source

variable {c : Char} {path text m : String} {source : SourceFile} {struct : StructDef}

/-! ### Names of stores -/

/-- The name of a store for a type. -/
def storeName (type : String) : String := type ++ "Store"

/-- The words that are known to the grammar or have no raw form are no names of stores. -/
theorem storeName_not_mem (type : String) :
    storeName type ∉ reservedWords ++ contextualWords ++ neverRaw := by
  have hall : ∀ t ∈ reservedWords ++ contextualWords ++ neverRaw,
      "Store".toList.isSuffixOf t.toList = false := by
    decide +kernel
  intro hmem
  have hends : "Store".toList.isSuffixOf (storeName type).toList = true := by
    rw [storeName, String.toList_append]
    exact List.isSuffixOf_iff_suffix.2 (List.suffix_append ..)
  rw [hall _ hmem] at hends
  cases hends

theorem isKnown_storeName (type : String) : isKnown (storeName type) = false := by
  have h := storeName_not_mem type
  simp only [List.mem_append, not_or] at h
  simp [isKnown, h]

namespace Source

theorem isIdentifier_append {name more : List Char} (h : Text.isIdentifier name = true)
    (hmore : more.all Text.isIdentifierContinue = true) :
    Text.isIdentifier (name ++ more) = true := by
  cases name with
  | nil => cases h
  | cons c name =>
    rw [Text.isIdentifier, Bool.and_eq_true] at h
    rw [List.cons_append, Text.isIdentifier, List.all_append, h.1, h.2, hmore]
    rfl

theorem isWordText_of_isIdentifier {name : List Char} (h : Text.isIdentifier name = true) :
    isWordText name = true := by
  rw [isWordText.eq_def]
  split
  · have hsign : Text.isIdentifierContinue '#' = false := by decide
    simp [Text.isIdentifier, hsign] at h
  · exact h

/-- **The name of a store is a name** that means nothing to the grammar. -/
theorem isWordText_storeName (w : Word) : isWordText (storeName w.text).toList = true := by
  have hends : "Store".toList.all Text.isIdentifierContinue = true := by decide +kernel
  rw [storeName, String.toList_append]
  rcases w.spelling with h | ⟨name, heq, h, -⟩
  · exact isWordText_of_isIdentifier (isIdentifier_append h hends)
  · rw [heq, List.cons_append, List.cons_append, isWordText, isIdentifier_append h hends,
      Bool.true_and, Bool.not_eq_true', String.ofList_append]
    have hnever := storeName_not_mem (String.ofList name)
    simp only [List.mem_append, not_or] at hnever
    simpa [storeName] using hnever.2

end Source

/-! ### Members -/

/-- The member that a field of a struct is, if it has one. -/
theorem SourceFile.exists_member {k : Nat} {field : FieldDef}
    (h : SourceFile.parse path text = .ok source) (hstruct : struct ∈ source.structs)
    (hfield : struct.fields[k]? = some field) (hline : field.name ≠ "_")
    (hk : field.name = toString k → k < UInt32.size) :
    (∃ w : Word, w.isName = true ∧ struct.name = w.text) ∧
      ∃ member : Member, member.token.print = field.name.toList := by
  obtain ⟨file, hfile, rfl⟩ := SourceFile.parse_eq_ok_iff.1 h
  obtain ⟨item, hitem, rfl⟩ := List.mem_map.1 hstruct
  obtain ⟨hname, hfields⟩ := SourceText.isNamed_of_parse hfile item hitem
  refine ⟨⟨item.name, hname, rfl⟩, ?_⟩
  rw [StructDef.ofItem, List.getElem?_mapIdx] at hfield
  obtain ⟨f, hf, rfl⟩ := Option.map_eq_some_iff.1 hfield
  have hnamed := hfields f (List.mem_of_getElem? hf)
  cases hw : f.name with
  | none =>
    rw [FieldDef.ofField, hw] at hk ⊢
    exact ⟨.position k (hk rfl), rfl⟩
  | some w =>
    rw [FieldDef.ofField, hw] at hline ⊢
    exact ⟨.name w ((hnamed w hw).resolve_right hline), rfl⟩

/-! ### Modules -/

theorem mem_of_mem_stem {name : String} (h : c ∈ (stem name).toList) : c ∈ name.toList := by
  rw [stem, List.span_eq_takeWhile_dropWhile] at h
  split at h
  · rename_i rest heq
    split at h
    · exact h
    · rw [String.toList_ofList, List.mem_reverse] at h
      have hdrop := (List.dropWhile_suffix (· ≠ '.') (l := name.toList.reverse)).subset
      rw [(Prod.mk.inj heq).2] at hdrop
      exact List.mem_reverse.1 (hdrop (List.mem_cons_of_mem _ h))
  · exact h

theorem mem_of_lastName {names : List String} {name : String} (h : lastName? names = some name) :
    name ∈ names := by
  obtain ⟨last, hlast, h⟩ := Option.bind_eq_some_iff.1 h
  split at h
  · cases h
  · cases h
    exact List.mem_of_getLast? hlast

/-- The name of a module has the characters of the path, unless it is the root of a package. -/
theorem not_mem_packageName (hpath : c ∉ path.toList) (hroot : c ∉ "crate".toList) :
    c ∉ (packageName path).toList := by
  have hnames : ∀ name ∈ (FileTree.namesOf path).filter (· ≠ "."), c ∉ name.toList := by
    intro name hname hc
    obtain ⟨part, hpart, rfl⟩ := List.mem_map.1 (List.mem_filter.1 hname).1
    rw [String.toList_ofList] at hc
    exact hpath (Text.mem_of_mem_splitOn (List.mem_filter.1 hpart).1 hc)
  rw [packageName]
  split
  · exact hroot
  · exact hroot
  · exact hroot
  · cases hlast : lastName? ((FileTree.namesOf path).filter (· ≠ ".")).dropLast with
    | none => exact hroot
    | some name => exact hnames name (List.dropLast_subset _ (mem_of_lastName hlast))
  · cases hlast : lastName? ((FileTree.namesOf path).filter (· ≠ ".")) with
    | none => exact fun h => nomatch h
    | some name => exact fun h => hnames name (mem_of_lastName hlast) (mem_of_mem_stem h)

/-- **What is in no path of a module**: what names do not have, and what is not read over. -/
theorem FileTree.not_mem_modulePath {tree : FileTree} (hstart : Text.isIdentifierStart c = false)
    (hcontinue : Text.isIdentifierContinue c = false) (hsign : c ≠ '#') (hcolon : c ≠ ':')
    (hblank : isSeparator c = false ∧ c ≠ orderMark) (h : tree.modulePath path = .ok m) :
    c ∉ m.toList := by
  obtain ⟨package, rel, hsource⟩ := exists_isSource h
  obtain ⟨segments, hdefines, hnames, -, rfl⟩ := hsource.exists_segments h
  intro hmem
  rcases Text.mem_of_mem_intercalate hmem with hc | ⟨segment, hsegment, hc⟩
  · exact hcolon (by simpa using hc)
  · rcases List.mem_cons.1 hsegment with rfl | hsegment
    · exact Word.not_mem_text hstart hcontinue hsign (.of "crate") hc
    · obtain ⟨w, -, hchars⟩ := chars_of_isSingleName (hnames segment hsegment)
        (hdefines.slash_not_mem hsource.slash_not_mem segment hsegment)
      rcases hchars c hc with hc | hc | hc
      · exact Word.not_mem_text hstart hcontinue hsign w hc
      · rw [hblank.1] at hc
        cases hc
      · exact hblank.2 hc

/-! ### Values -/

/-- **The values for a field that can be a member fit the template**, if no line ends in the path of the
file, and no line is ended by a carriage return in the path of its module. -/
theorem SourceFile.exists_fits {tree : FileTree} {k : Nat} {field : FieldDef}
    (h : SourceFile.parse path text = .ok source) (hstruct : struct ∈ source.structs)
    (hfield : struct.fields[k]? = some field) (hline : field.name ≠ "_")
    (hk : field.name = toString k → k < UInt32.size)
    (hpath : '\n' ∉ path.toList)
    (hreturns : ∀ m, tree.modulePath path = .ok m → returnsPaired m.toList = true) :
    ∃ context names, source.context (tree.modulePath path) struct field.name none = .ok context ∧
      context.typeImport = "" ∧ Fits context names ∧ names.stored.text = struct.name ∧
      names.store.text = storeName struct.name ∧ names.key.token.print = field.name.toList := by
  obtain ⟨⟨w, hname, hw⟩, member, hmember⟩ := exists_member h hstruct hfield hline hk
  have hnone {c : Char} (hstart : Text.isIdentifierStart c = false)
      (hcontinue : Text.isIdentifierContinue c = false) (hsign : c ≠ '#') :
      c ∉ struct.name.toList := by
    rw [hw]
    exact Word.not_mem_text hstart hcontinue hsign w
  have hsource : source.package = packageName path := by
    obtain ⟨file, -, rfl⟩ := SourceFile.parse_eq_ok_iff.1 h
    rfl
  refine ⟨_, ⟨⟨storeName struct.name, hw ▸ isWordText_storeName w, isKnown_storeName _⟩, w, hname, member⟩,
    context_eq_ok_iff.2 ⟨struct.name, "", if_pos rfl, rfl⟩, rfl, ?_, hw.symm, rfl, hmember⟩
  constructor
  · exact hw
  · exact hw
  · rfl
  · exact hmember.symm
  · change '\n' ∉ source.package.toList
    rw [hsource]
    exact not_mem_packageName hpath (by decide +kernel)
  · exact Text.not_mem_snakeCase (by decide) (by decide) (hnone (by decide) (by decide) (by decide))
  · -- the table is the path of the module and the name, or the name alone
    have htable {c : Char} (hname : c ∉ struct.name.toList) (hcolon : c ≠ ':')
        (hmodule : ∀ m, tree.modulePath path = .ok m → c ∉ m.toList) :
        c ∉ (((tree.modulePath path).toOption.map (· ++ "::" ++ struct.name)).getD
          struct.name).toList := by
      cases hm : tree.modulePath path with
      | error fault => exact hname
      | ok m => simp [Except.toOption, hmodule m hm, hname, hcolon]
    refine fun c hc => ⟨?_, ?_⟩ <;>
    · rintro rfl
      exact htable (hnone (by decide) (by decide) (by decide)) (by decide) (fun m hm =>
        tree.not_mem_modulePath (by decide) (by decide) (by decide) (by decide) (by decide) hm) hc
  · have hname := returnsPaired_of_not_mem (hnone (by decide) (by decide) (by decide))
    change returnsPaired (((tree.modulePath path).toOption.map (· ++ "::" ++ struct.name)).getD
      struct.name).toList = true
    cases hm : tree.modulePath path with
    | error fault => exact hname
    | ok m =>
      have hcolons : returnsPaired "::".toList = true := by decide
      simp only [Except.toOption, Option.map_some, Option.getD_some, String.toList_append]
      rw [List.append_assoc, returnsPaired_append (hreturns m hm),
        returnsPaired_append hcolons, hname]

end RecordStore
