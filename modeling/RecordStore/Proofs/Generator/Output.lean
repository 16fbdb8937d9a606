import RecordStore.Proofs.Generator.Lookup
import RecordStore.Proofs.Generator.Package
import RecordStore.Proofs.Generator.Values
import RecordStore.Proofs.Source.Accepted
import RecordStore.Proofs.Template.StoreProgram

/-!
# The code of every store

With the built-in template, a run for the one struct of a name and its one key gives code that is source
text, and the code is the store of this struct (`RecordStore.GenerateOptions.exists_store`): it declares
one struct, and its one method for insertions has the key of the value for a key.

* The values of the template come from a source file, so they are names and lines
  (`RecordStore.SourceFile.exists_fits`).
* The template spells the program of a store, so with such values the code has the tokens of that
  program for some names (`RecordStore.exists_tokens_of_fits`).
* Every such program is read as a file (`RecordStore.Source.Program.reads`).

A field that has a line in place of its name can be marked as the key, but is no member of an
expression: then the code is no source text (`RecordStore.GenerateOptions.render_ne_of_line`).
-/

namespace RecordStore

open Source

variable {context : TemplateContext} {names : StoreNames} {tokens : Tokens}

/-! ### Code for values that fit -/

/-- **With values that fit, the code has the tokens of a store.** -/
theorem exists_tokens_of_fits (h : Fits context names) (himport : context.typeImport = "") :
    ∃ tokens, tokenizeFile (Template.store.render context).toList = .ok tokens ∧
      bareAll tokens = trees names storeProgram.shapes := by
  obtain ⟨symbols, hsymbols, hspells⟩ := exists_symbols_store
  have hrender : (Template.store.render context).toList = textOf context symbols := by
    rw [Template.render, String.toList_ofList, renderNodes_eq_textOf himport _ hsymbols]
  have hlexes := h.lexes_of_spells hspells
  rw [lexemes_marksOf, ← hrender] at hlexes
  obtain ⟨tokens, htokens, hbare⟩ := hlexes.exists_trees .start (Nat.lt_succ_self _)
  refine ⟨tokens, ?_, hbare.trans (bareAll_trees names _)⟩
  -- the code starts with a comment, so nothing is skipped at its start
  obtain ⟨behind, hstart, -⟩ := exists_behind_remarks
  rw [hstart] at htokens ⊢
  exact htokens

/-- **The tokens of a store are read as a file** with one struct. -/
theorem exists_file_of_tokens (h : bareAll tokens = trees names storeProgram.shapes) :
    ∃ file, Parser.runAll (Parser.fileItems (.for tokens)) .whole tokens = .ok file ∧
      file.structs.map StructItem.name = [.plain names.store] := by
  have hdepth : storeProgram.depth ≤ 4 * countTrees tokens + 16 :=
    Nat.le_trans (by decide +kernel) (Nat.le_add_left 16 _)
  have hreads := storeProgram.reads (N := names) hdepth
  rw [← h] at hreads
  exact hreads.runAll

/-! ### Runs -/

/-- **Tokens are the store of a type**, keyed by a member of its values: they are a program for names,
and its one method for insertions ends with an insertion under the member of the value. -/
def IsStoreOf (type key : String) (tokens : Tokens) : Prop :=
  ∃ names program method, bareAll tokens = trees names (Program.shapes program) ∧
    names.store.text = type ++ "Store" ∧ names.stored.text = type ∧
    (program.methods.filter fun m => m.name.text == "insert") = [method] ∧
    Tokens.print (trees names method.body.result.shapes) =
      "self . container . insert (Self :: TABLE , & value . " ++ key ++ " , payload)"

namespace GenerateOptions

variable {options : GenerateOptions} {tree : FileTree} {source : SourceFile} {struct : StructDef}
  {field : FieldDef} {i k : Nat}

/-- **Every struct with a key has a store.** For the one struct of a name, with one marked field that is
a string, the built-in template gives code that is source text: the store of this struct, keyed by this
field. The field must be a member that an expression can name, so it has no line in place of its name
and no position beyond 32 bits; and in the path of its module, which stands in a string, carriage
returns are at the ends of lines. -/
theorem exists_store (htemplate : options.template = none) (hpackage : options.package = none)
    (hsource : options.HasSource tree source)
    (hstruct : OnlyAt (·.name == options.structName) source.structs i struct)
    (hkey : OnlyAt (·.isPrimaryKey) struct.fields k field) (hstring : field.isString = true)
    (hpath : '\n' ∉ options.source.toList) (hline : field.name ≠ "_")
    (hposition : field.name = toString k → k < UInt32.size)
    (hreturns : ∀ m, tree.modulePath options.source = .ok m → returnsPaired m.toList = true) :
    ∃ g tokens file, render options (tree.runInputs options) = .ok g ∧
      tokenizeFile g.code.toList = .ok tokens ∧ IsStoreOf struct.name field.name tokens ∧
      SourceText.parse g.code = .ok file ∧
      (file.structs.map fun s => s.name.text) = [struct.name ++ "Store"] := by
  have hfind := SourceFile.find_eq_ok_iff_onlyAt.2 ⟨i, hstruct⟩
  have hprimary := StructDef.primaryKey_eq_ok_iff_onlyAt.2 ⟨hkey, hstring⟩
  obtain ⟨text, -, hparse⟩ := id hsource
  obtain ⟨context, names, hcontext, himport, hfits, hstored, hstore, hmember⟩ :=
    SourceFile.exists_fits hparse (SourceFile.mem_structs_of_find hfind) hkey.stands hline
      hposition hpath hreturns
  -- the code is lexed into the tokens of a store, and these are read as a file
  obtain ⟨tokens, htokens, hbare⟩ := exists_tokens_of_fits hfits himport
  obtain ⟨file, hfile, hstructs⟩ := exists_file_of_tokens hbare
  have hread : SourceText.parse (Template.store.render context) = .ok file := by
    rw [SourceText.parse, htokens]
    exact hfile
  have hcode : checkCode (Template.store.render context) =
      .ok (Template.store.render context) := by
    rw [checkCode, hread]
  have hresolve := resolveContext_of_ok hsource hfind hprimary
  rw [hpackage, hcontext] at hresolve
  have hrun := render_of_resolveContext htemplate hresolve
  rw [hcode] at hrun
  have hinsertion : Tokens.print (trees names StoreProgram.insertMethod.body.result.shapes) =
      "self . container . insert (Self :: TABLE , & value . " ++ field.name ++ " , payload)" := by
    apply String.toList_inj.1
    rw [Tokens.print, String.toList_ofList, String.toList_append, String.toList_append, ← hmember]
    exact print_insertion names
  refine ⟨_, tokens, file, hrun, htokens,
    ⟨names, storeProgram, _, hbare, hstore, hstored, methods_insert, hinsertion⟩, hread, ?_⟩
  have := congrArg (List.map Word.text) hstructs
  rw [List.map_map] at this
  exact this.trans (congrArg (fun text => [text]) hstore)

/-! ### A package with one source file -/

/-- A package with one source file of some text. -/
def userPackage (text : String) : FileTree :=
  .ofEntries [(["Cargo.toml"], .file []), (["src"], .directory),
    (["src", "user.rs"], .file (Text.utf8 text))]

/-- The struct `User` of this file is asked for. -/
def userOptions : GenerateOptions := { source := "src/user.rs", structName := "User" }

theorem packageName_userOptions : packageName userOptions.source = "user" := by decide

theorem isRelative_userOptions : FileTree.IsRelative userOptions.source :=
  .of_chars String.toList_ofList (by decide) (by decide) (by decide) (by decide)

theorem no_slash_userOptions : userOptions.source.endsWith "/" = false :=
  FileTree.endsWith_slash_eq_false String.toList_ofList (by decide)

theorem walk_userPackage (text : String) :
    (userPackage text).walk FileTree.maxLinks [] (FileTree.namesOf userOptions.source) =
      .ok (.file ["user.rs", "src"] (Text.utf8 text)) := by
  have hnames : FileTree.namesOf userOptions.source = ["src"] ++ ["user.rs"] := by decide
  rw [hnames]
  refine FileTree.walk_plain (by decide) (fun k hk => ?_) rfl
  obtain rfl : k = 0 := Nat.lt_one_iff.1 hk
  rfl

theorem modulePath_userPackage (text : String) :
    (userPackage text).modulePath userOptions.source = .ok "crate::user" := by
  have hcanonical : (userPackage text).canonical userOptions.source = .ok ["src", "user.rs"] :=
    FileTree.canonical_of_file isRelative_userOptions no_slash_userOptions (walk_userPackage text)
  have hsource : (userPackage text).IsSource userOptions.source [] ["user.rs"] := by
    refine ⟨hcanonical, ?_⟩
    have hmanifest : "src" ≠ manifestName ∧ "user.rs" ≠ manifestName := by decide
    rw [userPackage, FileTree.nearestPackage?_ofEntries (by simp [hmanifest])]
    rfl
  have hdefines : DefinesModule ([] ++ ["user" ++ ".rs"]) ([] ++ ["user"]) :=
    .file (by decide) (by decide)
  exact hsource.modulePath_eq_ok hdefines (by decide) (by decide)

theorem readText_userPackage (text : String) :
    (userPackage text).readText userOptions.source = .ok text := by
  have hresolve : (userPackage text).resolve userOptions.source =
      .ok (.file ["user.rs", "src"] (Text.utf8 text)) := by
    rw [FileTree.resolve, isRelative_userOptions.checkPath]
    exact walk_userPackage text
  have hread : (userPackage text).read userOptions.source = .ok (Text.utf8 text) := by
    rw [FileTree.read, hresolve]
    exact if_neg (by simp [no_slash_userOptions])
  rw [FileTree.readText, hread]
  simp [Text.decode_utf8, bind, Except.bind, pure, Except.pure]

/-- The definition of the struct, for its one field. -/
def userStruct (field : String) : StructDef where
  name := "User"
  fields := [{
    name := field
    type := "String"
    tags := .ofList [("data", ["primary_key"])]
    rawTags := ["# [data (primary_key)]"] }]

theorem hasSource_userPackage {text field : String}
    (h : (SourceText.parse text).toOption.map (fun file => file.structs.map StructDef.ofItem) =
      some [userStruct field]) :
    userOptions.HasSource (userPackage text) ⟨userOptions.source, "user", [userStruct field]⟩ := by
  rw [← packageName_userOptions]
  exact ⟨text, readText_userPackage text, SourceFile.parse_of_structs h⟩

theorem onlyAt_userStruct (field : String) :
    OnlyAt (fun s : StructDef => s.name == userOptions.structName) [userStruct field] 0
        (userStruct field) ∧
      ∃ key, OnlyAt (·.isPrimaryKey) (userStruct field).fields 0 key ∧ key.isString = true ∧
        key.name = field := by
  have hstruct : (userStruct field).primaryKey = .ok (0, _) := rfl
  obtain ⟨hkey, hstring⟩ := StructDef.primaryKey_eq_ok_iff_onlyAt.1 hstruct
  refine ⟨?_, _, hkey, hstring, rfl⟩
  refine ⟨rfl, rfl, fun j s hj _ => ?_⟩
  cases j with
  | zero => rfl
  | succ j => cases hj

/-- The key is called by a name that is a word of the grammar but for its mark. -/
def rawText : String := "pub struct User \x7b #[data(primary_key)] pub r#type: String \x7d"

/-- A struct in a package, keyed by a field with a raw name, has a store. -/
theorem exists_store_of_rawText :
    ∃ g tokens file, render userOptions ((userPackage rawText).runInputs userOptions) = .ok g ∧
      tokenizeFile g.code.toList = .ok tokens ∧ IsStoreOf "User" "r#type" tokens ∧
      SourceText.parse g.code = .ok file ∧
      (file.structs.map fun s => s.name.text) = ["UserStore"] := by
  obtain ⟨hstruct, key, hkey, hstring, hname⟩ := onlyAt_userStruct "r#type"
  have hsource : userOptions.HasSource (userPackage rawText)
      ⟨userOptions.source, "user", [userStruct "r#type"]⟩ :=
    hasSource_userPackage (by decide +kernel)
  have hstore := exists_store rfl rfl hsource hstruct hkey hstring (by decide +kernel)
    (by rw [hname]; decide) (by rw [hname]; decide) fun m hm => by
      cases (modulePath_userPackage rawText).symm.trans hm
      decide +kernel
  rw [hname] at hstore
  exact hstore

/-- The key has a line in place of its name. -/
def lineText : String := "pub struct User \x7b #[data(primary_key)] pub _: String \x7d"

/-- The values for this key. -/
def lineContext : TemplateContext :=
  { package := "user", type := "User", name := "User", primaryKey := "_", table := "crate::user::User" }

theorem exists_checkCode_error {code : String} (h : isSource code.toList = false) :
    ∃ e, checkCode code = .error (.invalidOutput e) := by
  rw [isSource] at h
  rw [checkCode, SourceText.parse]
  cases htokens : tokenizeFile code.toList with
  | error position => exact ⟨_, rfl⟩
  | ok tokens =>
    rw [htokens] at h
    dsimp only at h ⊢
    cases hfile : Parser.runAll (Parser.fileItems (.for tokens)) .whole tokens with
    | error e => exact ⟨e, rfl⟩
    | ok file =>
      rw [hfile] at h
      cases h

theorem readStore_not_isSource_lineContext :
    (readStore.toOption.any fun template => !isSourceFor lineContext template) = true := by
  decide +kernel

/-- **A line is no member**: the one struct of its name has one marked field, which is a string, and
there is no store for it. -/
theorem render_ne_of_line : ∃ source struct key,
    userOptions.HasSource (userPackage lineText) source ∧
      OnlyAt (·.name == userOptions.structName) source.structs 0 struct ∧
      OnlyAt (·.isPrimaryKey) struct.fields 0 key ∧ key.isString = true ∧
      '\n' ∉ userOptions.source.toList ∧
      ∃ e, render userOptions ((userPackage lineText).runInputs userOptions) =
        .error (.template (.invalidOutput e)) := by
  obtain ⟨hstruct, key, hkey, hstring, hname⟩ := onlyAt_userStruct "_"
  have hsource : userOptions.HasSource (userPackage lineText)
      ⟨userOptions.source, "user", [userStruct "_"]⟩ :=
    hasSource_userPackage (by decide +kernel)
  refine ⟨_, _, key, hsource, hstruct, hkey, hstring, by decide +kernel, ?_⟩
  have hcontext := resolveContext_of_ok hsource
    (SourceFile.find_eq_ok_iff_onlyAt.2 ⟨0, hstruct⟩)
    (StructDef.primaryKey_eq_ok_iff_onlyAt.2 ⟨hkey, hstring⟩)
  rw [modulePath_userPackage, hname] at hcontext
  have hvalues : SourceFile.context ⟨userOptions.source, "user", [userStruct "_"]⟩
      (.ok "crate::user") (userStruct "_") "_" userOptions.package = .ok lineContext := by
    decide
  have hcode : isSource (Template.store.render lineContext).toList = false := by
    rw [Template.render, String.toList_ofList]
    simpa [isSourceFor] using test_store readStore_not_isSource_lineContext
  obtain ⟨e, he⟩ := exists_checkCode_error hcode
  have hrun := render_of_resolveContext rfl (hcontext.trans hvalues)
  rw [he] at hrun
  exact ⟨e, hrun⟩

end GenerateOptions

end RecordStore
