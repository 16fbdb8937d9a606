import RecordStore.Proofs.Generator.Stages
import RecordStore.Proofs.Generator.Table
import RecordStore.Proofs.Generator.Target
import RecordStore.Proofs.Source.Declaration
import RecordStore.Proofs.Source.Scanning
import RecordStore.Proofs.Template.Store

/-!
# Packages in generated code

A package that a store is generated for counts in two ways: it is the module of the source or it is
not, and its name stands in the first two lines of the code. These lines are comments. So two runs
for packages other than the module of the source come to the same end, and if they give code, it has
the same tokens (`RecordStore.GenerateOptions.render_of_packages`).

For this the names must stand in one line. A line feed ends a comment, and what follows it in a name
is read as code (`RecordStore.tokenizeFile_render_of_lineFeed`). So such a package can keep a run
from giving code (`RecordStore.GenerateOptions.render_ne_of_lineFeed`).
-/

namespace RecordStore

open Source (commentLine tokenizeFile Parser)
open SourceFile (looseRoot looseStruct looseText looseContext)

/-! ### The header of the code -/

/-- A character that a text is not written with is not in it. -/
theorem not_mem_toList_ofList {c : Char} {cs : List Char} (h : c ∉ cs) :
    c ∉ (String.ofList cs).toList := by
  rwa [String.toList_ofList]

namespace TemplateContext

/-- The same values for another package. -/
def into (c : TemplateContext) (package : String) : TemplateContext := { c with package }

/-- The values in the header each stand in one line. -/
structure IsInline (c : TemplateContext) : Prop where
  type : '\n' ∉ c.type.toList
  name : '\n' ∉ c.name.toList
  package : '\n' ∉ c.package.toList

/-- The first comment in the code for some values, up to the package. -/
def remarkStart (c : TemplateContext) : List Char :=
  "Code generated by sdata-gen for `".toList ++ c.type.toList ++ "` (module `".toList

/-- The first comment. -/
def firstRemark (c : TemplateContext) : List Char :=
  c.remarkStart ++ c.package.toList ++ "`). DO NOT EDIT.".toList

/-- The second comment. -/
def secondRemark (c : TemplateContext) : List Char :=
  "Regenerate with: sdata-gen <source> ".toList ++ c.name.toList ++ " --package ".toList ++
    c.package.toList

theorem lineFeed_not_mem_remarkStart {c : TemplateContext} (htype : '\n' ∉ c.type.toList) :
    '\n' ∉ c.remarkStart := by
  have hcode : '\n' ∉ "Code generated by sdata-gen for `".toList :=
    not_mem_toList_ofList (by decide)
  have hmodule : '\n' ∉ "` (module `".toList := not_mem_toList_ofList (by decide)
  unfold remarkStart
  rw [List.mem_append, List.mem_append, not_or, not_or]
  exact ⟨⟨hcode, htype⟩, hmodule⟩

namespace IsInline

variable {c : TemplateContext} {package : String}

theorem into (h : c.IsInline) (hpackage : '\n' ∉ package.toList) : (c.into package).IsInline where
  type := h.type
  name := h.name
  package := hpackage

theorem firstRemark (h : c.IsInline) : '\n' ∉ c.firstRemark := by
  have hedit : '\n' ∉ "`). DO NOT EDIT.".toList := not_mem_toList_ofList (by decide)
  unfold TemplateContext.firstRemark
  rw [List.mem_append, List.mem_append, not_or, not_or]
  exact ⟨⟨lineFeed_not_mem_remarkStart h.type, h.package⟩, hedit⟩

theorem secondRemark (h : c.IsInline) : '\n' ∉ c.secondRemark := by
  have hregenerate : '\n' ∉ "Regenerate with: sdata-gen <source> ".toList :=
    not_mem_toList_ofList (by decide)
  have hoption : '\n' ∉ " --package ".toList := not_mem_toList_ofList (by decide)
  unfold TemplateContext.secondRemark
  rw [List.mem_append, List.mem_append, List.mem_append, not_or, not_or, not_or]
  exact ⟨⟨⟨hregenerate, h.name⟩, hoption⟩, h.package⟩

end IsInline

end TemplateContext

/-- **The code is two comments and what does not depend on the package.** -/
theorem exists_behind_remarks : ∃ behind : TemplateContext → List Char,
    (∀ c, (Template.store.render c).toList =
      commentLine c.firstRemark ++ (commentLine c.secondRemark ++ behind c)) ∧
    ∀ c package, behind (c.into package) = behind c := by
  obtain ⟨chars, back, hstore, hback⟩ := exists_store_eq
  refine ⟨fun c => chars ++ renderNodes c back, fun c => ?_, fun c package => ?_⟩
  · have hfirst : "// Code generated by sdata-gen for `" =
        "// " ++ "Code generated by sdata-gen for `" := by decide
    have hsecond : "`). DO NOT EDIT.\n// Regenerate with: sdata-gen <source> " =
        "`). DO NOT EDIT." ++ "\n" ++ "// " ++ "Regenerate with: sdata-gen <source> " := by decide
    have hline : "\n".toList = ['\n'] := String.toList_ofList
    rw [Template.render, String.toList_ofList, hstore]
    unfold storeHeader commentLine TemplateContext.firstRemark TemplateContext.remarkStart
      TemplateContext.secondRemark
    rw [hfirst, hsecond]
    simp only [String.toList_append, hline]
    -- only the order of the pieces matters from here on, not their characters
    generalize "// ".toList = slashes, "Code generated by sdata-gen for `".toList = code,
      "` (module `".toList = module, "`). DO NOT EDIT.".toList = edit,
      "Regenerate with: sdata-gen <source> ".toList = regenerate, " --package ".toList = option
    simp only [renderNodes, Node.render, TemplateContext.value, List.append_assoc,
      List.cons_append, List.nil_append]
  · refine congrArg (chars ++ ·) (renderNodes_congr (v := .package) (fun w hw => ?_) back hback)
    cases w <;> first | rfl | exact absurd rfl hw

/-- **The tokens of the code do not depend on the package** if no line ends in the header. -/
theorem tokenizeFile_render {c : TemplateContext} {package : String} (h : c.IsInline)
    (hpackage : '\n' ∉ package.toList) :
    tokenizeFile (Template.store.render (c.into package)).toList =
      tokenizeFile (Template.store.render c).toList := by
  obtain ⟨behind, hrender, hbehind⟩ := exists_behind_remarks
  have h' := h.into hpackage
  rw [hrender, hrender, Source.tokenizeFile_commentLines h.firstRemark h.secondRemark,
    Source.tokenizeFile_commentLines h'.firstRemark h'.secondRemark, hbehind]

/-- **What follows a line feed in the package is read as code**, from the second line on. -/
theorem tokenizeFile_render_of_lineFeed {c : TemplateContext} {line rest : List Char}
    (htype : '\n' ∉ c.type.toList) (hline : '\n' ∉ line)
    (hpackage : c.package.toList = line ++ '\n' :: rest) :
    ∃ behind, tokenizeFile (Template.store.render c).toList =
      (Source.scanFrom ⟨2, 0⟩ (rest ++ behind) ((rest ++ behind).length + 1)).trees := by
  obtain ⟨behind, hrender, -⟩ := exists_behind_remarks
  generalize hmore : commentLine c.secondRemark ++ behind c = more at hrender
  have hstart : '\n' ∉ c.remarkStart ++ line := by
    rw [List.mem_append, not_or]
    exact ⟨TemplateContext.lineFeed_not_mem_remarkStart htype, hline⟩
  have hsplit : (Template.store.render c).toList =
      commentLine (c.remarkStart ++ line) ++
        (rest ++ ("`). DO NOT EDIT.".toList ++ '\n' :: more)) := by
    rw [hrender, hmore]
    unfold TemplateContext.firstRemark commentLine
    rw [hpackage]
    generalize "`). DO NOT EDIT.".toList = edit, "// ".toList = slashes
    simp only [List.append_assoc, List.cons_append, List.nil_append]
  exact ⟨_, by rw [hsplit, Source.tokenizeFile_commentLine hstart]⟩

/-- Whether code is source text is decided by its tokens. -/
theorem checkCode_of_tokens {code code' : String}
    (h : tokenizeFile code'.toList = tokenizeFile code.toList) :
    (∃ e, checkCode code = .error e ∧ checkCode code' = .error e) ∨
      ∃ tokens, tokenizeFile code.toList = .ok tokens ∧ checkCode code = .ok code ∧
        checkCode code' = .ok code' := by
  rw [checkCode, checkCode, Source.SourceText.parse, Source.SourceText.parse, h]
  cases tokenizeFile code.toList with
  | error position => exact Or.inl ⟨_, rfl, rfl⟩
  | ok tokens =>
    dsimp only
    cases Parser.runAll (Parser.fileItems (.for tokens)) .whole tokens with
    | error e => exact Or.inl ⟨_, rfl, rfl⟩
    | ok file => exact Or.inr ⟨tokens, rfl, rfl, rfl⟩

theorem checkCode_of_fault {code : String} {position : Source.Position}
    (h : tokenizeFile code.toList = .error position) :
    checkCode code = .error (.invalidOutput (.scanning position)) := by
  rw [checkCode, Source.SourceText.parse, h]

/-! ### Values for another package -/

variable {options : GenerateOptions} {inputs : RunInputs} {source : SourceFile}
  {struct : StructDef} {c : TemplateContext} {key p q : String}

namespace SourceFile

variable {modulePath : Except ModulePathFault String} {package : Option String}

/-- In every module but the one of the source a struct is called the same. -/
theorem context_of_foreign (hp : source.target (some p) ≠ source.package)
    (hq : source.target (some q) ≠ source.package) :
    source.context modulePath struct key (some q) =
      (source.context modulePath struct key (some p)).map fun c =>
        c.into (source.target (some q)) := by
  have href : source.reference modulePath struct (source.target (some q)) =
      source.reference modulePath struct (source.target (some p)) := by
    rw [reference.eq_def, reference.eq_def, if_neg hp, if_neg hq]
  rw [context, context, href]
  cases source.reference modulePath struct (source.target (some p)) <;> rfl

/-- A struct is called by its name, alone or behind the root or the module of the source. -/
theorem isInline_of_context (hname : '\n' ∉ struct.name.toList)
    (hsource : ∀ m, modulePath = .ok m → '\n' ∉ source.package.toList)
    (htarget : '\n' ∉ (source.target package).toList)
    (h : source.context modulePath struct key package = .ok c) : c.IsInline := by
  obtain ⟨type, typeImport, href, rfl⟩ := context_eq_ok_iff.1 h
  refine ⟨?_, hname, htarget⟩
  rw [reference.eq_def] at href
  split at href
  · cases href
    exact hname
  · split at href
    · cases href
      have hroot : '\n' ∉ "crate::".toList := not_mem_toList_ofList (by decide)
      rw [String.toList_append, List.mem_append, not_or]
      exact ⟨hroot, hname⟩
    · split at href
      · cases href
        have hcolons : '\n' ∉ "::".toList := not_mem_toList_ofList (by decide)
        rw [String.toList_append, String.toList_append, List.mem_append, List.mem_append, not_or,
          not_or]
        exact ⟨⟨hsource _ rfl, hcolons⟩, hname⟩
      · cases href

end SourceFile

namespace GenerateOptions

/-- The same run for a package. -/
def into (options : GenerateOptions) (package : String) : GenerateOptions :=
  { options with package := some package }

/-- **A name of a module other than the one of the source**, in one line. -/
structure IsForeign (options : GenerateOptions) (package : String) : Prop where
  ne_empty : package ≠ ""
  ne_own : package ≠ packageName options.source
  inline : '\n' ∉ package.toList

/-- The definitions of a run are those in the text that it reads. -/
theorem exists_of_parseSource (h : parseSource options inputs = .ok source) :
    ∃ text, inputs.source = .ok text ∧ SourceFile.parse options.source text = .ok source := by
  rw [parseSource] at h
  split at h
  · cases h
  · rename_i text htext
    split at h
    · cases h
    · rename_i hparse
      exact ⟨text, htext, (Except.ok.inj h) ▸ hparse⟩

/-- **The package plays no part until the struct is found**: a run fails before that, or its values
are those for one struct of the source. -/
theorem resolveContext_cases (options : GenerateOptions) (inputs : RunInputs) :
    (∃ e, ∀ package, resolveContext (options.into package) inputs = .error e) ∨
      ∃ text source struct key, SourceFile.parse options.source text = .ok source ∧
        struct ∈ source.structs ∧ ∀ package, resolveContext (options.into package) inputs =
            source.context inputs.modulePath struct key (some package) := by
  have hrun (package : String) : resolveContext (options.into package) inputs =
      parseSource options inputs >>= fun source =>
        source.find options.structName >>= fun struct =>
          struct.primaryKey.mapError .primaryKey >>= fun found =>
            source.context inputs.modulePath struct found.2.name (some package) := rfl
  -- the package is read in the last stage only, so a failure of the others is the same for all
  simp only [hrun]
  cases hsource : parseSource options inputs with
  | error e => exact Or.inl ⟨e, fun _ => rfl⟩
  | ok source =>
    obtain ⟨text, -, hparse⟩ := exists_of_parseSource hsource
    cases hfind : source.find options.structName with
    | error e => exact Or.inl ⟨e, fun _ => by simp only [bind, Except.bind, hfind]⟩
    | ok struct =>
      cases hkey : struct.primaryKey with
      | error e =>
        refine Or.inl ⟨.primaryKey e, fun _ => ?_⟩
        simp only [bind, Except.bind, hfind, hkey, Except.mapError]
      | ok found =>
        refine Or.inr ⟨text, source, struct, found.2.name, hparse,
          SourceFile.mem_structs_of_find hfind, fun _ => ?_⟩
        simp only [bind, Except.bind, hfind, hkey, Except.mapError]

/-! ### Two runs -/

theorem render_of_error {e : GenerateError} (h : resolveContext options inputs = .error e) :
    render options inputs = .error e := by
  rw [render, h]
  rfl

/-- With values, only the code of the built-in template decides. -/
theorem render_of_resolveContext (htemplate : options.template = none)
    (hcontext : resolveContext options inputs = .ok c) :
    render options inputs =
      ((checkCode (Template.store.render c)).mapError .template).map fun code => ⟨c, code⟩ := by
  rw [render, hcontext, ← renderCode_of_none htemplate]
  change renderCode options inputs c >>= _ = _
  cases renderCode options inputs c <;> rfl

/-- **Two packages other than the one of the source give the same tokens**, or the same error. The
code for them differs in two comments only. -/
theorem render_of_packages (htemplate : options.template = none)
    (hsource : ∀ m, inputs.modulePath = .ok m → '\n' ∉ (packageName options.source).toList)
    (hp : options.IsForeign p) (hq : options.IsForeign q) :
    (∃ e, render (options.into p) inputs = .error e ∧
      render (options.into q) inputs = .error e) ∨
    ∃ g g' tokens behind, render (options.into p) inputs = .ok g ∧
      render (options.into q) inputs = .ok g' ∧ g'.context = g.context.into q ∧
      tokenizeFile g.code.toList = .ok tokens ∧ tokenizeFile g'.code.toList = .ok tokens ∧
      g.code.toList =
        commentLine g.context.firstRemark ++ (commentLine g.context.secondRemark ++ behind) ∧
      g'.code.toList =
        commentLine g'.context.firstRemark ++ (commentLine g'.context.secondRemark ++ behind) := by
  rcases resolveContext_cases options inputs with
    ⟨e, he⟩ | ⟨text, source, struct, key, hparse, hstruct, hcontext⟩
  · exact Or.inl ⟨e, render_of_error (he p), render_of_error (he q)⟩
  have hpackage : source.package = packageName options.source := by
    obtain ⟨file, -, rfl⟩ := SourceFile.parse_eq_ok_iff.1 hparse
    rfl
  -- both packages are other modules, and how the struct is called in those is the same
  have hinto : source.context inputs.modulePath struct key (some q) =
      (source.context inputs.modulePath struct key (some p)).map (·.into q) := by
    rw [SourceFile.context_of_foreign (p := p) (q := q), SourceFile.target_of_ne hq.ne_empty]
    · rw [SourceFile.target_of_ne hp.ne_empty, hpackage]
      exact hp.ne_own
    · rw [SourceFile.target_of_ne hq.ne_empty, hpackage]
      exact hq.ne_own
  cases hvalues : source.context inputs.modulePath struct key (some p) with
  | error e =>
    rw [hvalues] at hinto
    exact Or.inl ⟨e, render_of_error ((hcontext p).trans hvalues),
      render_of_error ((hcontext q).trans hinto)⟩
  | ok c =>
    rw [hvalues] at hinto
    have hinline : c.IsInline := by
      have hname : '\n' ∉ struct.name.toList :=
        SourceFile.not_mem_name (by decide) (by decide) (by decide) hparse hstruct
      refine SourceFile.isInline_of_context hname (fun m hm => ?_) ?_ hvalues
      · rw [hpackage]
        exact hsource m hm
      · rw [SourceFile.target_of_ne hp.ne_empty]
        exact hp.inline
    have hstore (package : String) : (options.into package).template = none := htemplate
    have hrunp := render_of_resolveContext (hstore p) ((hcontext p).trans hvalues)
    have hrunq := render_of_resolveContext (hstore q) ((hcontext q).trans hinto)
    have hsame := tokenizeFile_render hinline hq.inline
    rcases checkCode_of_tokens hsame with ⟨e, he, he'⟩ | ⟨tokens, htokens, hcode, hcode'⟩
    · rw [he] at hrunp
      rw [he'] at hrunq
      exact Or.inl ⟨.template e, hrunp, hrunq⟩
    · rw [hcode] at hrunp
      rw [hcode'] at hrunq
      obtain ⟨behind, hrender, hbehind⟩ := exists_behind_remarks
      refine Or.inr ⟨_, _, tokens, behind c, hrunp, hrunq, rfl, htokens, hsame.trans htokens,
        hrender c, ?_⟩
      rw [hrender, hbehind]

/-! ### Packages for a root -/

/-- The struct of the sample is asked for. -/
def looseOptions : GenerateOptions := { source := "lib.rs", structName := "A" }

theorem packageName_looseOptions : packageName looseOptions.source = "crate" := by decide

theorem hasSource_of_looseRoot (package : String) :
    (looseOptions.into package).HasSource looseRoot ⟨"lib.rs", "crate", [looseStruct]⟩ := by
  have hname : FileTree.IsName "lib.rs" :=
    .of_chars String.toList_ofList (by decide) (by decide) (by decide) (by decide) (by decide)
      (by decide)
  exact ⟨looseText, readText_of_file hname rfl, SourceFile.parse_looseRoot⟩

/-- The values for every package other than the root. -/
theorem resolveContext_looseRoot (hp : p ≠ "") (hroot : p ≠ "crate") :
    resolveContext (looseOptions.into p) (looseRoot.runInputs looseOptions) =
      .ok (looseContext p "crate::A") := by
  have hkey : ∃ index key, looseStruct.primaryKey = .ok (index, key) ∧ key.name = "0" :=
    ⟨_, _, rfl, rfl⟩
  obtain ⟨index, key, hkey, hname⟩ := hkey
  have hcontext : SourceFile.context ⟨"lib.rs", "crate", [looseStruct]⟩ (.error .noPackage)
      looseStruct "0" (some p) = .ok (looseContext p "crate::A") := by
    refine SourceFile.context_eq_ok_iff.2 ⟨"crate::A", "", ?_, ?_⟩
    · rw [SourceFile.reference.eq_def, SourceFile.target_of_ne hp, if_neg hroot]
      rfl
    · rw [SourceFile.target_of_ne hp]
      rfl
  refine (resolveContext_of_ok (hasSource_of_looseRoot p) (SourceFile.find_eq_ok_iff.2 rfl)
    hkey).trans ?_
  rw [hname]
  exact (congrArg (SourceFile.context _ · _ _ _) SourceFile.modulePath_looseRoot).trans hcontext

/-- Whether characters are source text. -/
def isSource (cs : List Char) : Bool :=
  match tokenizeFile cs with
  | .error _ => false
  | .ok tokens => (Parser.runAll (Parser.fileItems (.for tokens)) .whole tokens).toOption.isSome

theorem checkCode_of_isSource {code : String} (h : isSource code.toList = true) :
    checkCode code = .ok code := by
  rw [isSource] at h
  rw [checkCode, Source.SourceText.parse]
  cases htokens : tokenizeFile code.toList with
  | error position =>
    rw [htokens] at h
    cases h
  | ok tokens =>
    rw [htokens] at h
    dsimp only at h ⊢
    cases hfile : Parser.runAll (Parser.fileItems (.for tokens)) .whole tokens with
    | error e =>
      rw [hfile] at h
      cases h
    | ok file => rfl

/-- Whether a template gives source text for some values. -/
def isSourceFor (c : TemplateContext) (template : Template) : Bool :=
  isSource (renderNodes c template)

/-- Values for which the built-in template, as it is read, gives source text have code. -/
theorem checkCode_store {c : TemplateContext}
    (h : readStore.toOption.any (isSourceFor c) = true) :
    checkCode (Template.store.render c) = .ok (Template.store.render c) := by
  apply checkCode_of_isSource
  rw [Template.render, String.toList_ofList]
  exact test_store h

theorem readStore_isSource_looseContext :
    readStore.toOption.any (isSourceFor (looseContext "stores" "crate::A")) = true := by
  decide +kernel

/-- There is code for one package at least. -/
theorem exists_render_looseRoot :
    ∃ g, render (looseOptions.into "stores") (looseRoot.runInputs looseOptions) = .ok g := by
  have hrun := render_of_resolveContext rfl
    (resolveContext_looseRoot (p := "stores") (by decide) (by decide))
  rw [checkCode_store readStore_isSource_looseContext] at hrun
  exact ⟨_, hrun⟩

theorem isForeign_stores : looseOptions.IsForeign "stores" :=
  ⟨by decide, by rw [packageName_looseOptions]; decide, not_mem_toList_ofList (by decide)⟩

theorem isForeign_tests : looseOptions.IsForeign "tests" :=
  ⟨by decide, by rw [packageName_looseOptions]; decide, not_mem_toList_ofList (by decide)⟩

/-- Stores of one struct for two packages have the same tokens. -/
theorem render_of_packages_of_looseRoot :
    ∃ g g' tokens,
      render (looseOptions.into "stores") (looseRoot.runInputs looseOptions) = .ok g ∧
        render (looseOptions.into "tests") (looseRoot.runInputs looseOptions) = .ok g' ∧
        tokenizeFile g.code.toList = .ok tokens ∧ tokenizeFile g'.code.toList = .ok tokens := by
  have hsource (m : String) (_ : (looseRoot.runInputs looseOptions).modulePath = .ok m) :
      '\n' ∉ (packageName looseOptions.source).toList := by
    rw [packageName_looseOptions]
    decide +kernel
  obtain ⟨g, hg⟩ := exists_render_looseRoot
  rcases render_of_packages rfl hsource isForeign_stores isForeign_tests with
    ⟨e, he, -⟩ | ⟨g, g', tokens, -, hstores, htests, -, htokens, htokens', -⟩
  · cases hg.symm.trans he
  · exact ⟨g, g', tokens, hstores, htests, htokens, htokens'⟩

/-- **A package with a line feed can be told from others**: there is code for `stores`, and none for
this name with a second line that starts with a character that no token starts with. -/
theorem render_ne_of_lineFeed :
    (∃ g, render (looseOptions.into "stores") (looseRoot.runInputs looseOptions) = .ok g) ∧
      "stores\n`" ≠ "" ∧ "stores\n`" ≠ packageName looseOptions.source ∧
        ∃ e, render (looseOptions.into "stores\n`") (looseRoot.runInputs looseOptions) =
          .error e := by
  refine ⟨exists_render_looseRoot, by decide, by rw [packageName_looseOptions]; decide, ?_⟩
  have hlines : "stores\n`".toList = "stores".toList ++ '\n' :: ['`'] := by decide +kernel
  have htype : '\n' ∉ "crate::A".toList := by decide +kernel
  have hline : '\n' ∉ "stores".toList := by decide +kernel
  obtain ⟨behind, htokens⟩ := tokenizeFile_render_of_lineFeed
    (c := looseContext "stores\n`" "crate::A") htype hline hlines
  have hstep : Source.step ('`' :: behind) = .fault :=
    Source.step_of_no_start ⟨by decide, by decide, by decide, by decide, by decide⟩
      (by decide +kernel) (by decide +kernel) behind
  have hfault : tokenizeFile (Template.store.render (looseContext "stores\n`" "crate::A")).toList =
      .error ⟨2, 0⟩ := by
    rw [htokens, List.singleton_append, Source.scanFrom, hstep]
    rfl
  have hrun := render_of_resolveContext rfl
    (resolveContext_looseRoot (p := "stores\n`") (by decide) (by decide))
  rw [checkCode_of_fault hfault] at hrun
  exact ⟨_, hrun⟩

end GenerateOptions

end RecordStore
