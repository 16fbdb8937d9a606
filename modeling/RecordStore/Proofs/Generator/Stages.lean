import Mathlib.Tactic.Tauto
import RecordStore.Generator.Run
import RecordStore.Proofs.Definition.File
import RecordStore.Proofs.FileTree
import RecordStore.Proofs.Generator.Context
import RecordStore.Proofs.Text.Utf8

/-!
# Runs of the generator are all or nothing

A run has six stages, and each can fail in its own ways
(`RecordStore.GenerateOptions.FailsAt`). Nothing keeps several of them from failing at
once: a template that cannot be read has nothing to do with a key that is missing, or
with a destination that cannot be written. What is reported is the failure of the
first stage that fails (`RecordStore.FirstFailure`), and then the file tree is as it
was. A run that succeeds changes one file, the destination, which holds the code
(`RecordStore.GenerateOptions.all_or_nothing`), even where the destination is one of
the files that were read.
-/

namespace RecordStore

/-! ### The first failure -/

section FirstFailure

variable {σ ε α β : Type} {fails : σ → ε → Prop}

/-- **The first failure among stages** that come one after the other: a stage fails so, and none of
those before it fails. -/
def FirstFailure (fails : σ → ε → Prop) (stages : List σ) (e : ε) : Prop :=
  ∃ before stage after, stages = before ++ stage :: after ∧
    (∀ earlier ∈ before, ∀ e', ¬ fails earlier e') ∧ fails stage e

theorem not_firstFailure_nil (e : ε) : ¬ FirstFailure fails [] e := by
  rintro ⟨before, stage, after, h, -⟩
  cases before <;> cases h

theorem firstFailure_cons {stage : σ} {stages : List σ} {e : ε} :
    FirstFailure fails (stage :: stages) e ↔
      fails stage e ∨ (∀ e', ¬ fails stage e') ∧ FirstFailure fails stages e := by
  constructor
  · rintro ⟨before, first, after, h, hbefore, hfirst⟩
    cases before with
    | nil =>
      cases h
      exact Or.inl hfirst
    | cons s before =>
      cases h
      obtain ⟨hstage, hbefore⟩ := List.forall_mem_cons.1 hbefore
      exact Or.inr ⟨hstage, before, first, after, rfl, hbefore, hfirst⟩
  · rintro (h | ⟨hstage, before, first, after, rfl, hbefore, hfirst⟩)
    · exact ⟨[], stage, stages, rfl, by simp, h⟩
    · exact ⟨stage :: before, first, after, rfl, List.forall_mem_cons.2 ⟨hstage, hbefore⟩, hfirst⟩

theorem firstFailure_singleton {stage : σ} {e : ε} :
    FirstFailure fails [stage] e ↔ fails stage e := by
  rw [firstFailure_cons]
  exact or_iff_left fun h => not_firstFailure_nil e h.2

/-- There is a first failure if there is any. -/
theorem exists_firstFailure_iff {l : List σ} :
    (∃ e, FirstFailure fails l e) ↔ ∃ stage ∈ l, ∃ e, fails stage e := by
  induction l with
  | nil => simp [not_firstFailure_nil]
  | cons stage l ih =>
    simp only [firstFailure_cons, exists_or, exists_and_left, ih, List.mem_cons, exists_eq_or_imp]
    by_cases hstage : ∃ e, fails stage e
    · simp [hstage]
    · simp only [hstage, false_or]
      exact and_iff_right fun e he => hstage ⟨e, he⟩

theorem firstFailure_append {l r : List σ} {e : ε} : FirstFailure fails (l ++ r) e ↔
    FirstFailure fails l e ∨ (∀ e', ¬ FirstFailure fails l e') ∧ FirstFailure fails r e := by
  induction l with
  | nil => simp [not_firstFailure_nil]
  | cons stage l ih =>
    rw [List.cons_append, firstFailure_cons, ih]
    simp only [firstFailure_cons, not_or, forall_and, not_and]
    tauto

/-- **What comes one after the other reports the first failure.** -/
theorem bind_eq_error_iff {l r : List σ} {x : Except ε α} {f : α → Except ε β}
    (hx : ∀ e, x = .error e ↔ FirstFailure fails l e)
    (hf : ∀ a, x = .ok a → ∀ e, f a = .error e ↔ FirstFailure fails r e) (e : ε) :
    (x >>= f) = .error e ↔ FirstFailure fails (l ++ r) e := by
  rw [firstFailure_append, ← hx]
  cases x with
  | error e' =>
    have hfails : ¬ ∀ e'', ¬ FirstFailure fails l e'' := fun h => h e' ((hx e').1 rfl)
    rw [or_iff_left fun h => hfails h.1]
    change (.error e' : Except ε β) = .error e ↔ _
    rw [Except.error.injEq, Except.error.injEq]
  | ok a =>
    have hnone : ∀ e', ¬ FirstFailure fails l e' := by
      intro e' h
      cases (hx e').2 h
    rw [or_iff_right (by simp), and_iff_right hnone, ← hf a rfl e]
    exact Iff.rfl

theorem stage_bind_eq_error_iff {stage : σ} {r : List σ} {x : Except ε α} {f : α → Except ε β}
    (hx : ∀ e, x = .error e ↔ fails stage e)
    (hf : ∀ a, x = .ok a → ∀ e, f a = .error e ↔ FirstFailure fails r e) (e : ε) :
    (x >>= f) = .error e ↔ FirstFailure fails (stage :: r) e :=
  bind_eq_error_iff (l := [stage]) (fun e => (hx e).trans firstFailure_singleton.symm) hf e

end FirstFailure

/-! ### How each stage fails -/

/-- The stages of a run. -/
inductive Stage
  | source
  | lookup
  | primaryKey
  | modulePath
  | template
  | output

namespace Stage

/-- The stages that lead to the values of the template, in order. -/
def ofContext : List Stage := [source, lookup, primaryKey, modulePath]

/-- The stages up to the writing, in order. -/
def ofRendering : List Stage := ofContext ++ [template]

/-- **All stages in order.** -/
def all : List Stage := ofRendering ++ [output]

theorem mem_all (stage : Stage) : stage ∈ all := by
  cases stage <;> simp [all, ofRendering, ofContext]

end Stage

/-- Whatever is written to a path, it fails in this way. -/
def FileTree.Refuses (tree : FileTree) (path : String) (fault : FileFault) : Prop :=
  ∀ content, tree.write path content = .error fault

/-- **Code is delivered** to the standard output without a change of the tree, and to a file by one
change: the file that the path leads to holds the code, and nothing else is different. -/
def Output.Delivered (output : Output) (code : String) (tree after : FileTree) : Prop :=
  match output with
  | .stdout => after = tree
  | .file path => after.read path = .ok (Text.utf8 code) ∧ ∃ place,
      after.canonical path = .ok place ∧ after = tree.set place (some (.file (Text.utf8 code)))

namespace GenerateOptions

/-- The source file of a run. -/
def HasSource (options : GenerateOptions) (tree : FileTree) (source : SourceFile) : Prop :=
  ∃ text, tree.readText options.source = .ok text ∧
    SourceFile.parse options.source text = .ok source

/-- The module path of the source is needed: the code is for another module, and the source is
not at the root of the package. -/
def NeedsImport (options : GenerateOptions) (source : SourceFile) : Prop :=
  source.target options.package ≠ source.package ∧ source.package ≠ "crate"

/-- **How the stages of a run fail**, each for itself. -/
inductive FailsAt (options : GenerateOptions) (stdoutFault : Option FileFault) (tree : FileTree) :
    Stage → GenerateError → Prop
  | unreadable {fault : FileFault} (h : tree.readText options.source = .error fault) :
    FailsAt options stdoutFault tree .source (.unreadable options.source fault)
  | malformed {text : String} {e : Source.SyntaxError}
    (h : tree.readText options.source = .ok text)
    (he : SourceFile.parse options.source text = .error e) :
    FailsAt options stdoutFault tree .source (.malformed options.source e)
  | noStructs {source : SourceFile} (h : options.HasSource tree source)
    (hnone : source.structs = []) :
    FailsAt options stdoutFault tree .lookup (.noStructs options.source)
  | structNotFound {source : SourceFile} (h : options.HasSource tree source)
    (hsome : source.structs ≠ []) (hnone : ∀ s ∈ source.structs, s.name ≠ options.structName) :
    FailsAt options stdoutFault tree .lookup (.structNotFound options.structName options.source)
  | ambiguousStruct {source : SourceFile} (h : options.HasSource tree source)
    (hseveral : 2 ≤ (source.named options.structName).length) :
    FailsAt options stdoutFault tree .lookup
      (.ambiguousStruct options.structName options.source (source.named options.structName).length)
  | primaryKey {source : SourceFile} {struct : StructDef} {e : PrimaryKeyError}
    (h : options.HasSource tree source) (hone : source.named options.structName = [struct])
    (he : struct.primaryKey = .error e) :
    FailsAt options stdoutFault tree .primaryKey (.primaryKey e)
  | modulePath {source : SourceFile} {fault : ModulePathFault} (h : options.HasSource tree source)
    (hneeds : options.NeedsImport source) (hfault : tree.modulePath options.source = .error fault) :
    FailsAt options stdoutFault tree .modulePath (.modulePath options.source fault)
  | templateUnreadable {path : String} {fault : FileFault}
    (htemplate : options.template = some path) (h : tree.readText path = .error fault) :
    FailsAt options stdoutFault tree .template (.template (.unreadable path fault))
  | templateMalformed {path text : String} {e : TemplateError}
    (htemplate : options.template = some path) (h : tree.readText path = .ok text)
    (he : Template.parse text = .error e) :
    FailsAt options stdoutFault tree .template (.template (.malformed e))
  | invalidOutput {context : TemplateContext} {e : Source.SyntaxError}
    (htemplate : options.template = none)
    (h : resolveContext options (tree.runInputs options) = .ok context)
    (he : Source.SourceText.parse (Template.store.render context) = .error e) :
    FailsAt options stdoutFault tree .template (.template (.invalidOutput e))
  | unwritable {path : String} {fault : FileFault} (houtput : options.output = .file path)
    (h : tree.Refuses path fault) :
    FailsAt options stdoutFault tree .output (.unwritable path fault)
  | stdout {fault : FileFault} (houtput : options.output = .stdout) (h : stdoutFault = some fault) :
    FailsAt options stdoutFault tree .output (.unwritable stdoutName fault)

variable {options : GenerateOptions} {stdoutFault : Option FileFault} {tree : FileTree}
  {source : SourceFile} {struct : StructDef} {e : GenerateError}

/-! ### Each stage reports its failures -/

theorem HasSource.unique {source' : SourceFile} (h : options.HasSource tree source)
    (h' : options.HasSource tree source') : source' = source := by
  obtain ⟨text, htext, hsource⟩ := h
  obtain ⟨text', htext', hsource'⟩ := h'
  cases htext.symm.trans htext'
  exact Except.ok.inj (hsource'.symm.trans hsource)

theorem parseSource_eq_ok_iff :
    parseSource options (tree.runInputs options) = .ok source ↔ options.HasSource tree source := by
  rw [parseSource, FileTree.runInputs, HasSource]
  cases tree.readText options.source with
  | error fault => simp
  | ok text =>
    cases hparse : SourceFile.parse options.source text with
    | error e => simp [hparse]
    | ok source' => simp [hparse]

theorem parseSource_eq_error_iff (e : GenerateError) :
    parseSource options (tree.runInputs options) = .error e ↔
      FailsAt options stdoutFault tree .source e := by
  rw [parseSource, FileTree.runInputs]
  cases hread : tree.readText options.source with
  | error fault =>
    constructor
    · rintro ⟨⟩
      exact .unreadable hread
    · intro h
      cases h with
      | unreadable h =>
        cases hread.symm.trans h
        rfl
      | malformed h => cases hread.symm.trans h
  | ok text =>
    cases hparse : SourceFile.parse options.source text with
    | error e =>
      simp only [hparse]
      constructor
      · rintro ⟨⟩
        exact .malformed hread hparse
      · intro h
        cases h with
        | unreadable h => cases hread.symm.trans h
        | malformed h he =>
          cases hread.symm.trans h
          cases hparse.symm.trans he
          rfl
    | ok source =>
      simp only [hparse]
      constructor
      · rintro ⟨⟩
      · intro h
        cases h with
        | unreadable h => cases hread.symm.trans h
        | malformed h he =>
          cases hread.symm.trans h
          cases hparse.symm.trans he

/-- A source file knows where it is. -/
theorem HasSource.path_eq (h : options.HasSource tree source) : source.path = options.source := by
  obtain ⟨text, -, hparse⟩ := h
  obtain ⟨file, -, rfl⟩ := SourceFile.parse_eq_ok_iff.1 hparse
  rfl

theorem find_eq_error_iff (h : options.HasSource tree source) (e : GenerateError) :
    source.find options.structName = .error e ↔ FailsAt options stdoutFault tree .lookup e := by
  rw [SourceFile.find, h.path_eq]
  constructor
  · intro hfind
    split at hfind
    · rename_i hempty
      cases hfind
      exact .noStructs h (List.isEmpty_iff.1 hempty)
    · rename_i hsome
      rcases hnamed : source.named options.structName with _ | ⟨found, _ | ⟨other, more⟩⟩ <;>
        rw [hnamed] at hfind <;> cases hfind
      · exact .structNotFound h (fun hnil => hsome (List.isEmpty_iff.2 hnil))
          (SourceFile.named_eq_nil_iff.1 hnamed)
      · rw [← hnamed]
        exact .ambiguousStruct h (by simp [hnamed])
  · intro hfails
    cases hfails with
    | noStructs h' hnone =>
      cases h.unique h'
      rw [hnone]
      rfl
    | structNotFound h' hsome hnone =>
      cases h.unique h'
      rw [SourceFile.named_eq_nil_iff.2 hnone,
        if_neg fun hempty => hsome (List.isEmpty_iff.1 hempty)]
    | ambiguousStruct h' hseveral =>
      cases h.unique h'
      have hsome : ¬ source.structs.isEmpty = true := by
        intro hempty
        simp [SourceFile.named, List.isEmpty_iff.1 hempty] at hseveral
      rw [if_neg hsome]
      rcases hnamed : source.named options.structName with _ | ⟨found, _ | ⟨other, more⟩⟩
      · simp [hnamed] at hseveral
      · simp [hnamed] at hseveral
      · rfl

theorem mapError_eq_error_iff {ε ε' α : Type} {x : Except ε α} {f : ε → ε'} {e : ε'} :
    x.mapError f = .error e ↔ ∃ fault, x = .error fault ∧ e = f fault := by
  cases x <;> simp [Except.mapError, eq_comm]

theorem primaryKey_eq_error_iff (h : options.HasSource tree source)
    (hone : source.find options.structName = .ok struct) (e : GenerateError) :
    struct.primaryKey.mapError .primaryKey = .error e ↔
      FailsAt options stdoutFault tree .primaryKey e := by
  have hnamed := SourceFile.find_eq_ok_iff.1 hone
  rw [mapError_eq_error_iff]
  constructor
  · rintro ⟨fault, hfault, rfl⟩
    exact .primaryKey h hnamed hfault
  · intro hfails
    cases hfails with
    | primaryKey h' hnamed' hfault =>
      cases h.unique h'
      cases hnamed.symm.trans hnamed'
      exact ⟨_, hfault, rfl⟩

/-- A type is called through its module only where the module has to be imported. -/
theorem context_eq_error_iff_needsImport (modulePath : Except ModulePathFault String)
    (key : String) (e : GenerateError) :
    source.context modulePath struct key options.package = .error e ↔
      options.NeedsImport source ∧
        ∃ fault, modulePath = .error fault ∧ e = .modulePath source.path fault := by
  rw [SourceFile.context_eq_error_iff_reference, SourceFile.reference.eq_def, NeedsImport]
  by_cases htarget : source.target options.package = source.package
  · simp [htarget]
  · by_cases hroot : source.package = "crate"
    · rw [if_neg htarget, if_pos hroot]
      simp [hroot]
    · rw [if_neg htarget, if_neg hroot]
      cases modulePath <;> simp [htarget, hroot, eq_comm]

theorem context_eq_error_iff (h : options.HasSource tree source) (key : String)
    (e : GenerateError) :
    source.context (tree.modulePath options.source) struct key options.package = .error e ↔
      FailsAt options stdoutFault tree .modulePath e := by
  rw [context_eq_error_iff_needsImport, h.path_eq]
  constructor
  · rintro ⟨hneeds, fault, hfault, rfl⟩
    exact .modulePath h hneeds hfault
  · intro hfails
    cases hfails with
    | modulePath h' hneeds hfault =>
      cases h.unique h'
      exact ⟨hneeds, _, hfault, rfl⟩

theorem checkCode_eq_error_iff {code : String} {e : TemplateFailure} :
    checkCode code = .error e ↔
      ∃ fault, Source.SourceText.parse code = .error fault ∧ e = .invalidOutput fault := by
  rw [checkCode]
  cases Source.SourceText.parse code <;> simp [eq_comm]

theorem renderFile_eq_error_iff {path : String} {text : Except FileFault String}
    {context : TemplateContext} {e : TemplateFailure} :
    renderFile path text context = .error e ↔
      (∃ fault, text = .error fault ∧ e = .unreadable path fault) ∨
        ∃ chars fault, text = .ok chars ∧ Template.parse chars = .error fault ∧
          e = .malformed fault := by
  cases text with
  | error fault => simp [renderFile, eq_comm]
  | ok chars => cases hparse : Template.parse chars <;> simp [renderFile, hparse, eq_comm]

theorem renderCode_of_none {inputs : RunInputs} {context : TemplateContext}
    (h : options.template = none) :
    renderCode options inputs context =
      (checkCode (Template.store.render context)).mapError .template := by
  rw [renderCode, h, renderStore]

theorem renderCode_of_some {inputs : RunInputs} {context : TemplateContext} {path : String}
    (h : options.template = some path) :
    renderCode options inputs context =
      (renderFile path (inputs.template path) context).mapError .template := by
  rw [renderCode, h]

theorem renderCode_eq_error_iff {context : TemplateContext}
    (h : resolveContext options (tree.runInputs options) = .ok context) (e : GenerateError) :
    renderCode options (tree.runInputs options) context = .error e ↔
      FailsAt options stdoutFault tree .template e := by
  rcases htemplate : options.template with _ | path
  · rw [renderCode_of_none htemplate, mapError_eq_error_iff]
    simp only [checkCode_eq_error_iff]
    constructor
    · rintro ⟨_, ⟨fault, hfault, rfl⟩, rfl⟩
      exact .invalidOutput htemplate h hfault
    · intro hfails
      cases hfails with
      | templateUnreadable h' => cases htemplate.symm.trans h'
      | templateMalformed h' => cases htemplate.symm.trans h'
      | invalidOutput _ h' he =>
        cases h.symm.trans h'
        exact ⟨_, ⟨_, he, rfl⟩, rfl⟩
  · rw [renderCode_of_some htemplate, mapError_eq_error_iff]
    simp only [renderFile_eq_error_iff, FileTree.runInputs]
    constructor
    · rintro ⟨_, ⟨fault, hfault, rfl⟩ | ⟨text, fault, htext, hfault, rfl⟩, rfl⟩
      · exact .templateUnreadable htemplate hfault
      · exact .templateMalformed htemplate htext hfault
    · intro hfails
      cases hfails with
      | templateUnreadable h' hfault =>
        cases htemplate.symm.trans h'
        exact ⟨_, Or.inl ⟨_, hfault, rfl⟩, rfl⟩
      | templateMalformed h' htext hfault =>
        cases htemplate.symm.trans h'
        exact ⟨_, Or.inr ⟨_, _, htext, hfault, rfl⟩, rfl⟩
      | invalidOutput h' => cases htemplate.symm.trans h'

/-! ### The writing -/

/-- The fault of a writing has nothing to do with what is written. -/
theorem write_eq_error_iff {path : String} {fault : FileFault} {content : Bytes} :
    tree.write path content = .error fault ↔ tree.Refuses path fault := by
  refine ⟨fun h other => ?_, fun h => h content⟩
  unfold FileTree.write at h ⊢
  cases hres : tree.resolve path with
  | error fault' =>
    rw [hres] at h
    exact h
  | ok r =>
    rw [hres] at h
    cases r with
    | directory place => exact h
    | file place old =>
      change (if path.endsWith "/" = true then _ else _) = _ at h ⊢
      split at h
      · rename_i hslash
        rw [if_pos hslash]
        exact h
      · cases h
    | free place =>
      change (if path.endsWith "/" = true then _ else _) = _ at h ⊢
      split at h
      · rename_i hslash
        rw [if_pos hslash]
        exact h
      · cases h

/-! ### Runs -/

theorem resolveContext_eq_error_iff (e : GenerateError) :
    resolveContext options (tree.runInputs options) = .error e ↔
      FirstFailure (FailsAt options stdoutFault tree) Stage.ofContext e := by
  -- each stage finds what the earlier ones have found
  refine stage_bind_eq_error_iff parseSource_eq_error_iff (fun source hsource => ?_) e
  have hsource := parseSource_eq_ok_iff.1 hsource
  refine stage_bind_eq_error_iff (find_eq_error_iff hsource) fun struct hstruct => ?_
  refine stage_bind_eq_error_iff (primaryKey_eq_error_iff hsource hstruct) fun key _ e => ?_
  rw [firstFailure_singleton]
  exact context_eq_error_iff hsource key.2.name e

theorem render_eq_error_iff (e : GenerateError) :
    render options (tree.runInputs options) = .error e ↔
      FirstFailure (FailsAt options stdoutFault tree) Stage.ofRendering e := by
  refine bind_eq_error_iff resolveContext_eq_error_iff (fun context hcontext e => ?_) e
  rw [firstFailure_singleton, ← renderCode_eq_error_iff hcontext]
  cases renderCode options (tree.runInputs options) context <;>
    simp [bind, Except.bind, pure, Except.pure]

theorem bind_apply {α β : Type} (x : RunM α) (f : α → RunM β) (tree : FileTree) :
    (x >>= f) tree =
      match x tree with
      | (.ok a, after) => f a after
      | (.error e, after) => (.error e, after) := by
  change ExceptT.bind x f tree = _
  simp only [ExceptT.bind, ExceptT.mk, bind, StateT.bind]
  rcases x tree with ⟨e | a, after⟩ <;> rfl

theorem get_apply (tree : FileTree) : (get : RunM FileTree) tree = (.ok tree, tree) := rfl

/-- Rendering looks at the tree, and leaves it as it is. -/
theorem rendering_apply (options : GenerateOptions) (tree : FileTree) :
    options.rendering tree = (render options (tree.runInputs options), tree) := by
  rw [rendering, bind_apply, get_apply]
  dsimp only
  cases render options (tree.runInputs options) <;> rfl

theorem write_stdout (stdoutFault : Option FileFault) (code : String) (tree : FileTree) :
    Output.stdout.write stdoutFault code tree =
      match stdoutFault with
      | none => (.ok (), tree)
      | some fault => (.error (.unwritable stdoutName fault), tree) := by
  cases stdoutFault <;> rfl

theorem write_file (path : String) (stdoutFault : Option FileFault) (code : String)
    (tree : FileTree) :
    (Output.file path).write stdoutFault code tree =
      match tree.write path (Text.utf8 code) with
      | .ok after => (.ok (), after)
      | .error fault => (.error (.unwritable path fault), tree) := by
  rw [Output.write, bind_apply, get_apply]
  dsimp only
  cases tree.write path (Text.utf8 code) <;> rfl

/-- **What a run does**: it renders, and then it writes. -/
theorem run_apply (options : GenerateOptions) (stdoutFault : Option FileFault) (tree : FileTree) :
    options.run stdoutFault tree =
      match render options (tree.runInputs options) with
      | .error e => (.error e, tree)
      | .ok g =>
        match options.output.write stdoutFault g.code tree with
        | (.error e, after) => (.error e, after)
        | (.ok _, after) => (.ok g, after) := by
  rw [run, bind_apply, rendering_apply]
  cases render options (tree.runInputs options) with
  | error e => rfl
  | ok g =>
    dsimp only
    rw [bind_apply]
    rcases options.output.write stdoutFault g.code tree with ⟨e | u, after⟩ <;> rfl

/-- The writing reports the failures of the last stage. -/
theorem write_fst_eq_error_iff (code : String) :
    (options.output.write stdoutFault code tree).1 = .error e ↔
      FailsAt options stdoutFault tree .output e := by
  cases houtput : options.output with
  | stdout =>
    rw [write_stdout]
    constructor
    · intro h
      cases hstdout : stdoutFault with
      | none =>
        rw [hstdout] at h
        cases h
      | some fault =>
        rw [hstdout] at h
        cases h
        exact .stdout houtput rfl
    · intro h
      cases h with
      | unwritable h' => cases houtput.symm.trans h'
      | stdout _ hfault => rw [hfault]
  | file path =>
    rw [write_file]
    constructor
    · intro h
      cases hwrite : tree.write path (Text.utf8 code) with
      | ok after =>
        rw [hwrite] at h
        cases h
      | error fault =>
        rw [hwrite] at h
        cases h
        exact .unwritable houtput (write_eq_error_iff.1 hwrite)
    · intro h
      cases h with
      | unwritable h' hfault =>
        cases houtput.symm.trans h'
        rw [hfault]
      | stdout h' => cases houtput.symm.trans h'

/-- A writing that fails leaves the tree as it is. -/
theorem tree_of_write_error {output : Output} {code : String} {after : FileTree}
    (h : output.write stdoutFault code tree = (.error e, after)) : after = tree := by
  cases output with
  | stdout =>
    rw [write_stdout] at h
    cases stdoutFault <;> cases h
    rfl
  | file path =>
    rw [write_file] at h
    cases hwrite : tree.write path (Text.utf8 code) <;> rw [hwrite] at h <;> cases h
    rfl

theorem delivered_of_write {output : Output} {code : String} {after : FileTree} {u : Unit}
    (h : output.write stdoutFault code tree = (.ok u, after)) :
    output.Delivered code tree after := by
  cases output with
  | stdout =>
    rw [write_stdout] at h
    cases stdoutFault <;> cases h
    rfl
  | file path =>
    rw [write_file] at h
    cases hwrite : tree.write path (Text.utf8 code) with
    | error fault =>
      rw [hwrite] at h
      cases h
    | ok after' =>
      rw [hwrite] at h
      cases h
      obtain ⟨r, place, hres, hplace, hslash, rfl⟩ := FileTree.write_eq_ok_iff.1 hwrite
      refine ⟨FileTree.read_of_write hwrite, place.reverse, ?_, rfl⟩
      rw [FileTree.canonical, FileTree.resolve_set hres hplace]
      exact if_neg hslash

theorem run_fst (options : GenerateOptions) (stdoutFault : Option FileFault) (tree : FileTree) :
    (options.run stdoutFault tree).1 = render options (tree.runInputs options) >>= fun g =>
      (options.output.write stdoutFault g.code tree).1.map fun _ => g := by
  rw [run_apply]
  cases render options (tree.runInputs options) with
  | error e => rfl
  | ok g =>
    change _ = (options.output.write stdoutFault g.code tree).1.map fun _ => g
    dsimp only
    rcases options.output.write stdoutFault g.code tree with ⟨e | u, after⟩ <;> rfl

theorem run_eq_error_iff (e : GenerateError) : (options.run stdoutFault tree).1 = .error e ↔
    FirstFailure (FailsAt options stdoutFault tree) Stage.all e := by
  rw [run_fst]
  refine bind_eq_error_iff render_eq_error_iff (fun g _ e => ?_) e
  rw [firstFailure_singleton, ← write_fst_eq_error_iff g.code]
  cases (options.output.write stdoutFault g.code tree).1 <;> simp [Except.map]

/-- A run fails without a change of the tree, or it delivers what was rendered. -/
theorem run_cases (options : GenerateOptions) (stdoutFault : Option FileFault) (tree : FileTree) :
    (∃ e, options.run stdoutFault tree = (.error e, tree)) ∨
      ∃ g after, options.run stdoutFault tree = (.ok g, after) ∧
        render options (tree.runInputs options) = .ok g ∧
        options.output.Delivered g.code tree after := by
  rw [run_apply]
  cases render options (tree.runInputs options) with
  | error e => exact Or.inl ⟨e, rfl⟩
  | ok g =>
    dsimp only
    rcases hwrite : options.output.write stdoutFault g.code tree with ⟨e | u, after⟩
    · obtain rfl := tree_of_write_error hwrite
      exact Or.inl ⟨e, rfl⟩
    · exact Or.inr ⟨g, after, rfl, rfl, delivered_of_write hwrite⟩

theorem run_eq_ok_iff : (∃ g, (options.run stdoutFault tree).1 = .ok g) ↔
    ∀ stage e, ¬ FailsAt options stdoutFault tree stage e := by
  have herror : (∃ e, (options.run stdoutFault tree).1 = .error e) ↔
      ∃ stage e, FailsAt options stdoutFault tree stage e := by
    simp only [run_eq_error_iff, exists_firstFailure_iff, Stage.mem_all, true_and]
  have hnone : (∀ stage e, ¬ FailsAt options stdoutFault tree stage e) ↔
      ¬ ∃ e, (options.run stdoutFault tree).1 = .error e := by
    simp only [herror, not_exists]
  rw [hnone]
  cases (options.run stdoutFault tree).1 <;> simp

/-- **A run is all or nothing.** Rendering leaves the tree as it is, and so does every run that
fails; a run that succeeds delivers the code that rendering gives for the tree as it was, and
changes nothing else. A run succeeds exactly if none of its stages fails, and otherwise it reports
the failure of the first stage that does. The same goes for rendering, without the last stage. -/
theorem all_or_nothing (options : GenerateOptions) (stdoutFault : Option FileFault)
    (tree : FileTree) :
    (options.rendering tree).2 = tree ∧
    (∀ e, (options.rendering tree).1 = .error e ↔
      FirstFailure (FailsAt options stdoutFault tree) Stage.ofRendering e) ∧
    (∀ e, (options.run stdoutFault tree).1 = .error e ↔
      FirstFailure (FailsAt options stdoutFault tree) Stage.all e) ∧
    ((∃ g, (options.run stdoutFault tree).1 = .ok g) ↔
      ∀ stage e, ¬ FailsAt options stdoutFault tree stage e) ∧
    (∀ e, (options.run stdoutFault tree).1 = .error e → (options.run stdoutFault tree).2 = tree) ∧
    ∀ g, (options.run stdoutFault tree).1 = .ok g →
      (options.rendering tree).1 = .ok g ∧
        options.output.Delivered g.code tree (options.run stdoutFault tree).2 := by
  refine ⟨?_, ?_, run_eq_error_iff, run_eq_ok_iff, ?_, ?_⟩
  · rw [rendering_apply]
  · rw [rendering_apply]
    exact render_eq_error_iff
  · intro e h
    rcases run_cases options stdoutFault tree with ⟨e', hrun⟩ | ⟨g, after, hrun, -⟩
    · rw [hrun]
    · rw [hrun] at h
      cases h
  · intro g h
    rw [rendering_apply]
    rcases run_cases options stdoutFault tree with ⟨e', hrun⟩ | ⟨g, after, hrun, hrender, hgoes⟩
    · rw [hrun] at h
      cases h
    · rw [hrun] at h ⊢
      cases h
      exact ⟨hrender, hgoes⟩

/-! ### A run that writes its own source -/

theorem resolveContext_of_ok {index : Nat} {key : FieldDef}
    (hsource : options.HasSource tree source)
    (hstruct : source.find options.structName = .ok struct)
    (hkey : struct.primaryKey = .ok (index, key)) :
    resolveContext options (tree.runInputs options) =
      source.context (tree.modulePath options.source) struct key.name options.package := by
  rw [resolveContext, parseSource_eq_ok_iff.2 hsource]
  change source.find options.structName >>= _ = _
  rw [hstruct]
  change struct.primaryKey.mapError GenerateError.primaryKey >>= _ = _
  rw [hkey]
  rfl

theorem render_of_ok {context : TemplateContext} {code : String} {inputs : RunInputs}
    (hcontext : resolveContext options inputs = .ok context)
    (hcode : renderCode options inputs context = .ok code) :
    render options inputs = .ok { context, code } := by
  rw [render, hcontext]
  change renderCode options inputs context >>= _ = _
  rw [hcode]
  rfl

/-- A source file, and a template. -/
def twoFiles : FileTree where
  entry := fun place =>
    if place = ["a.rs"] then some (.file (Text.utf8 "struct A(#[data(primary_key)] String);"))
    else if place = ["t"] then some (.file (Text.utf8 "{{ name }}.{{ primary_key }}"))
    else none

theorem isName_source : FileTree.IsName "a.rs" :=
  .of_chars String.toList_ofList (by decide) (by decide) (by decide) (by decide) (by decide)
    (by decide)

theorem isName_template : FileTree.IsName "t" :=
  .of_chars String.toList_ofList (by decide) (by decide) (by decide) (by decide) (by decide)
    (by decide)

theorem readText_of_file {path text : String} (hname : FileTree.IsName path)
    (hfile : tree.entry [path] = some (.file (Text.utf8 text))) :
    tree.readText path = .ok text := by
  rw [FileTree.readText, (hname.of_file hfile).1]
  simp [Text.decode_utf8, bind, Except.bind, pure, Except.pure]

/-- The template of the sample. -/
theorem parse_nameAndKey : Template.parse "{{ name }}.{{ primary_key }}" =
    .ok [.variable .name, .text ['.'], .variable .primaryKey] := by
  have hcut : Pieces.cut "{{ name }}.{{ primary_key }}".toList =
      ⟨[([], ⟨1, false, "name".toList, false⟩), (['.'], ⟨1, false, "primary_key".toList, false⟩)],
        .chunk []⟩ := by decide +kernel
  have hname : Directive.ofBody "name".toList = .ok (.variable .name) := rfl
  have hkey : Directive.ofBody "primary_key".toList = .ok (.variable .primaryKey) := rfl
  rw [Template.parse, hcut]
  simp only [Builder.run, hname, hkey]
  rfl

/-- The struct in the source file. -/
def keyed : StructDef where
  name := "A"
  fields := [{
    name := "0"
    type := "String"
    tags := .ofList [("data", ["primary_key"])]
    rawTags := ["# [data (primary_key)]"] }]

theorem hasSource_of_twoFiles (h : options.source = "a.rs") :
    options.HasSource twoFiles ⟨"a.rs", packageName "a.rs", [keyed]⟩ := by
  rw [HasSource, h]
  exact ⟨_, readText_of_file isName_source rfl, SourceFile.parse_of_structs (by decide +kernel)⟩

/-- **The code goes where the source was**, and of three stages that fail the first is reported. -/
theorem all_or_nothing_of_twoFiles :
    let options : GenerateOptions :=
      { source := "a.rs", structName := "A", output := .file "a.rs", template := some "t" }
    let wrong : GenerateOptions :=
      { options with structName := "B", output := .file "", template := some "" }
    (∃ g, (options.run none twoFiles).1 = .ok g ∧ g.code = "A.0" ∧
      (options.rendering twoFiles).1 = .ok g ∧
      options.output.Delivered g.code twoFiles (options.run none twoFiles).2) ∧
    FailsAt wrong none twoFiles .template (.template (.unreadable "" .notFound)) ∧
    FailsAt wrong none twoFiles .output (.unwritable "" .notFound) ∧
    (wrong.run none twoFiles).1 = .error (.structNotFound "B" "a.rs") ∧
    (wrong.run none twoFiles).2 = twoFiles := by
  intro options wrong
  obtain ⟨-, -, -, -, -, hdelivered⟩ := all_or_nothing options none twoFiles
  obtain ⟨-, -, herror, -, hunchanged, -⟩ := all_or_nothing wrong none twoFiles
  have hsource : options.HasSource twoFiles _ := hasSource_of_twoFiles rfl
  have hwrong : wrong.HasSource twoFiles _ := hasSource_of_twoFiles rfl
  have hrender : ∃ g, render options (twoFiles.runInputs options) = .ok g ∧ g.code = "A.0" := by
    have htext : twoFiles.readText "t" = .ok "{{ name }}.{{ primary_key }}" :=
      readText_of_file isName_template rfl
    have hkey : ∃ index key, keyed.primaryKey = .ok (index, key) ∧ key.name = "0" :=
      ⟨_, _, rfl, rfl⟩
    obtain ⟨index, key, hkey, hname⟩ := hkey
    obtain ⟨table, hcontext⟩ := SourceFile.exists_context_of_target
      ⟨"a.rs", packageName "a.rs", [keyed]⟩ (twoFiles.modulePath "a.rs") keyed "0"
      options.package rfl
    rw [← hname, ← resolveContext_of_ok hsource (SourceFile.find_eq_ok_iff.2 rfl) hkey] at hcontext
    have hcode : renderCode options (twoFiles.runInputs options)
        ⟨packageName "a.rs", "A", "A", "0", "", table⟩ = .ok "A.0" := by
      rw [renderCode_of_some rfl, FileTree.runInputs]
      simp only [htext, renderFile, parse_nameAndKey, Except.mapError, Template.render, renderNodes,
        Node.render, TemplateContext.value]
      rfl
    rw [hname] at hcontext
    exact ⟨_, render_of_ok hcontext hcode, rfl⟩
  have hlookup : (wrong.run none twoFiles).1 = .error (.structNotFound "B" "a.rs") := by
    refine (herror _).2
      ⟨[.source], .lookup, _, rfl, ?_, .structNotFound hwrong (by simp) (by decide)⟩
    simp [← parseSource_eq_error_iff, parseSource_eq_ok_iff.2 hwrong]
  refine ⟨?_, .templateUnreadable rfl ?_, .unwritable rfl fun content => ?_, hlookup,
    hunchanged _ hlookup⟩
  · obtain ⟨g, hg, hcode⟩ := hrender
    have haccepts : twoFiles.Accepts "a.rs" := (isName_source.of_file rfl).2
    obtain ⟨after, hwrite⟩ := haccepts.exists_write (Text.utf8 g.code)
    have hrun : (options.run none twoFiles).1 = .ok g := by
      rw [run_fst, hg]
      change ((Output.file "a.rs").write none g.code twoFiles).1.map (fun _ => g) = _
      rw [write_file, hwrite]
      rfl
    exact ⟨g, hrun, hcode, hdelivered g hrun⟩
  · rfl
  · rfl

end GenerateOptions

end RecordStore
