import RecordStore.Proofs.Generator.Package

/-!
# References that generated code captures

The code for a store imports names, its implementation and some of its methods have parameters, and
the store itself has a name. All of these are in scope where the code refers to its struct, and the
reference stands there as it is (`RecordStore.TemplateContext.bindsAround_render`). If it starts
with one of these names, it means something else.

In the module of the source a reference starts with the name of the struct, in other modules with
`crate` if the source is a root, and with the name of its module if not. Nothing compares these
names with those that the code binds. So a struct with the name of an import or a parameter is
captured in its own module, and a module with such a name, or with that of the store, in the others
(`RecordStore.GenerateOptions.captures_iff`).
-/

namespace RecordStore

open SourceFile (looseRoot looseContext)

/-! ### First names -/

/-- A name without the mark of raw names. -/
def withoutRawMark : List Char → List Char
  | 'r' :: '#' :: name => name
  | name => name

/-- **The first name in a reference**, which ends at a colon. White space around a name is no part
of it, and neither is the mark of a raw name. -/
def firstName (reference : String) : String :=
  String.ofList <| withoutRawMark <|
    (reference.toList.takeWhile (· ≠ ':')).filter fun c => !Source.isSeparator c

theorem takeWhile_append_colon (cs rest : List Char) :
    (cs ++ ':' :: rest).takeWhile (· ≠ ':') = cs.takeWhile (· ≠ ':') := by
  induction cs with
  | nil => rfl
  | cons c cs ih => rw [List.cons_append, List.takeWhile_cons, List.takeWhile_cons, ih]

/-- The first name in a path is that of its first segment. -/
theorem firstName_append_colons (m name : String) :
    firstName (m ++ "::" ++ name) = firstName m := by
  have hcolons : (m ++ "::" ++ name).toList = m.toList ++ ':' :: ':' :: name.toList := by
    rw [String.toList_append, String.toList_append, List.append_assoc]
    rfl
  rw [firstName, hcolons, takeWhile_append_colon, firstName]

theorem firstName_crate : firstName "crate" = "crate" := by
  have hcrate : "crate".toList = ['c', 'r', 'a', 't', 'e'] := String.toList_ofList
  rw [firstName, hcrate]
  decide

/-- More characters at the end of a name are no mark. -/
theorem withoutRawMark_append (name : List Char) {c : Char} (hr : c ≠ 'r') (hsign : c ≠ '#')
    (rest : List Char) :
    withoutRawMark (name ++ c :: rest) = withoutRawMark name ++ c :: rest := by
  by_cases hraw : ∃ more, name = 'r' :: '#' :: more
  · obtain ⟨more, rfl⟩ := hraw
    rfl
  · have hname : withoutRawMark name = name :=
      withoutRawMark.eq_2 name fun more heq => hraw ⟨more, heq⟩
    rw [hname]
    refine withoutRawMark.eq_2 _ fun more heq => ?_
    match name with
    | [] => exact hr (List.cons.inj heq).1
    | [d] => exact hsign (List.cons.inj (List.cons.inj heq).2).1
    | d :: e :: name =>
      obtain ⟨hd, heq⟩ := List.cons.inj heq
      obtain ⟨he, -⟩ := List.cons.inj heq
      exact hraw ⟨name, by rw [hd, he]⟩

theorem firstName_append_store {name : String} (hcolon : ':' ∉ name.toList) :
    firstName (name ++ "Store") = firstName name ++ "Store" := by
  have hstore : "Store".toList = ['S', 't', 'o', 'r', 'e'] := String.toList_ofList
  have hwhole : (name ++ "Store").toList.takeWhile (· ≠ ':') = name.toList ++ "Store".toList := by
    rw [String.toList_append, List.takeWhile_eq_self_iff]
    intro c hc
    rcases List.mem_append.1 hc with hc | hc
    · exact decide_eq_true fun heq => hcolon (heq ▸ hc)
    · rw [hstore] at hc
      exact decide_eq_true fun heq => absurd (heq ▸ hc) (by decide)
  have hname : name.toList.takeWhile (· ≠ ':') = name.toList := by
    rw [List.takeWhile_eq_self_iff]
    exact fun c hc => decide_eq_true fun heq => hcolon (heq ▸ hc)
  have hclear : "Store".toList.filter (fun c => !Source.isSeparator c) = "Store".toList := by
    rw [hstore]
    decide
  rw [firstName, hwhole, List.filter_append, hclear, hstore,
    withoutRawMark_append _ (by decide) (by decide), firstName, hname, ← hstore,
    String.ofList_append, String.ofList_toList]

/-- The name of a store is longer than that of its struct. -/
theorem firstName_ne_store {name : String} (hname : ':' ∉ name.toList) :
    firstName name ≠ firstName (name ++ "Store") := by
  rw [firstName_append_store hname]
  intro heq
  have hlength := congrArg String.length heq
  rw [String.length_append] at hlength
  have : "Store".length = 5 := rfl
  omega

/-! ### Names that the code binds -/

/-- The names that the code for every store binds: what it imports, and the parameters of the
implementation and of some methods. -/
def storeNames : List String :=
  ["StoreResult", "codec", "Container", "Filter", "Query", "Selection", "C", "F"]

namespace TemplateContext

variable {c : TemplateContext}

/-- The names in scope where the code refers to the struct, apart from the reference itself. -/
def boundNames (c : TemplateContext) : List String := firstName (c.name ++ "Store") :: storeNames

/-- **The code captures the reference to its struct**: the reference starts with a name that the
code binds. -/
def Captures (c : TemplateContext) : Prop := firstName c.type ∈ c.boundNames

instance (c : TemplateContext) : Decidable c.Captures :=
  inferInstanceAs (Decidable (firstName c.type ∈ c.boundNames))

/-- No store is called `crate`, nor is anything that is imported. -/
theorem crate_not_mem_boundNames (hname : ':' ∉ c.name.toList) : "crate" ∉ c.boundNames := by
  have hstore : "crate" ≠ firstName (c.name ++ "Store") := by
    rw [firstName_append_store hname]
    intro heq
    have hlength := congrArg String.length heq
    rw [String.length_append] at hlength
    -- the name of a store is longer than `crate` unless there is nothing in front of `Store`
    have hnone : firstName c.name = "" := by
      have : "crate".length = "Store".length := rfl
      exact String.length_eq_zero_iff.1 (by omega)
    rw [hnone] at heq
    exact absurd heq (by decide)
  exact List.not_mem_cons_of_ne_of_not_mem hstore (by decide)

end TemplateContext

namespace SourceFile

variable {source : SourceFile} {struct : StructDef} {c : TemplateContext} {key : String}
  {modulePath : Except ModulePathFault String} {package : Option String}

/-- **When a reference is captured.** In the module of the source the name of the struct decides, in
another module that of the module of the source. The root of a package is never captured. -/
theorem captures_iff_of_context (hname : ':' ∉ struct.name.toList)
    (h : source.context modulePath struct key package = .ok c) :
    c.Captures ↔
      (source.IsOwn package ∧ firstName struct.name ∈ storeNames) ∨
      (¬source.IsOwn package ∧ source.package ≠ "crate" ∧
        firstName source.package ∈ c.boundNames) := by
  obtain ⟨type, typeImport, href, hc⟩ := context_eq_ok_iff.1 h
  obtain ⟨htype, hcname⟩ : c.type = type ∧ c.name = struct.name := by
    rw [hc]
    exact ⟨rfl, rfl⟩
  rw [← hcname] at hname ⊢
  rw [TemplateContext.Captures, htype]
  rw [reference.eq_def] at href
  split at href
  -- called by its name
  · rename_i hown
    obtain ⟨rfl, -⟩ := Prod.mk.inj (Except.ok.inj href)
    rw [← hcname, TemplateContext.boundNames, List.mem_cons,
      or_iff_right (firstName_ne_store hname)]
    exact ⟨fun hmem => Or.inl ⟨hown, hmem⟩, fun hmem =>
      hmem.elim (fun hmem => hmem.2) fun hmem => absurd hown hmem.1⟩
  · rename_i hother
    split at href
    -- called through the root
    · rename_i hroot
      obtain ⟨rfl, -⟩ := Prod.mk.inj (Except.ok.inj href)
      have hfirst : firstName ("crate::" ++ struct.name) = "crate" := by
        have hcrate : "crate::" = "crate" ++ "::" := by decide
        rw [hcrate, firstName_append_colons, firstName_crate]
      rw [hfirst]
      refine iff_of_false (TemplateContext.crate_not_mem_boundNames hname) ?_
      rintro (⟨hown, -⟩ | ⟨-, hne, -⟩)
      · exact hother hown
      · exact hne hroot
    -- called through its module
    · rename_i hne
      split at href
      · obtain ⟨rfl, -⟩ := Prod.mk.inj (Except.ok.inj href)
        rw [firstName_append_colons]
        exact ⟨fun hmem => Or.inr ⟨hother, hne, hmem⟩, fun hmem =>
          hmem.elim (fun hmem => absurd hmem.1 hother) fun hmem => hmem.2.2⟩
      · cases href

end SourceFile

/-! ### Where the code binds them -/

namespace TemplateContext

/-- **Code in which the reference to the struct is in the scope of other names**: there are the
imports, and an implementation with a parameter, in which the reference stands behind each of the
marks. -/
structure BindsAround (c : TemplateContext) (code : String) : Prop where
  imports : ∃ before after, code = before ++ storeImports ++ after
  implementation : ∃ before block after, code = before ++ "impl<C: Container> " ++ c.name ++ block ∧
    block = "Store<C> \x7b" ++ after ∧
      ∀ mark ∈ referenceMarks, ∃ front back, block = front ++ mark ++ c.type ++ back

theorem bindsAround_render (c : TemplateContext) : c.BindsAround (Template.store.render c) := by
  obtain ⟨himports, himpl⟩ := Bool.and_eq_true_iff.1 store_checked.2
  obtain ⟨⟨v, back⟩, hfound, hblock⟩ := List.any_eq_true.1 himpl
  simp only [Bool.and_eq_true, beq_iff_eq] at hblock
  obtain ⟨⟨rfl, hstart⟩, hmarks⟩ := hblock
  constructor
  · obtain ⟨before, after, hrender⟩ := exists_render_of_hasTextEnding himports c
    exact ⟨before, after, by rw [hrender, String.ofList_toList]⟩
  · obtain ⟨before, hbefore⟩ := exists_render_of_mem hfound c
    obtain ⟨after, hafter⟩ := exists_render_of_startsWith hstart c
    rw [String.ofList_toList] at hbefore hafter
    refine ⟨before, Template.render back c, after, hbefore, hafter, fun mark hmark => ?_⟩
    obtain ⟨⟨w, rest⟩, hmem, hw⟩ := List.any_eq_true.1 (List.all_eq_true.1 hmarks mark hmark)
    obtain rfl : w = .type := eq_of_beq hw
    obtain ⟨front, hfront⟩ := exists_render_of_mem hmem c
    exact ⟨front, Template.render rest c, by rw [hfront, String.ofList_toList]; rfl⟩

end TemplateContext

/-! ### What a run captures -/

namespace GenerateOptions

variable {options : GenerateOptions} {inputs : RunInputs} {g : Generated}

/-- A run that gives code has values and renders them. -/
theorem resolveContext_of_render (h : render options inputs = .ok g) :
    resolveContext options inputs = .ok g.context ∧
      renderCode options inputs g.context = .ok g.code := by
  rw [render] at h
  cases hcontext : resolveContext options inputs with
  | error e =>
    rw [hcontext] at h
    cases h
  | ok c =>
    cases hcode : renderCode options inputs c with
    | error e =>
      simp only [hcontext, bind, Except.bind, hcode] at h
      cases h
    | ok code =>
      simp only [hcontext, bind, Except.bind, hcode] at h
      cases h
      exact ⟨rfl, hcode⟩

/-- The code of the built-in template is what it renders to. -/
theorem code_of_renderCode {c : TemplateContext} {code : String}
    (htemplate : options.template = none) (h : renderCode options inputs c = .ok code) :
    code = Template.store.render c := by
  rw [renderCode_of_none htemplate, checkCode] at h
  split at h
  · cases h
    rfl
  · cases h

/-- Values are those for a struct of the source. -/
theorem exists_source_of_resolveContext {c : TemplateContext}
    (h : resolveContext options inputs = .ok c) :
    ∃ text source struct key, SourceFile.parse options.source text = .ok source ∧
      struct ∈ source.structs ∧
        source.context inputs.modulePath struct key options.package = .ok c := by
  rw [resolveContext] at h
  cases hsource : parseSource options inputs with
  | error e =>
    rw [hsource] at h
    cases h
  | ok source =>
    obtain ⟨text, -, hparse⟩ := exists_of_parseSource hsource
    cases hfind : source.find options.structName with
    | error e =>
      simp only [hsource, bind, Except.bind, hfind] at h
      cases h
    | ok struct =>
      cases hkey : struct.primaryKey with
      | error e =>
        simp only [hsource, bind, Except.bind, hfind, hkey, Except.mapError] at h
        cases h
      | ok found =>
        simp only [hsource, bind, Except.bind, hfind, hkey, Except.mapError] at h
        exact ⟨text, source, struct, _, hparse, SourceFile.mem_structs_of_find hfind, h⟩

/-- **What generated code captures.** In code of the built-in template the reference to the struct
is in the scope of all the names that the code binds. It starts with one of them exactly if the
store is for the module of the source and the struct has the name of an import or a parameter, or
the store is for another module, the source is no root, and its module has such a name or that of
the store. -/
theorem captures_iff (htemplate : options.template = none) (h : render options inputs = .ok g) :
    g.context.BindsAround g.code ∧
      (g.context.Captures ↔
        (g.context.package = packageName options.source ∧
          firstName g.context.name ∈ storeNames) ∨
        (g.context.package ≠ packageName options.source ∧
          packageName options.source ≠ "crate" ∧
            firstName (packageName options.source) ∈ g.context.boundNames)) := by
  obtain ⟨hcontext, hcode⟩ := resolveContext_of_render h
  obtain ⟨text, source, struct, key, hparse, hstruct, hvalues⟩ :=
    exists_source_of_resolveContext hcontext
  have hcolon : ':' ∉ struct.name.toList :=
    SourceFile.not_mem_name (by decide) (by decide) (by decide) hparse hstruct
  have hpackage : source.package = packageName options.source := by
    obtain ⟨file, -, rfl⟩ := SourceFile.parse_eq_ok_iff.1 hparse
    rfl
  obtain ⟨htarget, hname⟩ : g.context.package = source.target options.package ∧
      g.context.name = struct.name := by
    obtain ⟨type, typeImport, -, hc⟩ := SourceFile.context_eq_ok_iff.1 hvalues
    rw [hc]
    exact ⟨rfl, rfl⟩
  constructor
  · rw [code_of_renderCode htemplate hcode]
    exact g.context.bindsAround_render
  · rw [SourceFile.captures_iff_of_context hcolon hvalues, SourceFile.IsOwn, hpackage, htarget,
      hname]

/-- The reference to a struct at a root is not captured. -/
theorem captures_iff_of_looseRoot :
    ∃ g, render (looseOptions.into "stores") (looseRoot.runInputs looseOptions) = .ok g ∧
      g.context.type = "crate::A" ∧ ¬g.context.Captures := by
  obtain ⟨g, hg⟩ := exists_render_looseRoot
  have hcontext := (resolveContext_of_render hg).1
  rw [resolveContext_looseRoot (by decide) (by decide), Except.ok.injEq] at hcontext
  refine ⟨g, hg, by rw [← hcontext]; rfl, fun hcaptures => ?_⟩
  obtain ⟨-, hiff⟩ := captures_iff rfl hg
  rcases hiff.1 hcaptures with ⟨-, hname⟩ | ⟨-, hroot, -⟩
  · rw [← hcontext] at hname
    have hletter : "A".toList = ['A'] := String.toList_ofList
    have hfirst : firstName "A" ∉ storeNames := by
      rw [firstName, hletter]
      decide
    exact hfirst hname
  · exact hroot packageName_looseOptions

/-! ### A struct with the name of a parameter -/

/-- A struct that is called like the parameter of an implementation. -/
def parameterText : String := "pub struct C \x7b #[data(primary_key)] pub id: String \x7d"

/-- A store for the struct is asked for, in its own module. -/
def parameterOptions : GenerateOptions := { source := "src/c.rs", structName := "C" }

/-- The file is in the sources of a package. -/
def parameterInputs : RunInputs where
  source := .ok parameterText
  modulePath := .ok "crate::c"
  template _ := .error .notFound

/-- The values for the struct. -/
def parameterContext : TemplateContext :=
  { package := "c", type := "C", name := "C", primaryKey := "id", table := "crate::c::C" }

theorem resolveContext_parameterInputs :
    resolveContext parameterOptions parameterInputs = .ok parameterContext := by
  have hcheck : (resolveContext parameterOptions parameterInputs).toOption.any
      (decide <| · = parameterContext) = true := by
    decide +kernel
  obtain ⟨c, hc, hsame⟩ := exists_ok_of_any hcheck
  rw [hc, of_decide_eq_true hsame]

theorem readStore_isSource_parameterContext :
    readStore.toOption.any (isSourceFor parameterContext) = true := by
  decide +kernel

/-- **A struct with the name of a parameter is captured**: there is code for it, in which the
parameter stands for what is to be stored. -/
theorem captures_of_parameterName :
    ∃ g, render parameterOptions parameterInputs = .ok g ∧ g.context.Captures ∧
      ∃ before block after front back, g.code = before ++ "impl<C: Container> C" ++ block ∧
        block = "Store<C> \x7b" ++ after ∧ block = front ++ "value: &C" ++ back := by
  have hrun := render_of_resolveContext rfl resolveContext_parameterInputs
  rw [checkCode_store readStore_isSource_parameterContext] at hrun
  have hletter : "C".toList = ['C'] := String.toList_ofList
  have hbound : firstName "C" ∈ storeNames := by
    rw [firstName, hletter]
    decide
  refine ⟨_, hrun, List.mem_cons_of_mem _ hbound, ?_⟩
  obtain ⟨before, block, after, himpl, hblock, hmarks⟩ :=
    parameterContext.bindsAround_render.implementation
  obtain ⟨front, back, hmark⟩ := hmarks "value: &" List.mem_cons_self
  refine ⟨before, block, after, front, back, ?_, hblock, ?_⟩
  · have hname : "impl<C: Container> C" = "impl<C: Container> " ++ "C" := by decide
    rw [himpl, hname, ← String.append_assoc]
    rfl
  · have htype : "value: &C" = "value: &" ++ "C" := by decide
    rw [hmark, htype, ← String.append_assoc]
    rfl

end GenerateOptions

end RecordStore
