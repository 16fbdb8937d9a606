import Mathlib.Data.List.Forall2
import RecordStore.Proofs.Template.Reading
import RecordStore.Template.Store

/-!
# Where the built-in template has the key and the package

Behind `&value.`, where the code of a store borrows the key of a value, the built-in template has
the primary key and no other variable, and then the payload (`RecordStore.borrowed_store`).
So has every text that is rendered from it (`RecordStore.exists_render_store`).

The package is named in the header, and nowhere else (`RecordStore.exists_store_eq`). What a part of
a template renders to does not depend on variables that are not in it
(`RecordStore.renderNodes_congr`).

It has the imports, and an implementation in which the type stands as the type of a parameter and
between the parameters of methods (`RecordStore.bindsAround`).

The template is read here once, from the characters of its lines (`RecordStore.readStore`).
-/

namespace RecordStore

/-- What a test finds of a result is found of a value. -/
theorem exists_ok_of_any {ε α : Type} {result : Except ε α} {test : α → Bool}
    (h : result.toOption.any test = true) : ∃ a, result = .ok a ∧ test a = true := by
  cases result with
  | error e => cases h
  | ok a => exact ⟨a, rfl, h⟩

/-! ### Variables behind a text -/

/-- The variables directly behind constant text that ends in a certain way, each with the part of
the template that follows it. -/
def variablesAfter (mark : List Char) : Template → List (Variable × Template)
  | .text chars :: .variable v :: rest =>
    if mark.isSuffixOf chars then (v, rest) :: variablesAfter mark rest
    else variablesAfter mark rest
  | _ :: rest => variablesAfter mark rest
  | [] => []

/-- The template starts with constant text that starts in a certain way. -/
def startsWith (mark : List Char) : Template → Bool
  | .text chars :: _ => mark.isPrefixOf chars
  | _ => false

variable {mark : List Char} {template back : Template} {v : Variable}

theorem exists_of_mem_variablesAfter (h : (v, back) ∈ variablesAfter mark template) :
    ∃ front chars, template = front ++ .text (chars ++ mark) :: .variable v :: back := by
  fun_induction variablesAfter mark template with
  | case1 chars w rest hmark ih =>
    rcases List.mem_cons.1 h with heq | h
    · cases heq
      obtain ⟨before, hbefore⟩ := List.isSuffixOf_iff_suffix.1 hmark
      exact ⟨[], before, by rw [hbefore]; rfl⟩
    · obtain ⟨front, chars', rfl⟩ := ih h
      exact ⟨.text chars :: .variable w :: front, chars', rfl⟩
  | case2 chars w rest hmark ih =>
    obtain ⟨front, chars', rfl⟩ := ih h
    exact ⟨.text chars :: .variable w :: front, chars', rfl⟩
  | case3 node rest hnode ih =>
    obtain ⟨front, chars', rfl⟩ := ih h
    exact ⟨node :: front, chars', rfl⟩
  | case4 => cases h

/-- The value of such a variable stands between the text and what follows, whatever the values
are. -/
theorem exists_render_of_mem (h : (v, back) ∈ variablesAfter mark template)
    (context : TemplateContext) :
    ∃ before, template.render context =
      before ++ String.ofList mark ++ context.value v ++ back.render context := by
  obtain ⟨front, chars, rfl⟩ := exists_of_mem_variablesAfter h
  refine ⟨String.ofList (renderNodes context front ++ chars), ?_⟩
  rw [Template.render, Template.render, renderNodes_append, renderNodes, renderNodes, Node.render,
    Node.render]
  apply String.toList_inj.1
  simp only [String.toList_append, String.toList_ofList, List.append_assoc]

theorem exists_render_of_startsWith (h : startsWith mark template = true)
    (context : TemplateContext) :
    ∃ after, template.render context = String.ofList mark ++ after := by
  rcases template with _ | ⟨node, rest⟩
  · cases h
  · cases node with
    | text chars =>
      obtain ⟨more, rfl⟩ := List.isPrefixOf_iff_prefix.1 h
      refine ⟨String.ofList (more ++ renderNodes context rest), ?_⟩
      rw [Template.render, renderNodes, Node.render]
      apply String.toList_inj.1
      simp only [String.toList_append, String.toList_ofList, List.append_assoc]
    | _ => cases h

/-- The template has a constant text that ends in a certain way. -/
def hasTextEnding (mark : List Char) (template : Template) : Bool :=
  template.any fun
    | .text chars => mark.isSuffixOf chars
    | _ => false

theorem exists_render_of_hasTextEnding (h : hasTextEnding mark template = true)
    (context : TemplateContext) :
    ∃ before after, template.render context = before ++ String.ofList mark ++ after := by
  obtain ⟨node, hnode, hmark⟩ := List.any_eq_true.1 h
  obtain ⟨front, back, rfl⟩ := List.append_of_mem hnode
  split at hmark
  · obtain ⟨chars, rfl⟩ := List.isSuffixOf_iff_suffix.1 hmark
    refine ⟨String.ofList (renderNodes context front ++ chars),
      String.ofList (renderNodes context back), ?_⟩
    rw [Template.render.eq_def, renderNodes_append, renderNodes, Node.render]
    apply String.toList_inj.1
    simp only [String.toList_append, String.toList_ofList, List.append_assoc]
  · cases hmark

/-! ### Parts without a variable -/

mutual

/-- Whether a part has a variable in it. -/
def Node.mentions (v : Variable) : Node → Bool
  | .text _ => false
  | .variable w => w == v
  | .conditional w first second => w == v || anyMentions v first || anyMentions v second

/-- Whether one of some parts has a variable in it. -/
def anyMentions (v : Variable) : List Node → Bool
  | [] => false
  | node :: rest => node.mentions v || anyMentions v rest

end

mutual

theorem Node.render_congr {c c' : TemplateContext} (hsame : ∀ w, w ≠ v → c.value w = c'.value w)
    (node : Node) (h : node.mentions v = false) : node.render c = node.render c' := by
  cases node with
  | text chars => rfl
  | «variable» w =>
    have hw : w ≠ v := by simpa [Node.mentions] using h
    rw [Node.render, Node.render, hsame w hw]
  | conditional w first second =>
    simp only [Node.mentions, Bool.or_eq_false_iff, beq_eq_false_iff_ne] at h
    obtain ⟨⟨hw, hfirst⟩, hsecond⟩ := h
    rw [Node.render, Node.render, hsame w hw, renderNodes_congr hsame first hfirst,
      renderNodes_congr hsame second hsecond]

/-- **Parts without a variable do not depend on its value.** -/
theorem renderNodes_congr {c c' : TemplateContext} (hsame : ∀ w, w ≠ v → c.value w = c'.value w)
    (nodes : List Node) (h : anyMentions v nodes = false) :
    renderNodes c nodes = renderNodes c' nodes := by
  cases nodes with
  | nil => rfl
  | cons node nodes =>
    obtain ⟨hnode, hnodes⟩ := Bool.or_eq_false_iff.1 h
    rw [renderNodes, renderNodes, Node.render_congr hsame node hnode,
      renderNodes_congr hsame nodes hnodes]

end

/-! ### The built-in template -/

/-- The start of the built-in template, up to where it names the package for the last time. -/
def storeHeader : Template :=
  [.text "// Code generated by sdata-gen for `".toList, .variable .type,
    .text "` (module `".toList, .variable .package,
    .text "`). DO NOT EDIT.\n// Regenerate with: sdata-gen <source> ".toList, .variable .name,
    .text " --package ".toList, .variable .package]

/-- What stands behind the start of the built-in template, in a template that starts so. -/
def behindHeader? : Template → Option Template
  | .text a :: .variable .type :: .text b :: .variable .package :: .text c :: .variable .name ::
      .text d :: .variable .package :: rest =>
    if a = "// Code generated by sdata-gen for `".toList ∧ b = "` (module `".toList ∧
        c = "`). DO NOT EDIT.\n// Regenerate with: sdata-gen <source> ".toList ∧
        d = " --package ".toList then some rest
    else none
  | _ => none

theorem eq_of_behindHeader (h : behindHeader? template = some back) :
    template = storeHeader ++ back := by
  rw [behindHeader?.eq_def] at h
  split at h
  · obtain ⟨⟨rfl, rfl, rfl, rfl⟩, h⟩ := Option.ite_none_right_eq_some.1 h
    cases h
    rfl
  · cases h

/-- The variables behind `&value.`, and whether the payload comes next. -/
def borrowed (template : Template) : List (Variable × Bool) :=
  (variablesAfter "&value.".toList template).map fun found =>
    (found.1, startsWith ", payload)".toList found.2)

/-- What is found when the template is read: the one variable behind `&value.` is the primary key,
and behind the header a line ends and the package is not named. -/
def isChecked (template : Template) : Bool :=
  borrowed template == [(.primaryKey, true)] &&
    (behindHeader? template).any fun back =>
      startsWith ['\n'] back && !anyMentions .package back

theorem of_isChecked (h : isChecked template = true) : borrowed template = [(.primaryKey, true)] ∧
    ∃ back, behindHeader? template = some back ∧ startsWith ['\n'] back = true ∧
      anyMentions .package back = false := by
  obtain ⟨hkey, hheader⟩ := Bool.and_eq_true_iff.1 h
  obtain ⟨back, hback, hfound⟩ := (Option.any_eq_true _ _).1 hheader
  obtain ⟨hline, hpackage⟩ := Bool.and_eq_true_iff.1 hfound
  exact ⟨eq_of_beq hkey, back, hback, hline, by simpa using hpackage⟩

/-- What every store imports. -/
def storeImports : String :=
  "use sdata::StoreResult;\nuse sdata::codec;\nuse sdata::container::Container;\n" ++
    "use sdata::query::\x7bFilter, Query, Selection\x7d;"

/-- What the code has in front of references in the scope of all that it binds: the reference is the
type of a parameter, or the method has a parameter of its own. -/
def referenceMarks : List String :=
  ["value: &", "pub fn select_where<F>(&self, filter: F) -> StoreResult<Vec<",
    "pub fn first_or_none<F>(&self, filter: F) -> StoreResult<Option<"]

/-- What is found when the template is read: it has the imports, and behind the parameter of the
implementation and the name of the store it has references. -/
def bindsAround (template : Template) : Bool :=
  hasTextEnding storeImports.toList template &&
    (variablesAfter "impl<C: Container> ".toList template).any fun found =>
      found.1 == .name && startsWith "Store<C> \x7b".toList found.2 &&
        referenceMarks.all fun mark =>
          (variablesAfter mark.toList found.2).any fun found => found.1 == .type

/-- The characters of the lines of the built-in template. -/
def storeChars : { rows : List (List Char) //
    List.Forall₂ (fun line row => line.toList = row) storeLines rows } := by
  -- each row is the one that its line is written with
  apply Subtype.mk
  repeat' first
    | exact String.toList_ofList
    | constructor

theorem flatMap_of_rows {lines : List String} {rows : List (List Char)}
    (h : List.Forall₂ (fun line row => line.toList = row) lines rows) :
    (lines.flatMap fun line => line.toList ++ ['\n']) = rows.flatMap (· ++ ['\n']) := by
  induction h with
  | nil => rfl
  | cons hline _ ih => rw [List.flatMap_cons, List.flatMap_cons, hline, ih]

/-- The built-in template, read from its characters. -/
def readStore : Except TemplateError Template :=
  let pieces := Pieces.cut (storeChars.1.flatMap (· ++ ['\n']))
  ({} : Builder).run false pieces.ending pieces.actions

/-- **What a test finds of the template that is read, it finds of the built-in template.** -/
theorem test_store {test : Template → Bool} (h : readStore.toOption.any test = true) :
    test Template.store = true := by
  obtain ⟨template, htemplate, htest⟩ := exists_ok_of_any h
  have hparse : Template.parse storeText = .ok template := by
    rw [Template.parse, storeText, String.toList_ofList, flatMap_of_rows storeChars.2]
    exact htemplate
  rw [Template.store, hparse]
  exact htest

/-- Both tests find what they look for. -/
theorem readStore_checked : (readStore.toOption.any fun template =>
    isChecked template && bindsAround template) = true := by
  decide +kernel

theorem store_checked : isChecked Template.store = true ∧ bindsAround Template.store = true := by
  have hboth := test_store readStore_checked
  exact Bool.and_eq_true_iff.1 hboth

/-- **The built-in template has the primary key, and only that, behind `&value.`** -/
theorem borrowed_store : borrowed Template.store = [(.primaryKey, true)] :=
  (of_isChecked store_checked.1).1

theorem exists_render_store (context : TemplateContext) :
    ∃ before after, Template.store.render context =
      before ++ "&value." ++ context.primaryKey ++ ", payload)" ++ after := by
  obtain ⟨⟨v, back⟩, hfound, hborrowed⟩ := List.map_eq_singleton_iff.1 borrowed_store
  obtain ⟨rfl, hback⟩ := Prod.mk.inj hborrowed
  have hmem : (.primaryKey, back) ∈ variablesAfter "&value.".toList Template.store := by
    rw [hfound]
    exact List.mem_singleton_self _
  obtain ⟨before, hbefore⟩ := exists_render_of_mem hmem context
  obtain ⟨after, hafter⟩ := exists_render_of_startsWith hback context
  refine ⟨before, after, ?_⟩
  rw [hbefore, hafter, String.ofList_toList, String.ofList_toList, ← String.append_assoc]
  rfl

/-! ### The header -/

/-- **The built-in template names the package in its header only**, and a line ends there. -/
theorem exists_store_eq : ∃ chars back,
    Template.store = storeHeader ++ .text ('\n' :: chars) :: back ∧
      anyMentions .package back = false := by
  obtain ⟨-, back, hback, hline, hpackage⟩ := of_isChecked store_checked.1
  rcases back with _ | ⟨node, back⟩
  · cases hline
  · cases node with
    | text cs =>
      obtain ⟨chars, rfl⟩ := List.isPrefixOf_iff_prefix.1 hline
      exact ⟨chars, back, eq_of_behindHeader hback, hpackage⟩
    | _ => cases hline

end RecordStore
