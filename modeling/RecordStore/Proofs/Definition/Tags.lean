import Mathlib.Data.List.Induction
import RecordStore.Definition.File
import RecordStore.Proofs.SortedMap

/-!
# What tags hold

Tags are made by a sequence of extensions, each of which names a namespace and brings values. What
can be asked of them is told by these extensions, one namespace at a time
(`RecordStore.Tags.TellsOf`): a namespace lists the values that the extensions naming it brought, in
order, and it is present if there was one.

So it does not matter how extensions of different namespaces are mixed. Two sequences that agree in
every namespace (`RecordStore.AgreeByNamespace`) make the same tags, and the attributes of a field
can be written in any order that keeps the one within each namespace
(`RecordStore.Tags.depend_on_namespaces`). Each answer is found by an induction on the extensions
that takes the last one off, and tags are determined by their answers (`RecordStore.Tags.ext_get`),
so nothing else is said about the map underneath.
-/

namespace RecordStore

open Source (Attribute Field Path)

/-! ### Lists that agree in every namespace -/

section

variable {α β : Type}

/-- **Lists that agree in every namespace**: each has the same elements in it, in the same order. -/
def AgreeByNamespace (namespaceOf : α → String) (l l' : List α) : Prop :=
  ∀ ns, (l.filter fun x => namespaceOf x = ns) = l'.filter fun x => namespaceOf x = ns

namespace AgreeByNamespace

variable {namespaceOf : α → String} {l l' : List α}

/-- Neighbours in different namespaces can change places. -/
theorem swap {a b : α} (h : namespaceOf a ≠ namespaceOf b) (front back : List α) :
    AgreeByNamespace namespaceOf (front ++ a :: b :: back) (front ++ b :: a :: back) := by
  intro ns
  rw [List.filter_append, List.filter_append]
  congr 1
  by_cases ha : namespaceOf a = ns
  · have hb : namespaceOf b ≠ ns := fun hb => h (ha.trans hb.symm)
    simp [ha, hb]
  · simp [List.filter_cons, ha]

theorem mem_iff {x : α} (h : AgreeByNamespace namespaceOf l l') : x ∈ l ↔ x ∈ l' := by
  have hown (l : List α) : x ∈ l.filter (fun y => namespaceOf y = namespaceOf x) ↔ x ∈ l := by
    simp
  rw [← hown l, h, hown l']

theorem filter (h : AgreeByNamespace namespaceOf l l') (p : α → Bool) :
    AgreeByNamespace namespaceOf (l.filter p) (l'.filter p) := by
  intro ns
  have hcomm (l : List α) : (l.filter p).filter (fun x => namespaceOf x = ns) =
      (l.filter fun x => namespaceOf x = ns).filter p := by
    rw [List.filter_filter, List.filter_filter]
    exact List.filter_congr fun x _ => Bool.and_comm _ _
  rw [hcomm, hcomm, h ns]

theorem map (f : β → α) {l l' : List β} (h : AgreeByNamespace (namespaceOf ∘ f) l l') :
    AgreeByNamespace namespaceOf (l.map f) (l'.map f) := by
  intro ns
  rw [List.filter_map, List.filter_map]
  exact congrArg (List.map f) (h ns)

end AgreeByNamespace

end

namespace Tags

variable {steps more : List (String × List String)}

/-! ### One extension -/

theorem get_extend (tags : Tags) (key ns : String) (more : List String) :
    (tags.extend key more).get ns = tags.get ns ++ if ns = key then more else [] := by
  rw [extend, get, SortedMap.getD_get?_insert]
  split
  · rename_i h
    rw [h]
  · exact (List.append_nil _).symm

theorem hasNamespace_extend (tags : Tags) (key ns : String) (more : List String) :
    (tags.extend key more).hasNamespace ns = (ns == key || tags.hasNamespace ns) :=
  SortedMap.contains_insert _ _ _ _

theorem isEmpty_extend (tags : Tags) (key : String) (more : List String) :
    (tags.extend key more).isEmpty = false :=
  SortedMap.isEmpty_insert _ _ _

/-! ### Extensions in a row -/

theorem ofList_concat (steps : List (String × List String)) (s : String × List String) :
    ofList (steps ++ [s]) = (ofList steps).extend s.1 s.2 := by
  rw [ofList, List.foldl_append]
  rfl

/-- **What a namespace holds** after a sequence of extensions. -/
theorem get_ofList (steps : List (String × List String)) (ns : String) :
    (ofList steps).get ns = (steps.filter fun s => s.1 = ns).flatMap Prod.snd := by
  induction steps using List.reverseRecOn with
  | nil => rfl
  | append_singleton front s ih =>
    rw [ofList_concat, get_extend, ih, List.filter_append, List.flatMap_append]
    by_cases h : s.1 = ns
    · simp [h]
    · simp [h, Ne.symm h]

/-- A namespace lists a value after extensions if one of them brought it there. -/
theorem contains_ofList (steps : List (String × List String)) (ns value : String) :
    (ofList steps).contains ns value = true ↔ ∃ values, (ns, values) ∈ steps ∧ value ∈ values := by
  rw [contains, List.contains_iff_mem, get_ofList, List.mem_flatMap]
  constructor
  · rintro ⟨⟨key, values⟩, hmem, hvalue⟩
    obtain ⟨hstep, hkey⟩ := List.mem_filter.1 hmem
    obtain rfl : key = ns := of_decide_eq_true hkey
    exact ⟨values, hstep, hvalue⟩
  · rintro ⟨values, hmem, hvalue⟩
    exact ⟨(ns, values), List.mem_filter.2 ⟨hmem, decide_eq_true rfl⟩, hvalue⟩

/-- A namespace is present after extensions if one of them names it, be it without values. -/
theorem hasNamespace_ofList (steps : List (String × List String)) (ns : String) :
    (ofList steps).hasNamespace ns = true ↔ ∃ values, (ns, values) ∈ steps := by
  induction steps using List.reverseRecOn with
  | nil => exact iff_of_false Bool.false_ne_true (by simp)
  | append_singleton front s ih =>
    obtain ⟨key, brought⟩ := s
    rw [ofList_concat, hasNamespace_extend, Bool.or_eq_true, ih, beq_iff_eq]
    constructor
    · rintro (rfl | ⟨values, hmem⟩)
      · exact ⟨brought, List.mem_append_right _ (List.mem_singleton_self _)⟩
      · exact ⟨values, List.mem_append_left _ hmem⟩
    · rintro ⟨values, hmem⟩
      rcases List.mem_append.1 hmem with hmem | hmem
      · exact Or.inr ⟨values, hmem⟩
      · cases List.mem_singleton.1 hmem
        exact Or.inl rfl

theorem isEmpty_ofList : (ofList steps).isEmpty = true ↔ steps = [] := by
  rcases List.eq_nil_or_concat steps with rfl | ⟨front, s, rfl⟩
  · exact iff_of_true rfl rfl
  · rw [List.concat_eq_append, ofList_concat, isEmpty_extend]
    simp

theorem mem_namespaces_iff (tags : Tags) (ns : String) :
    ns ∈ tags.namespaces ↔ tags.hasNamespace ns = true :=
  SortedMap.mem_keys_iff

/-! ### What tags tell -/

/-- **Tags tell of the extensions that made them**, of each namespace by itself. -/
structure TellsOf (tags : Tags) (steps : List (String × List String)) : Prop where
  /-- A namespace lists the values that were brought to it, one extension after the other. -/
  get (ns : String) : tags.get ns = (steps.filter fun s => s.1 = ns).flatMap Prod.snd
  contains (ns value : String) :
    tags.contains ns value = true ↔ ∃ values, (ns, values) ∈ steps ∧ value ∈ values
  /-- A namespace is present even if nothing was brought to it. -/
  hasNamespace (ns : String) : tags.hasNamespace ns = true ↔ ∃ values, (ns, values) ∈ steps
  mem_namespaces (ns : String) : ns ∈ tags.namespaces ↔ ∃ values, (ns, values) ∈ steps
  /-- The namespaces ascend, so none of them occurs twice. -/
  ascending : tags.namespaces.Pairwise (· < ·)
  isEmpty : tags.isEmpty = true ↔ steps = []

theorem tellsOf_ofList (steps : List (String × List String)) : (ofList steps).TellsOf steps where
  get := get_ofList steps
  contains := contains_ofList steps
  hasNamespace := hasNamespace_ofList steps
  mem_namespaces ns := (mem_namespaces_iff _ ns).trans (hasNamespace_ofList steps ns)
  ascending := SortedMap.pairwise_keys _
  isEmpty := isEmpty_ofList

/-! ### Tags are their answers -/

/-- **Tags are determined by what their namespaces list** and by which are present. -/
theorem ext_get {tags tags' : Tags} (hget : ∀ ns, tags.get ns = tags'.get ns)
    (hpresent : ∀ ns, tags.hasNamespace ns = true ↔ tags'.hasNamespace ns = true) :
    tags = tags' := by
  obtain ⟨values⟩ := tags
  obtain ⟨values'⟩ := tags'
  refine congrArg Tags.mk (SortedMap.ext_get? fun ns => ?_)
  have hlisted : (values.get? ns).getD [] = (values'.get? ns).getD [] := hget ns
  have hsome : (values.get? ns).isSome = true ↔ (values'.get? ns).isSome = true := hpresent ns
  cases h : values.get? ns <;> cases h' : values'.get? ns <;> simp_all

/-- Extensions that agree in every namespace make the same tags. -/
theorem ofList_of_agree (h : AgreeByNamespace Prod.fst steps more) :
    ofList steps = ofList more := by
  refine ext_get (fun ns => ?_) fun ns => ?_
  · rw [get_ofList, get_ofList, h ns]
  · rw [hasNamespace_ofList, hasNamespace_ofList]
    exact exists_congr fun values => h.mem_iff

/-- Attributes that agree in every namespace stand for the same tags. -/
theorem ofAttributes_of_agree {attributes attributes' : List Attribute}
    (h : AgreeByNamespace (fun a => a.content.subject.text) attributes attributes') :
    ofAttributes attributes = ofAttributes attributes' :=
  ofList_of_agree (.map _ (h.filter _))

end Tags

/-- **Tags depend on each namespace by itself.** They tell of the extensions that made them, so two
sequences of extensions make the same tags if they agree in every namespace, however the namespaces
are mixed. The same holds of the attributes of a field. -/
theorem Tags.depend_on_namespaces :
    (∀ steps, (Tags.ofList steps).TellsOf steps) ∧
    (∀ steps more, AgreeByNamespace Prod.fst steps more → Tags.ofList steps = Tags.ofList more) ∧
    ∀ (index : Nat) (field : Field) (attributes : List Attribute),
      AgreeByNamespace (fun a => a.content.subject.text) field.attributes attributes →
      (FieldDef.ofField index { field with attributes }).tags =
        (FieldDef.ofField index field).tags :=
  ⟨tellsOf_ofList, fun _ _ => ofList_of_agree, fun _ _ _ h => (ofAttributes_of_agree h).symm⟩

/-- A namespace is named without values between two extensions of another, and two attributes of a
field change places. -/
theorem Tags.depend_on_namespaces_of_swapped :
    let steps := [("data", ["key"]), ("serde", []), ("data", ["key", "hidden"])]
    let more := [("serde", []), ("data", ["key"]), ("data", ["key", "hidden"])]
    let serde : Path := ⟨false, [⟨.plain ⟨"serde", by decide +kernel, by decide⟩, .none⟩]⟩
    let data : Path := ⟨false, [⟨.plain ⟨"data", by decide +kernel, by decide⟩, .none⟩]⟩
    let marker : Attribute := ⟨.list data .parenthesis data.tokens⟩
    let field : Field := ⟨[⟨.path serde⟩, marker], none, .never, .whole, .whole⟩
    let swapped : List Attribute := [marker, ⟨.path serde⟩]
    (AgreeByNamespace Prod.fst steps more ∧
      AgreeByNamespace (fun a => a.content.subject.text) field.attributes swapped) ∧
    (Tags.ofList steps).TellsOf steps ∧ Tags.ofList steps = Tags.ofList more ∧
    (FieldDef.ofField 0 { field with attributes := swapped }).tags =
      (FieldDef.ofField 0 field).tags := by
  intro steps more serde data marker field swapped
  have hsteps : AgreeByNamespace Prod.fst steps more :=
    .swap (by decide) [] [("data", ["key", "hidden"])]
  have hfield : AgreeByNamespace (fun a => a.content.subject.text) field.attributes swapped :=
    .swap (by decide +kernel) [] []
  exact ⟨⟨hsteps, hfield⟩, depend_on_namespaces.1 steps, depend_on_namespaces.2.1 steps more hsteps,
    depend_on_namespaces.2.2 0 field swapped hfield⟩

end RecordStore
