import RecordStore.Derive
import RecordStore.Proofs.Definition.File
import RecordStore.Proofs.Definition.PrimaryKey
import RecordStore.Proofs.Generator.Context
import RecordStore.Proofs.Source.Declaration
import RecordStore.Proofs.Source.Printing
import RecordStore.Proofs.Template.Store

/-!
# Derived and generated code agree on the primary key

There are two ways from a struct to its key. An implementation is derived from the declaration
alone, and goes from the position of the key back to the field. A store is generated for a struct
that is looked up in a file, and knows the key by its name. Both come to the same key, or fail for
the same reason (`RecordStore.derive_agrees_with_generator`).

* The declaration, read as a file, is a file with the one struct
  (`RecordStore.SourceFile.parse_of_declaration`). The definition of a struct does not depend on
  places, so both ways resolve the key of one definition.
* The token for a field at a position prints as the name that its definition has
  (`RecordStore.memberToken_print`), be it a name, a raw name or the position itself.
* Where the key goes is read off the texts: it is what the derived method borrows
  (`RecordStore.exists_print_implementation`), and what stands between `&value.` and the payload
  in a store (`RecordStore.exists_render_store`).
-/

namespace RecordStore

open Source

/-! ### The file of a declaration -/

/-- What a struct is defined to be does not depend on where it stands. -/
theorem StructDef.ofItem_afterMark (s : StructItem) :
    StructDef.ofItem s.afterMark = StructDef.ofItem s := by
  rw [ofItem, ofItem, StructItem.afterMark]
  dsimp only
  rw [StructDef.mk.injEq]
  refine ⟨rfl, List.ext_getElem? fun i => ?_⟩
  rw [List.getElem?_mapIdx, List.getElem?_mapIdx, List.getElem?_map, Option.map_map]
  rfl

/-- **The file of a declaration** has the one struct that is declared. -/
theorem SourceFile.parse_of_declaration {path text : String} {s : StructItem}
    (h : Declaration.parse text = .ok (.struct s)) : SourceFile.parse path text =
      .ok { path, package := packageName path, structs := [StructDef.ofItem s] } := by
  obtain ⟨s₀, hfile, hs⟩ := Declaration.exists_file h
  have hdef : StructDef.ofItem s₀ = StructDef.ofItem s := by
    rcases hs with rfl | rfl
    · rfl
    · exact (StructDef.ofItem_afterMark s₀).symm
  refine parse_eq_ok_iff.2 ⟨_, hfile, ?_⟩
  rw [← hdef]
  rfl

/-! ### The text of an implementation -/

/-- **The token of a field** is its name in the definition of the struct. -/
theorem memberToken_print (index : Nat) (field : Field) :
    (memberToken index field).print = (FieldDef.ofField index field).name.toList := by
  rw [memberToken, FieldDef.ofField]
  cases field.name with
  | none => rfl
  | some name => rfl

/-- The method borrows the member. -/
theorem print_keyMethod (member : TokenTree) : (groupOf .brace (keyMethod member)).print =
    "\x7b fn primary_key (& self) -> & str \x7b & self . ".toList ++ member.print ++
      " \x7d \x7d".toList := by
  have hborrow : punctTokens "&" = [(Token.punct (.of '&') false).bare] := rfl
  have hpoint : punctTokens "." = [(Token.punct (.of '.') false).bare] := rfl
  have harrow : punctTokens "->" =
      [(Token.punct (.of '-') true).bare, (Token.punct (.of '>') false).bare] := rfl
  simp [hborrow, hpoint, harrow, groupOf, keyMethod, wordToken, plainToken, Token.bare,
    TokenTree.print, printTrees, Token.print, Token.isJoint, Word.text, Word.of, Sign.of]

/-- An implementation ends with its method. -/
theorem exists_print_implementation (s : StructItem) (member : TokenTree) :
    ∃ before, Tokens.print (implementation s member) = before ++
      "\x7b fn primary_key (& self) -> & str \x7b & self . " ++ String.ofList member.print ++
        " \x7d \x7d" := by
  obtain ⟨before, hbefore⟩ := exists_printTrees_concat _ (groupOf .brace (keyMethod member))
  refine ⟨String.ofList before, ?_⟩
  apply String.toList_inj.1
  rw [Tokens.print, implementation, String.toList_ofList, hbefore, print_keyMethod]
  simp only [String.toList_append, String.toList_ofList, List.append_assoc]

/-! ### Both ways to the key -/

variable {text path : String} {s : StructItem}

/-- An implementation is derived for the field that the key is defined by. -/
theorem derive_of_primaryKey {index : Nat} {key : FieldDef}
    (h : (StructDef.ofItem s).primaryKey = .ok (index, key)) :
    ∃ field, key = FieldDef.ofField index field ∧
      (Declaration.struct s).derive = .ok (implementation s (memberToken index field)) := by
  have hget : (s.fields[index]?).map (FieldDef.ofField index) = some key := by
    rw [← List.getElem?_mapIdx]
    exact StructDef.getElem?_of_primaryKey h
  obtain ⟨field, hfield, rfl⟩ := Option.map_eq_some_iff.1 hget
  refine ⟨field, rfl, ?_⟩
  rw [Declaration.derive, h]
  dsimp only
  rw [hfield]

theorem derive_of_primaryKey_error {e : PrimaryKeyError}
    (h : (StructDef.ofItem s).primaryKey = .error e) :
    (Declaration.struct s).derive = .error { fault := .key e, span := s.blame e } := by
  rw [Declaration.derive, h]

/-- What the derived method borrows is spelled like the name of the key. -/
theorem exists_print_of_derive {tokens : Tokens} {index : Nat} {key : FieldDef}
    (hkey : (StructDef.ofItem s).primaryKey = .ok (index, key))
    (htokens : (Declaration.struct s).derive = .ok tokens) :
    ∃ before, Tokens.print tokens = before ++
      "\x7b fn primary_key (& self) -> & str \x7b & self . " ++ key.name ++ " \x7d \x7d" := by
  obtain ⟨field, rfl, hderive⟩ := derive_of_primaryKey hkey
  rw [hderive] at htokens
  cases htokens
  obtain ⟨before, hbefore⟩ := exists_print_implementation s (memberToken index field)
  rw [memberToken_print, String.ofList_toList] at hbefore
  exact ⟨before, hbefore⟩

/-- In the file of a declaration the struct is found by its name. -/
theorem find_of_declaration (path : String) (hs : Declaration.parse text = .ok (.struct s)) :
    ∃ source, SourceFile.parse path text = .ok source ∧
      source.find s.name.text = .ok (StructDef.ofItem s) := by
  refine ⟨_, SourceFile.parse_of_declaration hs, ?_⟩
  have hname : s.name.text = (StructDef.ofItem s).name := rfl
  rw [hname]
  exact SourceFile.find_of_structs rfl

/-- What is found by the name of the struct is its definition. -/
theorem eq_ofItem_of_find {source : SourceFile} {d : StructDef}
    (hs : Declaration.parse text = .ok (.struct s))
    (hsource : SourceFile.parse path text = .ok source)
    (hd : source.find s.name.text = .ok d) : d = StructDef.ofItem s := by
  obtain ⟨file, hfile, hfind⟩ := find_of_declaration path hs
  rw [hfile] at hsource
  cases hsource
  rw [hfind] at hd
  exact (Except.ok.inj hd).symm

/-- **Derived and generated code agree on the primary key.** For a text that declares a struct, an
implementation is derived exactly if the text is a file in which the struct is found by its name
and has a primary key. Then the derived method borrows what is spelled like the key that stands
between `&value.` and the payload in the store. Otherwise the error is worded like that about the
primary key. -/
theorem derive_agrees_with_generator (path : String)
    (hs : Declaration.parse text = .ok (.struct s)) :
    ((∃ tokens, (Declaration.struct s).derive = .ok tokens) ↔
      ∃ source d index key, SourceFile.parse path text = .ok source ∧
        source.find s.name.text = .ok d ∧ d.primaryKey = .ok (index, key)) ∧
    (∀ tokens source d index key, (Declaration.struct s).derive = .ok tokens →
      SourceFile.parse path text = .ok source → source.find s.name.text = .ok d →
      d.primaryKey = .ok (index, key) →
        (∃ before, Tokens.print tokens = before ++
          "\x7b fn primary_key (& self) -> & str \x7b & self . " ++ key.name ++ " \x7d \x7d") ∧
        ∀ modulePath package context,
          source.context modulePath d key.name package = .ok context →
            ∃ before after, Template.store.render context =
              before ++ "&value." ++ key.name ++ ", payload)" ++ after) ∧
    ∀ e, (Declaration.struct s).derive = .error e →
      ∃ source d fault, SourceFile.parse path text = .ok source ∧
        source.find s.name.text = .ok d ∧ d.primaryKey = .error fault ∧
          e.fault.message = fault.message := by
  obtain ⟨file, hfile, hfind⟩ := find_of_declaration path hs
  refine ⟨⟨?_, ?_⟩, ?_, ?_⟩
  · rintro ⟨tokens, htokens⟩
    cases hkey : (StructDef.ofItem s).primaryKey with
    | error fault =>
      rw [derive_of_primaryKey_error hkey] at htokens
      cases htokens
    | ok found => exact ⟨file, _, found.1, found.2, hfile, hfind, hkey⟩
  · rintro ⟨source, d, index, key, hsource, hd, hkey⟩
    rw [eq_ofItem_of_find hs hsource hd] at hkey
    obtain ⟨field, -, hderive⟩ := derive_of_primaryKey hkey
    exact ⟨_, hderive⟩
  · intro tokens source d index key htokens hsource hd hkey
    rw [eq_ofItem_of_find hs hsource hd] at hkey
    refine ⟨exists_print_of_derive hkey htokens, fun modulePath package context hcontext => ?_⟩
    rw [← SourceFile.primaryKey_of_context hcontext]
    exact exists_render_store context
  · intro e he
    cases hkey : (StructDef.ofItem s).primaryKey with
    | error fault =>
      rw [derive_of_primaryKey_error hkey] at he
      cases he
      exact ⟨file, _, fault, hfile, hfind, hkey, rfl⟩
    | ok found =>
      obtain ⟨index, key⟩ := found
      obtain ⟨field, -, hderive⟩ := derive_of_primaryKey hkey
      rw [hderive] at he
      cases he

/-- A generic struct whose key has the raw form of a keyword for its name. -/
def rawKeyText : String := "struct A<T> \x7b #[data(primary_key)] r#type: String, b: T \x7d"

/-- In the implementation for this struct as in its store the key is spelled in the raw form. -/
theorem derive_agrees_with_generator_of_rawKeyText :
    ∃ s tokens, Declaration.parse rawKeyText = .ok (.struct s) ∧
      (Declaration.struct s).derive = .ok tokens ∧
      Tokens.print tokens = "impl < T > :: sdata :: Record for A < T > " ++
        "\x7b fn primary_key (& self) -> & str \x7b & self . r#type \x7d \x7d" ∧
      ∃ source d index key, SourceFile.parse "a.rs" rawKeyText = .ok source ∧
        source.find s.name.text = .ok d ∧ d.primaryKey = .ok (index, key) ∧
        (∃ before, Tokens.print tokens = before ++
          "\x7b fn primary_key (& self) -> & str \x7b & self . " ++ key.name ++ " \x7d \x7d") ∧
        ∀ modulePath package context,
          source.context modulePath d key.name package = .ok context →
            ∃ before after, Template.store.render context =
              before ++ "&value." ++ key.name ++ ", payload)" ++ after := by
  have hcheck : ((Declaration.parse rawKeyText).toOption.any fun declaration =>
      declaration.derive.toOption.any fun tokens => Tokens.print tokens ==
        "impl < T > :: sdata :: Record for A < T > " ++
          "\x7b fn primary_key (& self) -> & str \x7b & self . r#type \x7d \x7d") = true := by
    decide +kernel
  obtain ⟨declaration, hdeclaration, hderive⟩ := exists_ok_of_any hcheck
  obtain ⟨tokens, htokens, hprint⟩ := exists_ok_of_any hderive
  cases declaration with
  | other nameSpan => cases htokens
  | struct s =>
    obtain ⟨hiff, hspelling, -⟩ := derive_agrees_with_generator "a.rs" hdeclaration
    obtain ⟨source, d, index, key, hsource, hd, hkey⟩ := hiff.1 ⟨tokens, htokens⟩
    exact ⟨s, tokens, hdeclaration, htokens, eq_of_beq hprint, source, d, index, key, hsource, hd,
      hkey, hspelling tokens source d index key htokens hsource hd hkey⟩

end RecordStore
