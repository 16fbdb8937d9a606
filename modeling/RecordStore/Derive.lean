import RecordStore.Definition.File
import RecordStore.Definition.PrimaryKey

/-!
# Deriving records

For a struct with a primary key an implementation is derived that borrows the key from its field.
For anything else the error tells which part of the declaration is at fault: the name of what is no
struct or has no key, the second of several marked fields, or the type of a key that is no string.
-/

namespace RecordStore

open Source

/-- Why no implementation can be derived. -/
inductive DeriveFault
  /-- The declaration is no struct. -/
  | noStruct
  /-- The struct has no primary key. -/
  | key (e : PrimaryKeyError)
  deriving DecidableEq, Repr

/-- The wording of a fault. -/
def DeriveFault.message : DeriveFault → String
  | .noStruct => "`Record` can only be derived for structs"
  | .key e => e.message

/-- A fault with the part of the declaration that it is about. -/
structure DeriveError where
  fault : DeriveFault
  span : Span
  deriving DecidableEq, Repr

/-- The fields of a struct with their definitions. -/
def Source.StructItem.definedFields (s : StructItem) : List (FieldDef × Field) :=
  (StructDef.ofItem s).fields.zip s.fields

/-- The part of a declaration that an error about its primary key is about. -/
def Source.StructItem.blame (s : StructItem) : PrimaryKeyError → Span
  | .noPrimaryKey _ => s.nameSpan
  | .ambiguous _ _ =>
    match s.definedFields.filter (·.1.isPrimaryKey) with
    | _ :: (_, second) :: _ => second.span
    | _ => s.nameSpan
  | .invalidType _ name _ =>
    match s.definedFields.find? (·.1.name == name) with
    | some (_, field) => field.typeSpan
    | none => s.nameSpan

/-- A name that the grammar does not ask for, as a token. -/
def plainToken (text : String) (h : isWordText text.toList = true ∧ isKnown text = false) :
    TokenTree :=
  (Token.word (.plain ⟨text, h.1, h.2⟩)).bare

/-- The token of a field: its name, or its position. -/
def memberToken (index : Nat) (field : Field) : TokenTree :=
  match field.name with
  | some name => (Token.word name).bare
  | none => (Token.literal (.ofNat index)).bare

/-- The method that borrows a member as the key. -/
def keyMethod (member : TokenTree) : Tokens :=
  let self : TokenTree := wordToken "self"
  let body : Tokens := punctTokens "&" ++ [self] ++ punctTokens "." ++ [member]
  [wordToken "fn", plainToken "primary_key" (by decide +kernel),
    groupOf .parenthesis (punctTokens "&" ++ [self])] ++
  punctTokens "->" ++ punctTokens "&" ++
  [plainToken "str" (by decide +kernel), groupOf .brace body]

/-- The implementation for a struct whose key is in some field. -/
def implementation (s : StructItem) (member : TokenTree) : Tokens :=
  [wordToken "impl"] ++ s.generics.implTokens ++ punctTokens "::" ++
    [plainToken "sdata" (by decide +kernel)] ++ punctTokens "::" ++
    [plainToken "Record" (by decide +kernel), wordToken "for", (Token.word s.name).bare] ++
    s.generics.argumentTokens ++ s.generics.whereTokens ++ [groupOf .brace (keyMethod member)]

/-- **The derived implementation.** -/
def Source.Declaration.derive : Declaration → Except DeriveError Tokens
  | .other nameSpan => .error { fault := .noStruct, span := nameSpan }
  | .struct s =>
    match (StructDef.ofItem s).primaryKey with
    | .error e => .error { fault := .key e, span := s.blame e }
    | .ok (index, _) =>
      match s.fields[index]? with
      | some field => .ok (implementation s (memberToken index field))
      | none => .error { fault := .noStruct, span := s.nameSpan }

end RecordStore
