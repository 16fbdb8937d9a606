import RecordStore.Proofs.Source.Shape
import RecordStore.Proofs.Source.Grammar.Attribute

/-!
# Small programs

The syntax of the programs that stores are written in: imports, a struct with one field, and its
implementation, whose methods bind names and end with an expression. A program stands for the shapes
of its tokens. Its depth tells how many levels of the grammar are needed to read it.
-/

namespace RecordStore.Source

open Shape (leaf group)

/-- A token that is a word. -/
def keyword (text : String) (known : isKnown text = true := by exact id (Eq.refl true)) : Shape :=
  leaf (.word (.of text known))

/-- A token that is a name. -/
def PlainName.shape (n : PlainName) : Shape := leaf (.word (.plain n))

/-- Punctuation that nothing is joined to. -/
def sign (s : Sign) : Shape := leaf (.punct s false)

section Trees

variable (names : StoreNames)

@[simp]
theorem tree_keyword (text : String) (known : isKnown text = true) :
    (keyword text known).tree names = (Token.word (.of text known)).bare := rfl

@[simp]
theorem tree_plain (n : PlainName) : n.shape.tree names = (Token.word (.plain n)).bare := rfl

@[simp]
theorem tree_sign (s : Sign) : (sign s).tree names = (Token.punct s false).bare := rfl

end Trees

/-- Two colons. -/
def doubleColon : List Shape := [leaf (.punct .colon true), sign .colon]

/-! ### Types -/

/-- What a type may be called. -/
inductive TypeName
  | plain (n : PlainName)
  /-- The type that an implementation is for. -/
  | self
  /-- The type of the stored values. -/
  | stored

/-- The token of the name of a type. -/
def TypeName.shape : TypeName → Shape
  | plain n => n.shape
  | self => keyword "Self"
  | stored => leaf .stored

/-- **A type.** -/
inductive TypeTree
  | named (n : TypeName)
  /-- A type with an argument, and maybe a lifetime that is not named before it. -/
  | applied (n : PlainName) (elided : Bool) (argument : TypeTree)
  | reference (lifetime : Option String) (target : TypeTree)
  | unit

namespace TypeTree

/-- The lifetime that is not named, with a comma after it. -/
def elidedLifetime : List Shape := [leaf (.lifetime "_"), sign .comma]

/-- The tokens of a type. At its end, it may be joined to what follows. -/
def shapes (joint : Bool) : TypeTree → List Shape
  | named n => [n.shape]
  | applied n elided argument =>
    n.shape :: leaf (.punct .less elided) :: (if elided then elidedLifetime else []) ++
      argument.shapes true ++ [leaf (.punct .greater joint)]
  | reference (some l) target => leaf (.punct .ampersand true) :: leaf (.lifetime l) :: target.shapes joint
  | reference none target => sign .ampersand :: target.shapes joint
  | unit => [group .parenthesis []]

/-- The number of types that a type stands in each other. -/
def depth : TypeTree → Nat
  | named _ => 0
  | applied _ _ argument => argument.depth + 1
  | reference _ target => target.depth + 1
  | unit => 0

end TypeTree

/-! ### Expressions -/

/-- What a path in an expression may start with. -/
inductive Head
  | name (n : PlainName)
  /-- The value that a method is called on. -/
  | self
  /-- The type that an implementation is for. -/
  | type

/-- The token that a path starts with. -/
def Head.shape : Head → Shape
  | name n => n.shape
  | self => keyword "self"
  | type => keyword "Self"

/-- What a member may be called. -/
inductive MemberName
  | name (n : PlainName)
  /-- The primary key. -/
  | key

/-- The token of a member. -/
def MemberName.shape : MemberName → Shape
  | name n => n.shape
  | key => leaf .key

mutual

/-- **An expression.** -/
inductive Expr
  | reference (target : Expr)
  /-- A value of the type that an implementation is for, by the name of its field. -/
  | record (field : PlainName)
  | path (head : Head) (names : List PlainName) (more : Trailers)
  /-- A call of the function at the end of a path. -/
  | call (head : Head) (names : List PlainName) (arguments : Arguments) (more : Trailers)

/-- What follows a path or call. -/
inductive Trailers
  | nil
  | field (m : MemberName) (more : Trailers)
  | method (n : PlainName) (arguments : Arguments) (more : Trailers)
  /-- The mark that ends a function early. -/
  | mark (more : Trailers)

/-- Arguments with commas between them. -/
inductive Arguments
  | nil
  | cons (e : Expr) (more : Arguments)

end

/-- The tokens of the names in a path after its head. -/
def pathShapes (names : List PlainName) : List Shape := names.flatMap fun n => doubleColon ++ [n.shape]

mutual

/-- The tokens of an expression. -/
def Expr.shapes : Expr → List Shape
  | .reference target => sign .ampersand :: target.shapes
  | .record field => [keyword "Self", group .brace [field.shape]]
  | .path head names more => head.shape :: pathShapes names ++ more.shapes
  | .call head names arguments more =>
    head.shape :: pathShapes names ++ group .parenthesis arguments.shapes :: more.shapes

/-- The tokens of what follows a path or call. -/
def Trailers.shapes : Trailers → List Shape
  | .nil => []
  | .field m more => sign .point :: m.shape :: more.shapes
  | .method n arguments more =>
    sign .point :: n.shape :: group .parenthesis arguments.shapes :: more.shapes
  | .mark more => leaf (.punct .mark true) :: more.shapes

/-- The tokens of arguments. -/
def Arguments.shapes : Arguments → List Shape
  | .nil => []
  | .cons e .nil => e.shapes
  | .cons e more => e.shapes ++ sign .comma :: more.shapes

end

mutual

/-- The number of expressions that an expression stands in each other. -/
def Expr.depth : Expr → Nat
  | .reference target => target.depth + 1
  | .record _ => 0
  | .path _ _ more => more.depth
  | .call _ _ arguments more => max arguments.depth more.depth

/-- The depth of what follows a path or call. -/
def Trailers.depth : Trailers → Nat
  | .nil => 0
  | .field _ more => more.depth
  | .method _ arguments more => max arguments.depth more.depth
  | .mark more => more.depth

/-- The depth of arguments. -/
def Arguments.depth : Arguments → Nat
  | .nil => 0
  | .cons e more => max (e.depth + 1) more.depth

end

/-! ### Methods -/

/-- A name that is bound to a value. -/
structure Binding where
  name : PlainName
  type : Option TypeTree := none
  value : Expr

namespace Binding

/-- The tokens of a binding. -/
def shapes (b : Binding) : List Shape :=
  keyword "let" :: b.name.shape ::
    ((match b.type with
      | none => []
      | some t => sign .colon :: t.shapes false) ++ sign .equals :: b.value.shapes ++ [sign .semicolon])

/-- The depth of a binding. -/
def depth (b : Binding) : Nat :=
  max (match b.type with
    | none => 0
    | some t => t.depth) b.value.depth + 1

end Binding

/-- **A block**: bindings, and an expression at the end. -/
structure Block where
  bindings : List Binding := []
  result : Expr

namespace Block

/-- The tokens of a block. -/
def shapes (b : Block) : List Shape := b.bindings.flatMap Binding.shapes ++ b.result.shapes

/-- The depth of a block. -/
def depth (b : Block) : Nat := b.bindings.foldr (fun b d => max b.depth d) (b.result.depth + 1)

end Block

/-- A parameter for functions of one argument, with the trait for them. -/
structure FunctionParam where
  name : PlainName
  trait : PlainName
  argument : TypeTree
  answer : TypeTree

namespace FunctionParam

/-- The parameter where it is declared. -/
def shapes (p : FunctionParam) : List Shape := [sign .less, p.name.shape, sign .greater]

/-- The condition on the parameter. -/
def condition (p : FunctionParam) : List Shape :=
  keyword "where" :: p.name.shape :: sign .colon :: p.trait.shape ::
    group .parenthesis (p.argument.shapes false) ::
    leaf (.punct .minus true) :: sign .greater :: p.answer.shapes false ++ [sign .comma]

/-- The depth of a parameter. -/
def depth (p : FunctionParam) : Nat := max p.argument.depth p.answer.depth + 2

end FunctionParam

/-- An argument of a method. -/
structure Param where
  name : PlainName
  type : TypeTree

/-- The tokens of an argument. -/
def Param.shapes (p : Param) : List Shape := p.name.shape :: sign .colon :: p.type.shapes false

/-- **A method.** -/
structure Method where
  /-- The number of lines of documentation. -/
  docs : Nat := 0
  name : PlainName
  param : Option FunctionParam := none
  /-- Whether it is called on a value. -/
  receiver : Bool := true
  params : List Param := []
  answer : TypeTree
  body : Block

/-- The tokens of documentation. -/
def docsShapes (docs : Nat) : List Shape :=
  (List.replicate docs
    [sign .hash, group .bracket [leaf (.word docWord), sign .equals, leaf .text]]).flatten

namespace Method

/-- The tokens of the arguments of a method. -/
def paramShapes : List Param → List Shape
  | [] => []
  | [p] => p.shapes
  | p :: more => p.shapes ++ sign .comma :: paramShapes more

/-- The tokens of what a method is called on and of its arguments. -/
def argumentShapes (m : Method) : List Shape :=
  match m.receiver, m.params with
  | false, params => paramShapes params
  | true, [] => [sign .ampersand, keyword "self"]
  | true, params => sign .ampersand :: keyword "self" :: sign .comma :: paramShapes params

/-- The tokens of a method. -/
def shapes (m : Method) : List Shape :=
  docsShapes m.docs ++ keyword "pub" :: keyword "fn" :: m.name.shape ::
    ((m.param.map FunctionParam.shapes).getD [] ++ group .parenthesis m.argumentShapes ::
      leaf (.punct .minus true) :: sign .greater :: m.answer.shapes false ++
      (m.param.map FunctionParam.condition).getD [] ++ [group .brace m.body.shapes])

/-- The depth of a method. -/
def depth (m : Method) : Nat :=
  max (max ((m.param.map FunctionParam.depth).getD 0) (m.params.foldr (fun p d => max p.type.depth d) 0))
    (max m.answer.depth m.body.depth) + 1

end Method

/-! ### Programs -/

/-- What an import names. -/
inductive ImportTree
  | name (n : PlainName)
  | path (n : PlainName) (more : ImportTree)
  | group (first : PlainName) (more : List PlainName)

namespace ImportTree

/-- The tokens of names in braces. -/
def groupShapes (first : PlainName) : List PlainName → List Shape
  | [] => [first.shape]
  | n :: more => first.shape :: sign .comma :: groupShapes n more

/-- The tokens of what an import names. -/
def shapes : ImportTree → List Shape
  | name n => [n.shape]
  | path n more => n.shape :: doubleColon ++ more.shapes
  | group first more => [Shape.group .brace (groupShapes first more)]

/-- The depth of what an import names. -/
def depth : ImportTree → Nat
  | name _ => 0
  | path _ more => more.depth + 1
  | group _ _ => 1

end ImportTree

/-- An import of something in a package. -/
structure Import where
  package : PlainName
  tree : ImportTree

/-- The tokens of an import. -/
def Import.shapes (i : Import) : List Shape :=
  keyword "use" :: i.package.shape :: doubleColon ++ i.tree.shapes ++ [sign .semicolon]

/-- A constant that is a string. -/
structure TextConstant where
  /-- The number of lines of documentation. -/
  docs : Nat := 0
  name : PlainName
  type : TypeTree

/-- The tokens of a constant. -/
def TextConstant.shapes (c : TextConstant) : List Shape :=
  docsShapes c.docs ++ keyword "pub" :: keyword "const" :: c.name.shape :: sign .colon ::
    c.type.shapes false ++ [sign .equals, leaf .text, sign .semicolon]

/-- **A program**: imports, a struct with one parameter and one field, and its implementation. -/
structure Program where
  imports : List Import
  /-- The number of lines of documentation of the struct. -/
  docs : Nat := 0
  /-- The parameter of the struct. -/
  param : PlainName
  /-- The trait that the parameter has. -/
  bound : PlainName
  /-- The field of the struct. -/
  field : PlainName
  constant : TextConstant
  methods : List Method

namespace Program

/-- The name of the store with its parameter as it is declared. -/
def paramShapes (p : Program) : List Shape :=
  [sign .less, p.param.shape, sign .colon, p.bound.shape, sign .greater]

/-- The tokens of the struct. -/
def structShapes (p : Program) : List Shape :=
  docsShapes p.docs ++ keyword "pub" :: keyword "struct" :: leaf .store :: p.paramShapes ++
    [group .brace [p.field.shape, sign .colon, p.param.shape, sign .comma]]

/-- The tokens of the implementation. -/
def implementationShapes (p : Program) : List Shape :=
  keyword "impl" :: p.paramShapes ++ [leaf .store, sign .less, p.param.shape, sign .greater,
    group .brace (p.constant.shapes ++ p.methods.flatMap Method.shapes)]

/-- **The tokens of a program.** -/
def shapes (p : Program) : List Shape :=
  p.imports.flatMap Import.shapes ++ p.structShapes ++ p.implementationShapes

/-- The depth of a program. -/
def depth (p : Program) : Nat :=
  max (p.imports.foldr (fun i d => max i.tree.depth d) 1)
    (max p.constant.type.depth (p.methods.foldr (fun m d => max m.depth d) 1)) + 2

end Program

end RecordStore.Source
