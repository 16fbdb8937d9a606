import RecordStore.Source.Grammar.Function

/-!
# Items

An item is recognised by the word after its visibility. Traits, implementations and blocks of
foreign items contain items of their own, with fewer forms. Only structs are kept.
-/

namespace RecordStore.Source.Parser

variable (g : Grammar)

/-! ### Parts of items -/

/-- A block that is the body of a function. -/
def functionBody : Parser Unit := blockWithAttributes g

/-- The name of a constant, or the line in place of it. -/
def constantName : Parser Unit := do
  if ← peekAny [aName, theWord "_"] then
    let _ ← wordOfAnyKind
  else noneOf [aName, theWord "_"]

/-- A constant after its word: it has a value or not. -/
def constantAfterWord : Parser Unit := do
  constantName
  let _ ← generics g
  punct ":"
  let _ ← g.type true
  if ← punct? "=" then
    let _ ← g.expr true
  let _ ← conditions g
  punct ";"

/-- Bounds with plus signs between them, up to something that ends them. -/
def boundsBefore (stop : List Peek) (rules : BoundRules) : Parser Unit := do
  let _ ← separated (peekAny stop) "+" (g.bound rules)

/-- Where conditions stand in the declaration of a type. -/
inductive ConditionPlace
  | beforeDefinition
  | afterDefinition
  /-- In one of the two places. -/
  | anywhere
  deriving DecidableEq

/-- The declaration of a type by its name, from its word on. -/
def typeDeclaration (place : ConditionPlace) : Parser Unit := do
  word "type"
  let _ ← name
  let _ ← generics g
  if ← punct? ":" then
    boundsBefore g [theWord "where", punctuation "=", punctuation ";"] { constant := true }
  let conditioned ← peekWord "where"
  if place != .afterDefinition then
    let _ ← conditions g
  if ← punct? "=" then
    let _ ← g.type true
  if place == .afterDefinition || (place == .anywhere && !conditioned) then
    let _ ← conditions g
  punct ";"

/-- A macro call that is an item among others. -/
def macroMember : Parser Unit := do
  let _ ← plainPath
  punct "!"
  let (d, _) ← rawGroup
  if d != .brace then punct ";"

/-- What a macro call that is an item starts with. -/
def macroStarts : List Peek :=
  [aName, theWord "self", theWord "super", theWord "crate", punctuation "::"]

/-- Items in braces, after attributes about what they stand in. -/
def itemsInBraces (item : Parser Unit) : Parser Unit :=
  group .brace do
    innerAttributes g
    let _ ← untilEnd item

/-! ### Foreign items -/

/-- Whether a foreign static starts here. -/
def peekForeignStatic : Parser Bool := do
  if ← peekWord "static" then return true
  else return (← peekAny [theWord "unsafe", theWord "safe"]) && (← peekSecond (theWord "static"))

/-- An item of another language. -/
def foreignItem : Parser Unit := do
  let _ ← outerAttributes g
  let inherited ← visibility
  if (← peekWord "fn") || (← peekSignature true) then
    signature g true
    if ← peek braces then functionBody g else punct ";"
  else if ← peekForeignStatic then
    if !(← word? "unsafe") then
      let _ ← word? "safe"
    word "static"
    let _ ← word? "mut"
    let _ ← name
    punct ":"
    let _ ← g.type true
    if ← punct? "=" then
      let _ ← g.expr true
    punct ";"
  else if ← peekWord "type" then typeDeclaration g .anywhere
  else if inherited && (← peekAny macroStarts) then macroMember
  else
    noneOf <| [theWord "fn", theWord "static", theWord "type"] ++
      if inherited then macroStarts else []

/-- Items of another language, from the words for it on. -/
def foreignItems : Parser Unit := do
  let _ ← word? "unsafe"
  if ← peekWord "extern" then abi else word "extern"
  itemsInBraces g (foreignItem g)

/-! ### Traits -/

/-- A function of a trait, with a body or without. -/
def traitFunction : Parser Unit := do
  signature g false
  if ← peek braces then functionBody g
  else if ← punct? ";" then return ()
  else noneOf [braces, punctuation ";"]

/-- A constant of a trait, or a function that starts with the same word. -/
def traitConstant : Parser Unit := do
  let functionStarts :=
    [theWord "async", theWord "unsafe", theWord "extern", theWord "fn"]
  if (← peekSecond aName) || (← peekSecond (theWord "_")) then
    word "const"
    constantAfterWord g
  else
    let ts := (← get).rest.drop 1
    if functionStarts.any (·.holds ts) then traitFunction g
    else
      word "const"
      noneOf (aName :: theWord "_" :: functionStarts)

/-- An item of a trait. -/
def traitItem : Parser Unit := do
  let _ ← outerAttributes g
  let inherited ← visibility
  let specialised ← word? "default"
  let plain := inherited && !specialised
  if (← peekWord "fn") || (← peekSignature false) then traitFunction g
  else if ← peekWord "const" then traitConstant g
  else if ← peekWord "type" then typeDeclaration g .afterDefinition
  else if plain && (← peekAny macroStarts) then macroMember
  else
    noneOf <| [theWord "fn", theWord "const", theWord "type"] ++ if plain then macroStarts else []

/-- The rest of a trait after its parameters. -/
def traitBody : Parser Unit := do
  if ← punct? ":" then boundsBefore g [theWord "where", braces] { constant := true }
  let _ ← conditions g
  itemsInBraces g (traitItem g)

/-- A trait that may be marked, from its words on. -/
def markedTrait : Parser Unit := do
  let _ ← word? "unsafe"
  let _ ← word? "auto"
  word "trait"
  let _ ← name
  let _ ← generics g
  traitBody g

/-- A trait, or a name for bounds, from its word on. -/
def traitOrAlias : Parser Unit := do
  word "trait"
  let _ ← name
  let _ ← generics g
  if ← peekAny [braces, punctuation ":", theWord "where"] then traitBody g
  else if ← punct? "=" then
    boundsBefore g [theWord "where", punctuation ";"] {}
    let _ ← conditions g
    punct ";"
  else noneOf [braces, punctuation ":", theWord "where", punctuation "="]

/-! ### Implementations -/

/-- A function of an implementation. The grammar admits it without a body. -/
def implFunction : Parser Unit := do
  signature g false
  if ← punct? ";" then return ()
  functionBody g

/-- An item of an implementation. -/
def implItem : Parser Unit := do
  let _ ← outerAttributes g
  let inherited ← visibility
  let specialised ←
    if ← peekSecond (punctuation "!") then pure false else word? "default"
  let plain := inherited && !specialised
  if (← peekWord "fn") || (← peekSignature false) then implFunction g
  else if ← word? "const" then constantAfterWord g
  else if ← peekWord "type" then typeDeclaration g .afterDefinition
  else if plain && (← peekAny macroStarts) then macroMember
  else
    noneOf <| (if specialised then [] else [theWord "default"]) ++
      [theWord "fn", theWord "const", theWord "type"] ++ if plain then macroStarts else []

/-- Whether the angle bracket here opens parameters; otherwise it opens the start of a path. -/
def peekParams : Parser Bool := do
  if !(← peekPunct "<") then return false
  else if (← peekSecond (punctuation ">")) || (← peekSecond (punctuation "#")) ||
      (← peekSecond (theWord "const")) then
    return true
  else if (← peekSecond aLifetime) || (← peekSecond aName) then
    let colon := (← peekThird (punctuation ":")) && !(← peekThird (punctuation "::"))
    return colon || (← peekThird (punctuation ">")) || (← peekThird (punctuation ",")) ||
      (← peekThird (punctuation "="))
  else return false

/-- An implementation, from its words on. -/
def implementation : Parser Unit := do
  let _ ← word? "default"
  let _ ← word? "unsafe"
  word "impl"
  if ← peekParams then
    let _ ← generics g
  if (← peekPunct "?") && (← peekSecond (theWord "const")) then punct "?"
  let _ ← word? "const"
  let negative ←
    if (← peekPunct "!") && !(← peekSecond braces) then
      let (_, span) ← spanned (punct "!")
      pure (some span)
    else pure none
  let _ ← g.type true
  if ← word? "for" then
    let _ ← g.type true
  else if let some span := negative then failAt span .negativeInherent
  let _ ← conditions g
  itemsInBraces g (implItem g)

/-! ### Imports -/

/-- What an import may start with. -/
def importStarts : List Peek :=
  [aName, theWord "self", theWord "super", theWord "crate", theWord "try"]

/-- Several things that an import names, in braces. -/
def importGroup (rooted : Bool) : Parser Unit := do
  let _ ← group .brace <| commaSeparated do
    let colons ← if rooted then punct? "::" else pure false
    g.useTree (rooted && !colons)

/-- **What an import names.** The names may start at the root of a package, if `rooted`. -/
def useTree (rooted : Bool) : Parser Unit := do
  if ← peekAny importStarts then
    let _ ← wordOfAnyKind
    if ← punct? "::" then g.useTree false
    else if ← word? "as" then
      if ← peekAny [aName, theWord "_"] then
        let _ ← wordOfAnyKind
      else expected "identifier or underscore"
  else if ← punct? "*" then return ()
  else if ← peek braces then importGroup g rooted
  else noneOf (importStarts ++ [punctuation "*", braces])

/-- An import, from its word on. -/
def importItem : Parser Unit := do
  word "use"
  let colons ← punct? "::"
  g.useTree !colons
  punct ";"

/-! ### Further items -/

/-- A function, with a body or without. -/
def functionItem : Parser Unit := do
  signature g false
  if ← punct? ";" then return ()
  functionBody g

/-- The name of a package that is used, and maybe another one for it. -/
def packageItem : Parser Unit := do
  word "extern"
  word "crate"
  if ← peekWord "self" then word "self"
  else
    let _ ← name
  if ← word? "as" then
    if !(← word? "_") then
      let _ ← name
  punct ";"

/-- An item that starts with the word for other languages; `start` goes back to the visibility. -/
def externItem (start : Parser Unit) : Parser Unit := do
  if ← peekSecond (theWord "crate") then packageItem
  else if ← peekSecond braces then
    start
    foreignItems g
  else if ← peekSecond aString then
    if ← peekThird braces then
      start
      foreignItems g
    else
      abi
      noneOf [braces]
  else
    word "extern"
    noneOf [theWord "crate", braces, aString]

/-- A static. The grammar admits it without a type or without a value. -/
def staticItem : Parser Unit := do
  word "static"
  let _ ← word? "mut"
  let _ ← name
  if ← punct? "=" then
    let _ ← g.expr true
  else
    punct ":"
    let _ ← g.type true
    if ← punct? ";" then return ()
    punct "="
    let _ ← g.expr true
  punct ";"

/-- A constant. -/
def constantItem : Parser Unit := do
  word "const"
  constantAfterWord g

/-- A module, with its items or in a file of its own. -/
def moduleItem : Parser Unit := do
  let _ ← word? "unsafe"
  word "mod"
  if ← peekWord "try" then word "try"
  else
    let _ ← name
  if ← punct? ";" then return ()
  else if ← peek braces then
    itemsInBraces g do
      let _ ← outerAttributes g
      let _ ← g.item
  else noneOf [punctuation ";", braces]

/-- An item that starts with the word for code without guarantees; `start` goes back to the
visibility. -/
def unsafeItem (start : Parser Unit) : Parser Unit := do
  if (← peekSecond (theWord "trait")) ||
      ((← peekSecond (theWord "auto")) && (← peekThird (theWord "trait"))) then
    markedTrait g
  else if ← peekSecond (theWord "impl") then implementation g
  else if ← peekSecond (theWord "extern") then
    start
    foreignItems g
  else if ← peekSecond (theWord "mod") then moduleItem g
  else
    word "unsafe"
    noneOf [theWord "trait", theWord "auto", theWord "impl", theWord "extern", theWord "mod"]

/-- The declaration of a macro by its word. -/
def macroDeclaration : Parser Unit := do
  word "macro"
  let _ ← name
  let withParameters ← peek parens
  if withParameters then group .parenthesis remaining
  if ← peek braces then group .brace remaining
  else noneOf (if withParameters then [braces] else [parens, braces])

/-- A macro call that is an item of a file. -/
def macroItem : Parser Unit := do
  let _ ← plainPath
  punct "!"
  if ← peekAny [aName, theWord "try"] then
    let _ ← wordOfAnyKind
  let (d, _) ← rawGroup
  if d != .brace then punct ";"

/-! ### All items -/

/-- The words that items start with. -/
def itemStarts : List Peek :=
  [theWord "fn", theWord "extern", theWord "use", theWord "static", theWord "const",
    theWord "unsafe", theWord "mod", theWord "type", theWord "struct", theWord "enum",
    theWord "union", theWord "trait", theWord "auto", theWord "impl", theWord "default",
    theWord "macro"]

/-- An item that is not kept, after its visibility; `start` goes back to that. -/
def otherItem (inherited : Bool) (start : Parser Unit) : Parser Unit := do
  if (← peekWord "fn") || (← peekSignature false) then functionItem g
  else if ← peekWord "extern" then externItem g start
  else if ← peekWord "use" then importItem g
  else if ← peekWord "static" then staticItem g
  else if ← peekWord "const" then constantItem g
  else if ← peekWord "unsafe" then unsafeItem g start
  else if ← peekWord "mod" then moduleItem g
  else if ← peekWord "type" then typeDeclaration g .beforeDefinition
  else if ← peekWord "enum" then discard (enumItem g)
  else if (← peekWord "union") && (← peekSecond aName) then discard (unionItem g)
  else if ← peekWord "trait" then traitOrAlias g
  else if (← peekWord "auto") && (← peekSecond (theWord "trait")) then markedTrait g
  else if ← peekWord "impl" then implementation g
  else if (← peekWord "default") && !(← peekSecond (punctuation "!")) then implementation g
  else if ← peekWord "macro" then macroDeclaration
  else if inherited && (← peekAny macroStarts) then macroItem
  else noneOf (itemStarts ++ if inherited then macroStarts else [])

/-- **An item**, after its attributes. -/
def item : Parser Item := do
  let before ← get
  let inherited ← visibility
  if ← peekWord "struct" then return .struct (← structItem g)
  else
    otherItem g inherited (set before)
    return .other

end RecordStore.Source.Parser
