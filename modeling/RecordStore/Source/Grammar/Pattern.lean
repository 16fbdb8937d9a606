import RecordStore.Source.Grammar.Member
import RecordStore.Source.Grammar.Type

/-!
# Patterns

A pattern that starts with a path may go on as a macro call, as the fields of a struct, as a tuple
or as a range. A name alone binds. In parentheses and brackets, and where a pattern is matched,
alternatives may be given, with bars between them and maybe one in front.
-/

namespace RecordStore.Source.Parser

variable (g : Grammar)

/-! ### Alternatives -/

/-- Whether a bar between alternatives stands here. -/
def peekBar : Parser Bool := peekPunctNot "|" ["||", "|="]

/-- A pattern with alternatives; a bar in front of the first may have been read. -/
def alternativesAfter (bar : Bool) : Parser PatternForm := do
  let form ← g.pattern
  let more ← loop do
    if ← peekBar then
      punct "|"
      let _ ← g.pattern
      return some ()
    else return none
  return if bar || !more.isEmpty then .other else form

/-- A pattern with alternatives. -/
def choice : Parser PatternForm := alternativesAfter g false

/-- **A pattern with alternatives**, maybe with a bar in front. -/
def choiceWithBar : Parser PatternForm := do
  let bar ← punct? "|"
  alternativesAfter g bar

/-- Patterns with commas between them. -/
def patterns : Parser (List PatternForm) := commaSeparated (choiceWithBar g)

/-! ### Ranges -/

/-- The points of a range, which tell whether it is closed. The three points of old are written as
the closing ones of today where they are allowed. -/
def rangePoints (old : Bool) : Parser (Bool × Span) := do
  let (closed, span) ← spanned do
    if ← punct? "..=" then return true
    else if ← peekPunct "..." then
      if old then
        let _ ← silently (punct "...")
        write (punctTokens "..=")
        return true
      else noneOf [punctuation "..", punctuation "..="]
    else if ← punct? ".." then return false
    else noneOf [punctuation ".."]
  return (closed, span)

/-- The bound of a range, if there is one. -/
def rangeBound : Parser Bool := do
  if (← atEnd) || (← peekPunctNot ":" ["::"]) ||
      (← peekAny [punctuation "|", punctuation "=", punctuation ",", punctuation ";", theWord "if"])
  then return false
  else
    let words := [theWord "self", theWord "Self", theWord "super", theWord "crate"]
    if ← peek aLiteral then
      let _ ← literal
    else if ← peekAny (aName :: punctuation "::" :: punctuation "<" :: words) then
      let (start, p) ← qualifiedPath g true
      write (start.getD [] ++ p.tokens)
    else if ← peekWord "const" then
      word "const"
      blockWithAttributes g
    else
      noneOf (aLiteral :: aName :: punctuation "::" :: punctuation "<" :: words ++ [theWord "const"])
    return true

/-- A range from its points on, after its lower bound. -/
def rangeAfterBound : Parser PatternForm := do
  let (closed, span) ← rangePoints true
  if ← rangeBound g then return .other
  else if closed then fail .missingUpperBound
  else return .openRange span

/-- A range without lower bound. Its points alone stand for everything else. -/
def rangeToBound : Parser PatternForm := do
  let (closed, span) ← rangePoints false
  if ← rangeBound g then return .openRange span
  else if closed then fail .missingUpperBound
  else return .rest

/-- A literal, or a range that starts with one. -/
def literalPattern : Parser PatternForm := do
  let _ ← rangeBound g
  if ← peekPunct ".." then rangeAfterBound g else return .other

/-! ### Structs and tuples -/

/-- A field of a struct in a pattern. -/
def fieldPattern : Parser Unit := do
  let _ ← verbatimIf id do
    let boxed ← word? "box"
    let byReference ← word? "ref"
    let changing ← word? "mut"
    let marked := boxed || byReference || changing
    let named ← if marked then do let _ ← name; pure true else member
    if (!marked && (← peekPunct ":")) || !named then
      punct ":"
      let _ ← choiceWithBar g
    return boxed

/-- The fields of a struct in a pattern. -/
def fieldPatterns : Nat → Parser Unit
  | 0 => return ()
  | fuel + 1 => do
    if ← atEnd then return ()
    let _ ← outerAttributes g
    if ← punct? ".." then return ()
    fieldPattern g
    if ← atEnd then return ()
    punct ","
    fieldPatterns fuel

/-- A pattern that starts with a path. -/
def pathPattern : Parser PatternForm := do
  let (start, p) ← qualifiedPath g true
  write (start.getD [] ++ p.tokens)
  if start.isNone && (← peekPunctNot "!" ["!="]) && p.isPlain then
    punct "!"
    let _ ← rawGroup
    return .other
  else if ← peek braces then
    group .brace do fieldPatterns g ((← get).rest.length + 1)
    return .other
  else if ← peek parens then
    let _ ← group .parenthesis (patterns g)
    return .other
  else if ← peekPunct ".." then rangeAfterBound g
  else return .other

/-- A name that is bound, maybe with a pattern for what it is bound to. -/
def binding : Parser PatternForm := do
  let _ ← word? "ref"
  let _ ← word? "mut"
  if ← peekWord "self" then word "self"
  else
    let _ ← name
  if ← punct? "@" then
    let _ ← g.pattern
  return .other

/-- Patterns in brackets. -/
def slicePattern : Parser PatternForm := do
  let _ ← group .bracket <| commaSeparated do
    match ← choiceWithBar g with
    | .openRange span => failAt span .openRangeInSlice
    | _ => return ()
  return .other

/-! ### All patterns -/

/-- What makes a name at the start of a pattern the start of a path. -/
def afterPathWord : List Peek :=
  [punctuation "::", punctuation "!", braces, parens, punctuation ".."]

/-- Whether a pattern here starts with a path. -/
def peekPathPattern : Parser Bool := do
  match (← get).rest with
  | _ :: rest =>
    if (← peek aName) && afterPathWord.any (·.holds rest) then return true
    else if (← peekWord "self") && (punctuation "::").holds rest then return true
    else
      peekAny [punctuation "::", punctuation "<", theWord "Self", theWord "super", theWord "crate"]
  | [] => return false

/-- **A pattern without alternatives.** -/
def pattern : Parser PatternForm := do
  if ← peekPathPattern then pathPattern g
  else if ← word? "_" then return .other
  else if ← peekWord "box" then
    verbatim do
      word "box"
      let _ ← g.pattern
    return .other
  else if ← peekAny [punctuation "-", aLiteral, theWord "const"] then literalPattern g
  else if ← peekAny [theWord "ref", theWord "mut", theWord "self", aName] then binding g
  else if ← punct? "&" then
    let _ ← word? "mut"
    let _ ← g.pattern
    return .other
  else if ← peek parens then
    let _ ← group .parenthesis (patterns g)
    return .other
  else if ← peek brackets then slicePattern g
  else if ← peekPunctNot ".." ["..."] then rangeToBound g
  else
    noneOf [aName, punctuation "::", punctuation "<", theWord "_", aLiteral, theWord "const",
      theWord "ref", theWord "mut", punctuation "&", parens, brackets, punctuation "..",
      theWord "const"]

end RecordStore.Source.Parser
