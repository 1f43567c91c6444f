import SafetyConfig.Markup.DeclToken

/-!
# Element type declarations

Content models are checked for their form, and then forgotten.
-/

namespace SafetyConfig.Markup

/-- Names after `#PCDATA`, up to the parenthesis that has to have a star. -/
def readMixed (letters : Alphabet) : Nat → List Char → Except MarkupError (List Char)
  | 0, _ => .error .malformed
  | fuel + 1, cs => do
    let (token, rest) ← DeclToken.next letters cs
    if token.elementName?.isNone then throw .malformed
    match ← DeclToken.next letters rest with
    | (.bar, rest) => readMixed letters fuel rest
    | (.closeParen (some '*'), rest) => return rest
    | _ => throw .malformed

/-- What separates the items of a group, once the first separator has been seen. -/
inductive Separator where
  | sequence
  | choice
  deriving DecidableEq, Repr

/-- Whether a separator may follow in a group that has had the given one. -/
def Separator.allows (seen : Option Separator) (s : Separator) : Bool :=
  match seen with
  | none => true
  | some t => t = s

/-- Groups of names, the innermost open group first; `wantsItem` is set where an item or a
group has to follow. -/
def readGroups (letters : Alphabet) :
    Nat → Bool → List (Option Separator) → List Char → Except MarkupError (List Char)
  | 0, _, _, _ => .error .malformed
  | _ + 1, _, [], cs => .ok cs
  | fuel + 1, true, groups, cs => do
    let (token, rest) ← DeclToken.next letters cs
    match token with
    | .openParen => readGroups letters fuel true (none :: groups) rest
    | .name _ => readGroups letters fuel false groups rest
    | .qualified _ => readGroups letters fuel false groups rest
    | .repeated _ => readGroups letters fuel false groups rest
    | _ => throw .malformed
  | fuel + 1, false, seen :: outer, cs => do
    let (token, rest) ← DeclToken.next letters cs
    match token with
    | .closeParen _ => readGroups letters fuel false outer rest
    | .comma =>
      if !Separator.allows seen .sequence then throw .malformed
      readGroups letters fuel true (some .sequence :: outer) rest
    | .bar =>
      if !Separator.allows seen .choice then throw .malformed
      readGroups letters fuel true (some .choice :: outer) rest
    | _ => throw .malformed

/-- A content model after its opening parenthesis. -/
def readModel (letters : Alphabet) (fuel : Nat) (cs : List Char) :
    Except MarkupError (List Char) := do
  match ← DeclToken.next letters cs with
  | (.word word, rest) =>
    if word != "PCDATA".toList then throw .malformed
    match ← DeclToken.next letters rest with
    | (.closeParen none, rest) => return rest
    | (.closeParen (some '*'), rest) => return rest
    | (.bar, rest) => readMixed letters fuel rest
    | _ => throw .malformed
  | _ => readGroups letters fuel true [none] cs

def readElement (letters : Alphabet) (fuel : Nat) (cs : List Char) :
    Except MarkupError (List Char) := do
  let (token, rest) ← DeclToken.next letters cs
  if token.elementName?.isNone then throw .malformed
  match ← DeclToken.next letters rest with
  | (.name word, rest) =>
    if word != "EMPTY".toList && word != "ANY".toList then throw .malformed
    expect letters .close rest
  | (.openParen, rest) => expect letters .close (← readModel letters fuel rest)
  | _ => throw .malformed

end SafetyConfig.Markup
