import GestureLexicon.Markup.Encoding

/-!
Markup as tokens: tags, runs of text, literal sections, and what a reader passes over. References to
characters are resolved here; names keep their qualifiers, whose meaning the elements around them
decide. Whether `signs` count as letters is up to the encoding.
-/

namespace GestureLexicon.Markup

structure Name where
  qualifier : Option String
  base : String
  deriving DecidableEq, Repr

inductive Token where
  | startTag (name : Name) (attributes : List (Name × String)) (closed : Bool)
  | endTag (name : Name)
  /-- Text as it is written, with its references unresolved. -/
  | text (raw : List Char)
  /-- A section in which nothing is markup. -/
  | literal (cs : List Char)
  | doctype
  /-- A comment or an instruction to some program. -/
  | aside
  deriving DecidableEq, Repr

namespace Token

def simpleName (signs : Bool) (cs : List Char) : Except MarkupError (String × List Char) :=
  match cs with
  | c :: rest =>
    if isNameStart signs c then
      .ok (.ofList (c :: rest.takeWhile (isNameChar signs)), rest.dropWhile (isNameChar signs))
    else .error .malformed
  | [] => .error .malformed

def name (signs : Bool) (cs : List Char) : Except MarkupError (Name × List Char) := do
  let (first, rest) ← simpleName signs cs
  match rest with
  | ':' :: more =>
    let (second, rest) ← simpleName signs more
    return (⟨some first, second⟩, rest)
  | _ => return (⟨none, first⟩, rest)

def codeOf? (base : Nat) (cs : List Char) : Option Nat := do
  let digit? (c : Char) : Option Nat :=
    if c.isDigit then some (c.toNat - '0'.toNat)
    else if 'a' ≤ c && c ≤ 'f' then some (c.toNat - 'a'.toNat + 10)
    else if 'A' ≤ c && c ≤ 'F' then some (c.toNat - 'A'.toNat + 10)
    else none
  if cs.isEmpty then none
  let digits ← cs.mapM fun c => (digit? c).filter (· < base)
  return digits.foldl (fun n d => base * n + d) 0

def referenced? (inside : List Char) : Option Char :=
  match inside with
  | '#' :: digits =>
    let code := match digits with
      | 'x' :: hexadecimal => codeOf? 16 hexadecimal
      | decimal => codeOf? 10 decimal
    code.bind fun n =>
      if n.isValidChar && isDocumentChar (Char.ofNat n) then some (Char.ofNat n) else none
  | _ => match String.ofList inside with
    | "amp" => some '&'
    | "lt" => some '<'
    | "gt" => some '>'
    | "quot" => some '"'
    | "apos" => some '\''
    | _ => none

/-- Resolves references: `pending` holds what was read since an ampersand, last first. -/
def resolve (pending : Option (List Char)) : List Char → Except MarkupError (List Char)
  | [] => if pending.isNone then .ok [] else .error .malformed
  | c :: rest =>
    match pending with
    | none =>
      if c == '&' then resolve (some []) rest
      else (resolve none rest).map (c :: ·)
    | some inside =>
      if c == ';' then
        match referenced? inside.reverse with
        | some meant => (resolve none rest).map (meant :: ·)
        | none => .error .malformed
      else resolve (some (c :: inside)) rest

def resolved (raw : List Char) : Except MarkupError (List Char) :=
  resolve none raw

/-- The value of an attribute: white space as spaces, then references resolved. -/
def attributeValue (raw : List Char) : Except MarkupError String := do
  if raw.contains '<' then throw .malformed
  let cs ← resolved (raw.map fun c => if isSpace c then ' ' else c)
  return .ofList cs

def oneAttribute (signs : Bool) (cs : List Char) :
    Except MarkupError ((Name × String) × List Char) := do
  let (name, rest) ← Token.name signs cs
  let '=' :: rest := rest.dropWhile isSpace | throw .malformed
  let quote :: rest := rest.dropWhile isSpace | throw .malformed
  if quote != '"' && quote != '\'' then throw .malformed
  let raw := rest.takeWhile (· != quote)
  let _ :: rest := rest.drop raw.length | throw .malformed
  return ((name, ← attributeValue raw), rest)

/-- The attributes inside a start tag, each with white space before it, and whether a slash closes
the tag at once. -/
def attributeList (signs : Bool) (fuel : Nat) (cs : List Char) :
    Except MarkupError (List (Name × String) × Bool) :=
  match fuel with
  | 0 => .error .malformed
  | fuel + 1 =>
    match cs.dropWhile isSpace with
    | [] => .ok ([], false)
    | ['/'] => .ok ([], true)
    | inner => do
      if !isSpace (cs.headD 'x') then throw .malformed
      let (first, rest) ← oneAttribute signs inner
      let (others, closed) ← attributeList signs fuel rest
      return (first :: others, closed)

/-- The inside of a tag, up to the first closing angle that stands outside quotes, and what follows.
`quote` is the quote that the characters are inside of. -/
def splitTag (quote : Option Char) : List Char → Option (List Char × List Char)
  | [] => none
  | c :: rest =>
    if c == '>' && quote.isNone then some ([], rest)
    else
      let next := match quote with
        | none => if c == '"' || c == '\'' then some c else none
        | some opening => if c == opening then none else quote
      (splitTag next rest).map fun (inside, after) => (c :: inside, after)

/-- A start tag. Every attribute takes a character at least, so as many steps as there are
characters reach the end of the tag. -/
def startTagFrom (signs : Bool) (cs : List Char) : Except MarkupError (Token × List Char) := do
  let some (inside, after) := splitTag none cs | throw .malformed
  let (name, rest) ← Token.name signs inside
  let (found, closed) ← attributeList signs (rest.length + 1) rest
  return (.startTag name found closed, after)

def endTagFrom (signs : Bool) (cs : List Char) : Except MarkupError (Token × List Char) := do
  let (name, rest) ← Token.name signs cs
  let '>' :: rest := rest.dropWhile isSpace | throw .malformed
  return (.endTag name, rest)

def commentFrom (cs : List Char) : Except MarkupError (Token × List Char) := do
  let some (_, '>' :: rest) := Declaration.splitAtMark ['-', '-'] cs | throw .malformed
  return (.aside, rest)

def instructionFrom (signs : Bool) (cs : List Char) : Except MarkupError (Token × List Char) := do
  let (target, rest) ← simpleName signs cs
  if target.toList.map Char.toLower == ['x', 'm', 'l'] then throw .malformed
  let some (inside, after) := Declaration.splitAtMark ['?', '>'] rest | throw .malformed
  if inside.isEmpty || isSpace (inside.headD 'x') then return (.aside, after) else throw .malformed

def literalFrom (cs : List Char) : Except MarkupError (Token × List Char) := do
  let some (inside, rest) := Declaration.splitAtMark [']', ']', '>'] cs | throw .malformed
  return (.literal inside, rest)

/-- What follows the name of a document's type. After a colon the name may go on with any of its
characters, also with one that no name starts with. -/
def afterTypeName (signs : Bool) (cs : List Char) : Except MarkupError (List Char) := do
  let (_, rest) ← simpleName signs cs
  match rest with
  | ':' :: more =>
    if isNameChar signs (more.headD ' ') then return more.dropWhile (isNameChar signs)
    else throw .malformed
  | _ => return rest

def doctypeFrom (signs : Bool) (cs : List Char) : Except MarkupError (Token × List Char) := do
  if !isSpace (cs.headD 'x') then throw .malformed
  let rest ← afterTypeName signs (cs.dropWhile isSpace)
  let '>' :: rest := rest.dropWhile isSpace | throw .malformed
  return (.doctype, rest)

/-- Text up to the next tag. The mark that ends a literal section may not occur in it. -/
def textFrom (cs : List Char) : Except MarkupError (Token × List Char) :=
  let raw := cs.takeWhile (· != '<')
  match Declaration.splitAtMark [']', ']', '>'] raw with
  | some _ => .error .malformed
  | none => .ok (.text raw, cs.drop raw.length)

def next (signs : Bool) (cs : List Char) : Except MarkupError (Token × List Char) :=
  match cs with
  | '<' :: '!' :: '-' :: '-' :: rest => commentFrom rest
  | '<' :: '!' :: '[' :: 'C' :: 'D' :: 'A' :: 'T' :: 'A' :: '[' :: rest => literalFrom rest
  | '<' :: '!' :: 'D' :: 'O' :: 'C' :: 'T' :: 'Y' :: 'P' :: 'E' :: rest => doctypeFrom signs rest
  | '<' :: '?' :: rest => instructionFrom signs rest
  | '<' :: '/' :: rest => endTagFrom signs rest
  | '<' :: rest => startTagFrom signs rest
  | _ => textFrom cs

def allWithin (signs : Bool) (fuel : Nat) (cs : List Char) : Except MarkupError (List Token) :=
  match fuel, cs with
  | _, [] => .ok []
  | 0, _ => .error .malformed
  | fuel + 1, cs => do
    let (token, rest) ← next signs cs
    return token :: (← allWithin signs fuel rest)

/-- The tokens of a document. Every token takes a character at least, so as many steps as there are
characters reach the end. -/
def all (signs : Bool) (cs : List Char) : Except MarkupError (List Token) :=
  allWithin signs cs.length cs

end Token

end GestureLexicon.Markup
