import GestureLexicon.Markup.Characters
import GestureLexicon.Markup.Charset.Name
import GestureLexicon.Text.Lines

/-!
From bytes to the characters of a document. The first bytes show a character set, in which the
declaration at the start may name another, and every line end becomes a line feed.
-/

namespace GestureLexicon.Markup

structure Encoding where
  charset : Charset
  /-- Whether ª, µ and º are letters that a name can start with. -/
  signs : Bool
  deriving DecidableEq, Repr

namespace Encoding

def ofCharset (shown : Charset) : Encoding :=
  ⟨shown, shown != .utf8⟩

/-- The encoding of a name in a declaration that was read in a character set. Of the names that have
a meaning of their own, only those of the same width are for such a document. -/
def ofName (shown : Charset) (name : List Char) : Except MarkupError Encoding :=
  match String.ofList (name.map Char.toUpper), shown with
  | "UTF-8", .utf8 => .ok ⟨.utf8, false⟩
  | "US-ASCII", .utf8 => .ok ⟨.page .ascii, false⟩
  | "ISO-8859-1", .utf8 => .ok ⟨.page .latin1, true⟩
  | "UTF-16", .utf16 order => .ok ⟨.utf16 order, true⟩
  | "UTF-16BE", .utf16 .big => .ok ⟨.utf16 .big, true⟩
  | "UTF-16LE", .utf16 .little => .ok ⟨.utf16 .little, true⟩
  | "UTF-8", _ | "US-ASCII", _ | "ISO-8859-1", _ | "UTF-16", _ | "UTF-16BE", _ | "UTF-16LE", _ =>
    .error .malformed
  | _, _ => (Charset.ofName name).map fun charset => ⟨charset, false⟩

end Encoding

namespace Declaration

def isValueChar (c : Char) : Bool :=
  c.isAlphanum || c == '.' || c == '_' || c == '-'

/-- A name and a quoted value with white space before them, and what follows. Nothing but white
space gives no pair. -/
def pair (cs : List Char) : Except MarkupError (Option (List Char × List Char) × List Char) := do
  let inner := cs.dropWhile isSpace
  if inner.isEmpty then return (none, [])
  if inner.length == cs.length then throw .malformed
  let name := inner.takeWhile fun c => c != '=' && !isSpace c
  if name.isEmpty then throw .malformed
  let '=' :: afterSign := (inner.drop name.length).dropWhile isSpace | throw .malformed
  let quote :: afterQuote := afterSign.dropWhile isSpace | throw .malformed
  if quote != '"' && quote != '\'' then throw .malformed
  let value := afterQuote.takeWhile (· != quote)
  let _ :: rest := afterQuote.drop value.length | throw .malformed
  if value.all isValueChar then return (some (name, value), rest) else throw .malformed

def endsWell (found : Option (List Char × List Char)) (rest : List Char) :
    Except MarkupError Unit :=
  match found with
  | none => .ok ()
  | some (name, value) =>
    if String.ofList name == "standalone" && (value == ['y', 'e', 's'] || value == ['n', 'o'])
        && rest.all isSpace then .ok ()
    else .error .malformed

/-- The encoding by the inside of a declaration: the version comes first, then perhaps the encoding,
then perhaps whether the document stands alone. -/
def encoding (shown : Charset) (cs : List Char) : Except MarkupError Encoding := do
  let (some (first, _), rest) ← pair cs | throw .malformed
  if String.ofList first != "version" then throw .malformed
  let (second, rest) ← pair rest
  match second with
  | some (name, value) =>
    if String.ofList name == "encoding" then
      if !(value.headD ' ').isAlpha then throw .malformed
      let (third, rest) ← pair rest
      endsWell third rest
      Encoding.ofName shown value
    else
      endsWell second rest
      return .ofCharset shown
  | none => return .ofCharset shown

def splitAtMark (mark : List Char) : List Char → Option (List Char × List Char)
  | [] => if mark.isEmpty then some ([], []) else none
  | c :: rest =>
    if mark.isPrefixOf (c :: rest) then some ([], (c :: rest).drop mark.length)
    else (splitAtMark mark rest).map fun (before, after) => (c :: before, after)

def opening : List Char := ['<', '?', 'x', 'm', 'l']

def read (shown : Charset) (bytes : List UInt8) : Except MarkupError (Encoding × List UInt8) := do
  let plain := shown.plain bytes
  let rest := plain.drop opening.length
  let next := rest.headD 'x'
  if opening.isPrefixOf plain && (isSpace next || next == '?') then
    let some (inside, _) := splitAtMark ['?', '>'] rest | throw .malformed
    let named ← encoding shown inside
    return (named, bytes.drop (shown.width * (opening.length + inside.length + 2)))
  else return (.ofCharset shown, bytes)

end Declaration

def decode (bytes : List UInt8) : Except MarkupError (Encoding × List Char) := do
  let (shown, body) := Charset.detect bytes
  let (named, body) ← Declaration.read shown body
  let some cs := named.charset.decode? body | throw .malformed
  if cs.all isDocumentChar then return (named, Text.plainLineEnds cs) else throw .malformed

end GestureLexicon.Markup
