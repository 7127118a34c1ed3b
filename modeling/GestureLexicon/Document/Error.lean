import GestureLexicon.Markup.Error
import GestureLexicon.Text.Utf8

/-!
Why a document cannot be loaded, and how that is said.
-/

namespace GestureLexicon

inductive DocumentKind where
  | layout
  | wordList
  deriving DecidableEq, Repr

def DocumentKind.title : DocumentKind → String
  | layout => "keyboard layout"
  | wordList => "word list"

/-- A number that an element lacks, or gives as a text that is none. -/
inductive NumberFault where
  | missing (tag name : String)
  | notWhole (tag name value : String)
  deriving DecidableEq, Repr

def NumberFault.message : NumberFault → String
  | missing tag name => s!"<{tag}> is missing attribute '{name}'"
  | notWhole tag name value =>
    s!"<{tag}> attribute '{name}' is not an integer: {Text.quoted value}"

inductive LoadCause where
  | notFound
  | isDirectory (path : String)
  | nameTooLong
  | markup (e : Markup.MarkupError)
  | undecodable (e : Text.DecodingError)
  | number (e : NumberFault)
  deriving DecidableEq, Repr

def LoadCause.reason : LoadCause → String
  | notFound => "file not found"
  | isDirectory path => s!"[Errno 21] Is a directory: {Text.quoted path}"
  | nameTooLong => "file name too long"
  | markup e => e.message
  | undecodable e => e.message
  | number e => e.message

structure LoadError where
  kind : DocumentKind
  path : String
  cause : LoadCause
  deriving DecidableEq, Repr

/-- Whether an error is one that readers of documents speak of. Any other stops the program before
it can say a word. -/
def LoadError.isTold (e : LoadError) : Bool :=
  match e.kind, e.cause with
  | _, .nameTooLong | _, .markup (.unknownEncoding _) | _, .markup (.notACharset _)
  | .wordList, .markup .wideEncoding | .wordList, .markup (.refused ..) => false
  | _, _ => true

def LoadError.message (e : LoadError) : String :=
  s!"Failed to load {e.kind.title} '{e.path}': {e.cause.reason}"

end GestureLexicon
