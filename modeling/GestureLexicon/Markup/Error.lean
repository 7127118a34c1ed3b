/-!
Why a document cannot be read.
-/

namespace GestureLexicon.Markup

inductive MarkupError where
  | malformed
  | unknownEncoding (name : String)
  /-- A way to write one text or byte sequence as another, which is no character set. -/
  | notACharset (name : String)
  /-- A character set of which one character may take several bytes. -/
  | wideEncoding
  /-- A way to write text that leaves some bytes without a meaning and will not pass over them. -/
  | refused (name reason : String)
  /-- Such a way that reads nothing but ASCII. -/
  | undecodable
  deriving DecidableEq, Repr

def MarkupError.message : MarkupError → String
  | malformed => "not well-formed"
  | unknownEncoding name => s!"unknown encoding: {name}"
  | notACharset name =>
    s!"'{name}' is not a text encoding; use codecs.decode() to handle arbitrary codecs"
  | wideEncoding => "multi-byte encodings are not supported"
  | refused name reason => s!"decoding with '{name}' codec failed (UnicodeError: {reason})"
  | undecodable =>
    "'ascii' codec can't decode byte 0x80 in position 82: ordinal not in range(128)"

end GestureLexicon.Markup
