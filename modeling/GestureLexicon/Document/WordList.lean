import GestureLexicon.Document.Layout
import GestureLexicon.Text.Lines

/-!
Word lists, as plain text with a word on each line or as documents with an element for each word.
-/

namespace GestureLexicon.Document
open Markup

def isText (path : String) : Bool :=
  (Text.FilePath.extension (Text.FilePath.fileName path)).toList.map Char.toLower
    == ['.', 't', 'x', 't']

/-- The words of plain text, one on a line. Blanks around a word do not count, nor do blank
lines. -/
def wordsOfText (s : String) : List String :=
  ((Text.lines s).map Text.strip).filter (· != "")

/-- The words of a document, in order; an element without text is an empty word. -/
def wordsOfRoot (e : Element) : List String :=
  (e.named "w").map Element.text

def plainText (store : FileStore) (path : String) : Except LoadCause String := do
  (Text.Utf8.decode (← contents store path)).mapError .undecodable

def loadWords (store : FileStore) (path : String) : Except LoadError (List String) :=
  (if isText path then (plainText store path).map wordsOfText
    else (root store path).map wordsOfRoot).mapError fun cause =>
      ⟨.wordList, Text.FilePath.normalize path, cause⟩

end GestureLexicon.Document
