/-!
The letters a word is spelled with on the keyboard.
-/

namespace GestureLexicon.Word

/-- The 52 letters that count; every other character of a word is passed over. -/
def isLetter (c : Char) : Bool :=
  ('a' ≤ c && c ≤ 'z') || ('A' ≤ c && c ≤ 'Z')

/-- The letters of a word in lower case. Accented letters are dropped, not taken apart. -/
def letters (word : String) : List Char :=
  (word.toList.filter isLetter).map Char.toLower

def normalize (word : String) : String :=
  .ofList (letters word)

end GestureLexicon.Word
