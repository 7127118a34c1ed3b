import GestureLexicon.Text.Halves
import GestureLexicon.Text.Quoted

/-!
Which texts have an encoding: those without halves of surrogate pairs. In the name of a file some
halves stand for bytes.
-/

namespace GestureLexicon.Text

/-- The first run of halves in a text that has no encoding. -/
structure EncodingError where
  unit : Nat
  position : Nat
  count : Nat
  deriving DecidableEq, Repr

def EncodingError.message (e : EncodingError) : String :=
  let place :=
    if e.count = 1 then
      s!"character '\\u{String.ofList (hexDigits 4 e.unit)}' in position {e.position}"
    else s!"characters in position {e.position}-{e.position + e.count - 1}"
  s!"'utf-8' codec can't encode {place}: surrogates not allowed"

def errorFrom? [Halves] (passes : Nat → Bool) (position : Nat) : List Char → Option EncodingError
  | [] => none
  | c :: rest =>
    match Halves.unit? c with
    | some unit =>
      if passes unit then errorFrom? passes (position + 1) rest
      else
        let more := rest.takeWhile fun c => (Halves.unit? c).isSome
        some ⟨unit, position, 1 + more.length⟩
    | none => errorFrom? passes (position + 1) rest

def encodingError? [Halves] (s : String) : Option EncodingError :=
  errorFrom? (fun _ => false) 0 s.toList

def nameError? [Halves] (s : String) : Option EncodingError :=
  errorFrom? Halves.isNameByte 0 s.toList

end GestureLexicon.Text
