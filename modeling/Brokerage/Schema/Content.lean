import Brokerage.Json.Parser
import Brokerage.Schema.Violation
import Brokerage.Text.Encoding
import Brokerage.Text.Octets

/-!
Texts that hold other texts. A schema may say in which encoding a text holds another, and of which
media type that other is; an encoding or a media type that is not known here says nothing.
-/

set_option autoImplicit false

namespace Brokerage.Schema.Content

open Text (Encoding)

def isKnownMediaType (mediaType : String) : Bool :=
  mediaType == "application/json"

/-- Whether a text is of a media type that is known. -/
def isOfMediaType (text : String) : Bool :=
  match Json.parse text with
  | .ok _ => true
  | .error _ => false

/-- What is wrong with a text that should be encoded. -/
def encodingViolations (text name : String) : List Violation :=
  match Encoding.named.lookup name with
  | none => []
  | some encoding =>
    if (encoding.decode? text.toList).isSome then [] else [.notEncoded (.string text) name]

/-- What is wrong with a text of a media type, given as it is or in an encoding. -/
def mediaTypeViolations (text mediaType : String) (encoding? : Option String) : List Violation :=
  let blame (held : String) : List Violation :=
    if isOfMediaType held then [] else [.notOfMediaType (.string text) mediaType]
  if !isKnownMediaType mediaType then []
  else
    match encoding? with
    | none => blame text
    | some name =>
      match Encoding.named.lookup name with
      | none => []
      | some encoding =>
        match encoding.decode? text.toList with
        | none => [.notEncoded (.string text) name]
        | some bytes =>
          match Text.ofOctets bytes with
          | .ok held => blame held
          | .error fault => [.noText fault.message]

end Brokerage.Schema.Content
