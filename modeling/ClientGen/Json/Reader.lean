import ClientGen.Json.Token

/-!
# Reading a JSON text

The tree of a text is built from its tokens with the containers that are open kept in a list, the
innermost first. When the text stops making sense, the fault goes to the place that was being read
and the open containers are closed around it. Tokens after a whole document are trouble of their
own.
-/

namespace ClientGen.Json

/-- A container that is open: the items or members read so far, last first, and the key of the
member being read. -/
inductive Frame
  | array (items : List Json)
  | object (members : List (Except Break String × Json)) (key : Except Break String)

/-- The container with one more value in it, closed. -/
def Frame.close (broken : Option Fault) (value : Json) : Frame → Json
  | .array items => .array (value :: items).reverse broken
  | .object members key => .object ((key, value) :: members).reverse broken

/-- A value with the containers that are open around it. -/
def enclose (frames : List Frame) (value : Json) : Json :=
  frames.foldl (fun inner frame => frame.close none inner) value

/-- A document as read from a text: its tree, and the trouble after its end. -/
structure Document where
  root : Json
  trailing : Option Break

/-- The document that stops at a fault. -/
def stopAt (frames : List Frame) (trouble : Fault) : Document :=
  ⟨enclose frames (.fault trouble), none⟩

mutual

/-- Reads a value inside the open containers, and all that follows it. -/
def buildValue (frames : List Frame) : List Token → Document
  | [] => stopAt frames .truncated
  | .scalar value :: rest => buildRest frames value rest
  | .text value :: rest => buildRest frames (.text value) rest
  | .openArray :: .closeArray :: rest => buildRest frames (.array [] none) rest
  | .openArray :: [] => ⟨enclose frames (.array [] (some .truncated)), none⟩
  | .openArray :: rest => buildValue (.array [] :: frames) rest
  | .openObject :: .closeObject :: rest => buildRest frames (.object [] none) rest
  | .openObject :: rest => buildMember frames [] rest
  | .broken trouble :: _ | .brokenText trouble :: _ => stopAt frames trouble
  | _ :: _ => stopAt frames .malformed

/-- Reads what follows a whole value inside the open containers. -/
def buildRest (frames : List Frame) (value : Json) (after : List Token) : Document :=
  match frames, after with
  | [], [] => ⟨value, none⟩
  | [], _ :: _ => ⟨value, some .malformed⟩
  | frame :: outer, [] => ⟨enclose outer (frame.close (some .truncated) value), none⟩
  | .array items :: outer, .comma :: rest => buildValue (.array (value :: items) :: outer) rest
  | .array items :: outer, .closeArray :: rest =>
    buildRest outer (.array (value :: items).reverse none) rest
  | .object members key :: outer, .comma :: rest =>
    buildMember outer ((key, value) :: members) rest
  | .object members key :: outer, .closeObject :: rest =>
    buildRest outer (.object ((key, value) :: members).reverse none) rest
  | frame :: outer, _ :: _ => ⟨enclose outer (frame.close (some .malformed) value), none⟩

/-- Reads a member of the innermost open object, whose members so far are given last first. -/
def buildMember (frames : List Frame) (members : List (Except Break String × Json)) :
    List Token → Document
  | .text key :: .colon :: rest => buildValue (.object members key :: frames) rest
  | .text key :: [] => stopAt (.object members key :: frames) .truncated
  | .text key :: _ => stopAt (.object members key :: frames) .malformed
  | [] => ⟨enclose frames (.object members.reverse (some .truncated)), none⟩
  | .brokenText trouble :: _ => ⟨enclose frames (.object members.reverse (some trouble)), none⟩
  | _ :: _ => ⟨enclose frames (.object members.reverse (some .malformed)), none⟩

end

/-- The document in a text. -/
def Document.ofText (s : String) : Document :=
  buildValue [] (tokens s.toList)

end ClientGen.Json
