import SourceOutline.Json.Token

/-!
JSON texts. The tokens of a text are taken one by one; the containers that are open stand on a
stack, so that the nesting of a text costs no recursion.
-/

namespace SourceOutline.Json

/-- An open container with what it holds so far, the latest first. An object waits for the value
of `key`. -/
inductive Frame where
  | arr (done : List Json)
  | obj (done : List (Option String × Json)) (key : Option String)

inductive Expecting where
  | value (stack : List Frame)
  | item (stack : List Frame)
  | field (stack : List Frame)
  | key (stack : List Frame) (done : List (Option String × Json))
  | colon (stack : List Frame) (done : List (Option String × Json)) (key : Option String)
  | after (stack : List Frame) (value : Json)

/-- How deep containers may be nested for the innermost to be read. -/
def nestingLimit : Nat := 127

def closed (stack : List Frame) (value : Json) : Json :=
  if stack.length < nestingLimit then value else .unreadable

/-- An object of which some key is no text cannot be read. -/
def ofFields (fields : List (Option String × Json)) : Json :=
  match fields.mapM fun (k, v) => k.map fun k => (k, v) with
  | some fields => .obj fields
  | none => .unreadable

def Expecting.begin (stack : List Frame) : Token → Option Expecting
  | .openArr => some (.item stack)
  | .openObj => some (.field stack)
  | .text s => some (.after stack ((s.map Json.str).getD .unreadable))
  | .scalar v => some (.after stack v)
  | _ => none

def Expecting.step : Expecting → Token → Option Expecting
  | .value stack, t => begin stack t
  | .item stack, .closeArr => some (.after stack (closed stack (.arr [])))
  | .item stack, t => begin (.arr [] :: stack) t
  | .field stack, .closeObj => some (.after stack (closed stack (.obj [])))
  | .field stack, .text k => some (.colon stack [] k)
  | .key stack done, .text k => some (.colon stack done k)
  | .colon stack done k, .colon => some (.value (.obj done k :: stack))
  | .after (.arr done :: stack) v, .comma => some (.value (.arr (v :: done) :: stack))
  | .after (.arr done :: stack) v, .closeArr =>
    some (.after stack (closed stack (.arr (v :: done).reverse)))
  | .after (.obj done k :: stack) v, .comma => some (.key stack ((k, v) :: done))
  | .after (.obj done k :: stack) v, .closeObj =>
    some (.after stack (closed stack (ofFields ((k, v) :: done).reverse)))
  | _, _ => none

def ofTokens? (tokens : List Token) : Option Json :=
  match tokens.foldlM Expecting.step (.value []) with
  | some (.after [] v) => some v
  | _ => none

def parse? (text : String) : Option Json :=
  (Token.all? text.toList).bind ofTokens?

end SourceOutline.Json
