import NetFlow.Document.Basic

/-! Trees from tokens, one token at a time, with a stack of the arrays and objects
that are still open. The first token that does not fit ends the tree. -/
namespace NetFlow

/-- A lexical unit. A leaf may serve as a value, as a key, as both or as neither. -/
inductive Token where
  | openArray
  | closeArray
  | openObject
  | closeObject
  | comma
  | colon
  | leaf (value? : Option Document) (key? : Option (Except Problem String))
  | bad

namespace Assembly

/-- An open array or object: what it holds so far, last first, and for an object the
label whose value is being read. -/
inductive Frame where
  | array (done : List Document)
  | object (done : List (Label × Document)) (label : Label)

inductive Place where
  | value (mayClose : Bool)
  | label (done : List (Label × Document)) (mayClose : Bool)
  | colon (done : List (Label × Document)) (label : Label)
  | after (d : Document)

def Frame.wrap (d : Document) : Frame → Document
  | .array done => .array (d :: done).reverse
  | .object done label => .object ((label, d) :: done).reverse

def plug (d : Document) (fs : List Frame) : Document := fs.foldl Frame.wrap d

def abandon (fs : List Frame) : Place → Document
  | .value _ => plug .broken fs
  | .label done _ => plug (.object ((.stray, .broken) :: done).reverse) fs
  | .colon done label => plug (.object ((label, .broken) :: done).reverse) fs
  | .after d =>
    match fs with
    | [] => d
    | .array done :: fs => plug (.array (.broken :: d :: done).reverse) fs
    | .object done label :: fs =>
      plug (.object ((.stray, .broken) :: (label, d) :: done).reverse) fs

inductive Outcome where
  | go (fs : List Frame) (p : Place)
  | stop (r : Reading)

/-- One token. After a comma an array or object may close only if `loose`. -/
def step (loose : Bool) (t : Token) (fs : List Frame) (p : Place) : Outcome :=
  match p with
  | .value mayClose =>
    match t, mayClose, fs with
    | .leaf (some d) _, _, fs => .go fs (.after d)
    | .openArray, _, fs => .go (.array [] :: fs) (.value true)
    | .openObject, _, fs => .go fs (.label [] true)
    | .closeArray, true, .array done :: fs => .go fs (.after (.array done.reverse))
    | _, _, fs => .stop ⟨abandon fs p, false⟩
  | .label done mayClose =>
    match t, mayClose with
    | .leaf _ (some k), _ => .go fs (.colon done (.key k))
    | .closeObject, true => .go fs (.after (.object done.reverse))
    | _, _ => .stop ⟨abandon fs p, false⟩
  | .colon done label =>
    match t with
    | .colon => .go (.object done label :: fs) (.value false)
    | _ => .stop ⟨abandon fs p, false⟩
  | .after d =>
    match t, fs with
    | _, [] => .stop ⟨d, true⟩
    | .comma, .array done :: fs => .go (.array (d :: done) :: fs) (.value loose)
    | .closeArray, .array done :: fs => .go fs (.after (.array (d :: done).reverse))
    | .comma, .object done label :: fs => .go fs (.label ((label, d) :: done) loose)
    | .closeObject, .object done label :: fs =>
      .go fs (.after (.object ((label, d) :: done).reverse))
    | _, fs => .stop ⟨abandon fs p, false⟩

def run (loose : Bool) : List Token → List Frame → Place → Reading
  | [], fs, p => ⟨abandon fs p, false⟩
  | t :: ts, fs, p =>
    match step loose t fs p with
    | .go fs p => run loose ts fs p
    | .stop r => r

end Assembly

def Reading.ofTokens (loose : Bool) (ts : List Token) : Reading :=
  Assembly.run loose ts [] (.value false)

end NetFlow
