import NetFlow.Wire.Field

/-! Layouts: named lists of fields, each possibly extending another layout whose
fields come first. Length, field list and offsets are computed separately. -/
namespace NetFlow

/-- A layout's own fields, after those of the layout it extends. -/
inductive Layout where
  | root (name : String) (own : List Field)
  | extend (base : Layout) (name : String) (own : List Field)
  deriving DecidableEq, Repr

namespace Layout

def name : Layout → String
  | root name _ => name
  | extend _ name _ => name

def own : Layout → List Field
  | root _ own => own
  | extend _ _ own => own

def base? : Layout → Option Layout
  | root _ _ => none
  | extend base _ _ => some base

def bases : Layout → List Layout
  | root _ _ => []
  | extend base _ _ => base :: base.bases

def len : Layout → Nat
  | root _ own => own.foldl (fun n f => n + f.width) 0
  | extend base _ own => own.foldl (fun n f => n + f.width) base.len

def isEmpty (l : Layout) : Bool := l.len == 0

def fields : Layout → List Field
  | root _ own => own
  | extend base _ own => base.fields ++ own

/-- Each field with the position at which it starts, the first one at `start`. -/
def place (start : Nat) : List Field → List (Nat × Field)
  | [] => []
  | f :: fs => (start, f) :: place (start + f.width) fs

def offsets (l : Layout) : List (Nat × Field) := place 0 l.fields

def offsetOf? (l : Layout) (name : String) : Option Nat :=
  (l.offsets.find? fun p => p.2.name == name).map Prod.fst

end Layout
end NetFlow
