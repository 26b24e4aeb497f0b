/-! The three export formats with fixed records, told apart by a number. -/
namespace NetFlow

inductive Version where
  | v1
  | v5
  | v7
  deriving DecidableEq, Repr

namespace Version

def all : List Version := [.v1, .v5, .v7]

/-- The tag that headers of this version carry. -/
def number : Version → UInt16
  | .v1 => 1
  | .v5 => 5
  | .v7 => 7

def ofNumber? (n : UInt16) : Option Version := all.find? fun v => v.number == n

def maxRecords : Version → UInt16
  | .v1 => 24
  | .v5 => 30
  | .v7 => 27

def text (v : Version) : String := s!"v{v.number}"

def inspect (v : Version) : String := s!"V{v.number}"

instance : ToString Version := ⟨text⟩

instance : Ord Version := ⟨fun v w => compare v.number w.number⟩

theorem ofNumber?_number (v : Version) : ofNumber? v.number = some v := by
  cases v <;> rfl

end Version
end NetFlow
