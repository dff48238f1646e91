import MessageCatalog.Entry.Basic

/-! Why a text is no catalog, or a list of entries none that may be written. -/

namespace MessageCatalog

/-- What is wrong with a line of a catalog. -/
inductive LineFault where
  | unexpected (line : String)
  | badPluralIndex
  | cannotBeIndexed (keyword : String)
  | badReference (text : String)
  | strayContinuation
  deriving DecidableEq, Repr, Inhabited

/-- A line fault as it is told. -/
def LineFault.message : LineFault → String
  | unexpected line => "unexpected '" ++ line ++ "'"
  | badPluralIndex => "bad plural index"
  | cannotBeIndexed keyword => keyword ++ " cannot be indexed"
  | badReference text => "bad reference '" ++ text ++ "'"
  | strayContinuation => "string continuation without keyword"

/-- Why there is no catalog. -/
inductive CatalogFault where
  /-- A line, counted from zero, that does not belong into a catalog. -/
  | line (number : Nat) (fault : LineFault)
  /-- A text that is no list of entries in JSON. -/
  | json
  /-- A text that is no list of entries in JSON5. -/
  | json5
  /-- An entry, named by its text, with a defect. -/
  | entry (text : String) (defect : EntryDefect)
  deriving DecidableEq, Repr, Inhabited

/-- A catalog fault as it is told; lines are counted from one. -/
def CatalogFault.message : CatalogFault → String
  | line number fault => s!"malformed catalog: line {number + 1}: " ++ fault.message
  | json => "malformed catalog: invalid JSON catalog"
  | json5 => "malformed catalog: invalid JSON5 catalog"
  | entry text defect => "invalid entry " ++ quoted text ++ ": " ++ defect.message

/-- An entry passes when nothing is wrong with it. -/
def Entry.validate (entry : Entry) : Except CatalogFault Unit :=
  match entry.defect? with
  | some defect => .error (.entry entry.message.text defect)
  | none => .ok ()

/-- The first entry that does not pass stops a list. -/
def validateAll : List Entry → Except CatalogFault Unit
  | [] => .ok ()
  | entry :: entries => do
    entry.validate
    validateAll entries

end MessageCatalog
