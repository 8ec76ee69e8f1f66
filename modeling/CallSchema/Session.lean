import CallSchema.Consistency
import CallSchema.Document.Load

/-!
Work on a document in steps. An edit changes one entry. What an entry belongs to is made if it is
not there, except that a parameter is given to no function that does not exist; only what is there
can be removed. A document may be kept aside, to be compared with what later steps make of it. A
step that fails changes nothing.
-/
namespace CallSchema

/-! ### Edits -/

/-- A change of one entry. -/
inductive Edit where
  | defineModule (module : String)
  | defineStructure (name : Symbol)
  | defineWidth (width : AddressWidth)
  | setFunction (module function : String) (signature : Signature)
  | setParameter (module function name : String) (type : Symbol)
  | setField (structureName : Symbol) (name : String) (field : Field)
  | setAlias (width : AddressWidth) (name target : Symbol)
  | setBacking (name : Symbol) (size : Yaml.Value)
  | removeModule (module : String)
  | removeFunction (module function : String)
  | removeParameters (module function : String)
  | removeParameter (module function name : String)
  | removeStructure (name : Symbol)
  | removeField (structureName : Symbol) (name : String)
  | removeWidth (width : AddressWidth)
  | removeAlias (width : AddressWidth) (name : Symbol)
  | removeBacking (name : Symbol)

namespace Table
variable {κ β : Type} [Named κ]

/-- Changes the value of a name; a name without one starts from the value given. -/
def change (table : Table κ β) (name : κ) (fresh : β) (update : β → β) : Table κ β :=
  table.insert name (update ((table.find? name).getD fresh))

/-- Changes the value of a bound name, if that can be done. -/
def change? (table : Table κ β) (name : κ) (update : β → Option β) : Option (Table κ β) :=
  ((table.find? name).bind update).map (table.insert name)

/-- Forgets a bound name. -/
def erase? (table : Table κ β) (name : κ) : Option (Table κ β) :=
  if table.contains name then some (table.erase name) else none

end Table

/-- Removes a name that occurs. -/
def Listing.erase? {β : Type} (listing : Listing β) (name : String) : Option (Listing β) :=
  if listing.contains name then some (listing.erase name) else none

namespace Document

/-- Changes the signature of a function that exists, if that can be done. -/
def changeSignature? (document : Document) (module function : String)
    (update : Signature → Option Signature) : Option Document :=
  (document.modules.change? module fun functions => functions.change? function update).map
    fun modules => { document with modules }

/-- The document after an edit; none if the edit needs an entry that is not there. -/
def edit? (document : Document) : Edit → Option Document
  | .defineModule module =>
    some { document with modules := document.modules.change module .empty id }
  | .defineStructure name =>
    some { document with structures := document.structures.change name .empty id }
  | .defineWidth width =>
    some { document with highLevel := document.highLevel.change width .empty id }
  | .setFunction module function signature =>
    some { document with
      modules := document.modules.change module .empty (·.insert function signature) }
  | .setParameter module function name type =>
    document.changeSignature? module function fun signature =>
      some ⟨some ((signature.parameters.getD .empty).set name type)⟩
  | .setField structureName name field =>
    some { document with
      structures := document.structures.change structureName .empty (·.set name field) }
  | .setAlias width name target =>
    some { document with
      highLevel := document.highLevel.change width .empty (·.insert name target) }
  | .setBacking name size => some { document with backing := document.backing.insert name size }
  | .removeModule module =>
    (document.modules.erase? module).map fun modules => { document with modules }
  | .removeFunction module function =>
    (document.modules.change? module (·.erase? function)).map fun modules =>
      { document with modules }
  | .removeParameters module function =>
    document.changeSignature? module function fun signature =>
      signature.parameters.map fun _ => ⟨none⟩
  | .removeParameter module function name =>
    document.changeSignature? module function fun signature =>
      (signature.parameters.bind (·.erase? name)).map fun parameters => ⟨some parameters⟩
  | .removeStructure name =>
    (document.structures.erase? name).map fun structures => { document with structures }
  | .removeField structureName name =>
    (document.structures.change? structureName (·.erase? name)).map fun structures =>
      { document with structures }
  | .removeWidth width =>
    (document.highLevel.erase? width).map fun highLevel => { document with highLevel }
  | .removeAlias width name =>
    (document.highLevel.change? width (·.erase? name)).map fun highLevel =>
      { document with highLevel }
  | .removeBacking name =>
    (document.backing.erase? name).map fun backing => { document with backing }

end Document

/-! ### Sessions -/

/-- The document under work and the one kept aside. -/
structure Session where
  document : Document := .empty
  saved : Document := .empty

namespace Session

/-- Keeps the document aside. -/
def save (session : Session) : Session := { session with saved := session.document }

/-- Starts again from a document. -/
def replace (session : Session) (document : Document) : Session := { session with document }

/-- Edits the document. -/
def edit? (session : Session) (edit : Edit) : Option Session :=
  (session.document.edit? edit).map session.replace

/-- Starts again from a text. -/
def load (session : Session) (origin text : String) : Except LoadError Session :=
  (Document.parse origin text).map session.replace

/-- Whether the document defines the same as the one kept aside. -/
def sameDocument (session : Session) : Bool := session.document.same session.saved

/-- Whether the same is found in the document as in the one kept aside. -/
def sameReport (session : Session) : Bool :=
  decide (session.document.validate = session.saved.validate)

end Session

end CallSchema
