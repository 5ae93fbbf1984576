import SourceSig.Modifiers
import SourceSig.Parameter

/-!
# Class-likes

Interfaces, classes and traits with their members. Members may be added in any order: the text
sorts the lines of each group by their bytes, so it does not depend on the layout of the source.

Text is compared by code points, which for UTF-8 is the order of the bytes.
-/

namespace SourceSig

/-- The indentation of members and header lines. -/
def indent : String := "    "

/-! ## Members -/

/-- A constant of a class-like, with the text of its value. -/
structure Constant where
  name : String
  value : String
deriving DecidableEq

/-- A property of a class-like, with the text of its default, if it has one. -/
structure Property where
  modifiers : Modifiers
  name : String
  default : Option String
deriving DecidableEq

/-- A method of a class-like, with the digest of its body, if it has one. -/
structure Method where
  modifiers : Modifiers
  name : String
  params : List Parameter
  body : Option Digest
deriving DecidableEq

/-- A body, of which only the digest is shown. -/
def bodyText (body : Digest) : String :=
  "\x7b /* " ++ body.hex ++ " */ \x7d"

/-- The line of a constant. -/
def Constant.text (c : Constant) : String :=
  indent ++ "const " ++ c.name ++ " = " ++ c.value

/-- The line of a property. -/
def Property.text (p : Property) : String :=
  indent ++ p.modifiers.propertyPhrase ++ " $" ++ p.name ++
  (match p.default with
    | some default => " = " ++ default
    | none => "")

/-- The lines of a method: its head, and the digest of its body below it. -/
def Method.text (m : Method) : String :=
  indent ++ m.modifiers.methodPhrase ++ " function " ++ m.name ++
  "(" ++ Parameter.listText m.params ++ ")" ++
  (match m.body with
    | some body => "\n" ++ indent ++ bodyText body
    | none => "")

/-- A member of a class-like. -/
inductive Member where
  | constant (c : Constant)
  | property (p : Property)
  | method (m : Method)
deriving DecidableEq

/-- The lines of a member, without the mark that ends them. -/
def Member.text : Member → String
  | .constant c => c.text
  | .property p => p.text
  | .method m => m.text

/-! ## Class-likes -/

/-- What a class-like is declared as. -/
inductive Flavour where
  | interface
  | concreteClass
  | abstractClass
  | traitDecl
deriving DecidableEq, Repr

namespace Flavour

/-- The words that a class-like of the flavour is introduced by. -/
def keyword : Flavour → String
  | .interface => "interface"
  | .concreteClass => "class"
  | .abstractClass => "abstract class"
  | .traitDecl => "trait"

/-- Whether a class-like of the flavour is a class, abstract or not. -/
def isClass : Flavour → Bool
  | .concreteClass | .abstractClass => true
  | _ => false

end Flavour

/-- An interface, a class or a trait, with its members by their sort and in the order in which they
were declared. -/
structure ClassLike where
  flavour : Flavour
  name : String
  /-- The classes or interfaces that it extends. -/
  parents : List String
  /-- The interfaces that it implements. -/
  interfaces : List String
  constants : List Constant
  properties : List Property
  methods : List Method
deriving DecidableEq

namespace ClassLike

/-- A class-like without members. A trait extends nothing, and only classes implement. -/
def empty (flavour : Flavour) (name : String) (parents interfaces : List String) : ClassLike where
  flavour := flavour
  name := name
  parents := if flavour = .traitDecl then [] else parents
  interfaces := if flavour.isClass then interfaces else []
  constants := []
  properties := []
  methods := []

/-- The class-like with one more constant. -/
def addConstant (c : ClassLike) (name value : String) : ClassLike :=
  { c with constants := c.constants ++ [⟨name, value⟩] }

/-- Adds a property. An empty default is none. -/
def addProperty (c : ClassLike) (modifiers : Modifiers) (name : String) (default : Option String) :
    ClassLike :=
  { c with properties := c.properties ++ [⟨modifiers, name, default.bind nonEmpty⟩] }

/-- Adds a method. Interfaces and abstract methods have no bodies. -/
def addMethod (c : ClassLike) (modifiers : Modifiers) (name : String) (params : List Parameter)
    (body : Option Digest) : ClassLike :=
  let keepsBody := c.flavour ≠ .interface ∧ modifiers.isAbstract = false
  { c with methods := c.methods ++ [⟨modifiers, name, params, if keepsBody then body else none⟩] }

/-- The members: constants, properties, methods, each in the order they were added. -/
def members (c : ClassLike) : List Member :=
  c.constants.map .constant ++ c.properties.map .property ++ c.methods.map .method

/-- Lines in the order of their bytes. -/
def sortLines (lines : List String) : List String :=
  lines.mergeSort fun a b => decide (a ≤ b)

/-- A line of a header that lists names, or nothing if there are none. -/
def headerLine (word : String) (names : List String) : String :=
  if names.isEmpty then "" else "\n" ++ indent ++ word ++ " " ++ ", ".intercalate names

/-- The first lines of a class-like, up to its opening brace. -/
def header (c : ClassLike) : String :=
  c.flavour.keyword ++ " " ++ c.name ++ headerLine "extends" c.parents ++
  headerLine "implements" c.interfaces ++ "\n\x7b"

/-- The lines of a group of constants or properties, with a blank line after them. -/
def groupLines (lines : List String) : List String :=
  if lines.isEmpty then [] else (sortLines lines).map (· ++ ";") ++ [""]

/-- The lines of a method, ended by its body or a semicolon, with a blank line after them. -/
def methodLines (line : String) : String :=
  (if line.toList.getLast? = some '\x7d' then line else line ++ ";") ++ "\n"

/-- The text of a class-like: its header, then the constants, the properties and the methods, each
group in the order of its lines. -/
def text (c : ClassLike) : String :=
  "\n".intercalate
    (c.header :: groupLines (c.constants.map Constant.text) ++
      groupLines (c.properties.map Property.text) ++
      (sortLines (c.methods.map Method.text)).map methodLines ++ ["\x7d"])

end ClassLike

end SourceSig
