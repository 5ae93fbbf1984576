import SourceSig.ClassLike

/-!
# Signatures

The signature of a source file: its constants, functions and class-likes in the order in which they
were found. The text has one section for each, grouped by category.
-/

namespace SourceSig

/-- A constant that a call of `define` introduces. -/
structure Define where
  name : String
  value : String
deriving DecidableEq

/-- A function with its parameters and the digest of its body. -/
structure Function where
  name : String
  params : List Parameter
  body : Digest
deriving DecidableEq

/-- The line of a constant. -/
def Define.text (d : Define) : String :=
  "define " ++ d.name ++ "  = " ++ d.value ++ ";"

/-- The lines of a function: its head, and the digest of its body below it. -/
def Function.text (f : Function) : String :=
  "function " ++ f.name ++ " (" ++ Parameter.listText f.params ++ ")\n" ++ bodyText f.body

/-- The declarations of a file by their sort, each sort in the order in which they were found. -/
structure Signature where
  defines : List Define
  functions : List Function
  classLikes : List ClassLike
deriving DecidableEq

namespace Signature

/-- The signature of a file that declares nothing. -/
def empty : Signature := ⟨[], [], []⟩

/-- The signature with one more constant. -/
def addDefine (s : Signature) (d : Define) : Signature :=
  { s with defines := s.defines ++ [d] }

/-- The signature with one more function. -/
def addFunction (s : Signature) (f : Function) : Signature :=
  { s with functions := s.functions ++ [f] }

/-- The signature with one more class-like. -/
def addClassLike (s : Signature) (c : ClassLike) : Signature :=
  { s with classLikes := s.classLikes ++ [c] }

/-- Whether nothing is declared. -/
def isEmpty (s : Signature) : Bool :=
  s.defines.isEmpty && s.functions.isEmpty && s.classLikes.isEmpty

/-- The class-likes of the given flavours. -/
def ofFlavours (s : Signature) (p : Flavour → Bool) : List ClassLike :=
  s.classLikes.filter fun c => p c.flavour

/-- The texts of the declarations: constants, functions, interfaces, traits, classes. -/
def sections (s : Signature) : List String :=
  s.defines.map Define.text ++ s.functions.map Function.text ++
    ((s.ofFlavours (· = .interface)).map ClassLike.text ++
      ((s.ofFlavours (· = .traitDecl)).map ClassLike.text ++
        (s.ofFlavours Flavour.isClass).map ClassLike.text))

/-- The text of a signature: its sections, with a blank line between them. -/
def text (s : Signature) : String :=
  "\n\n".intercalate s.sections

end Signature

end SourceSig
