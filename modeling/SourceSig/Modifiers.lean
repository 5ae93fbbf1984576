/-!
# Modifiers

The visibility and other modifiers of a member, as the bit mask that dumps hold. The phrases are
given by a fixed table, and a mask outside it has none.
-/

namespace SourceSig

/-- The modifiers of a declaration as the bits of a number. -/
structure Modifiers where
  code : Int64
deriving DecidableEq, Repr

namespace Modifiers

/-- Whether the bit for `static` is set. -/
def isStatic (m : Modifiers) : Bool :=
  m.code &&& 8 != 0

/-- Whether the bit for `abstract` is set. -/
def isAbstract (m : Modifiers) : Bool :=
  m.code &&& 16 != 0

/-- The keywords in front of a property. -/
def propertyPhrase? (m : Modifiers) : Option String :=
  match m.code.toInt with
  | 0 | 1 => some "public"
  | 2 => some "protected"
  | 4 => some "private"
  | 8 | 9 => some "public static"
  | 10 => some "protected static"
  | 12 => some "private static"
  | _ => none

/-- The keywords in front of a method. -/
def methodPhrase? (m : Modifiers) : Option String :=
  match m.code.toInt with
  | 16 | 17 => some "public abstract"
  | 18 => some "protected abstract"
  | 20 => some "private abstract"
  | 24 | 25 => some "public static abstract"
  | 26 => some "protected static abstract"
  | 28 => some "private static abstract"
  | _ => m.propertyPhrase?

/-- The words before a property, or a mark where the bits have no words. -/
def propertyPhrase (m : Modifiers) : String :=
  m.propertyPhrase?.getD "<unknown_property>"

/-- The words before a method, or a mark where the bits have no words. -/
def methodPhrase (m : Modifiers) : String :=
  m.methodPhrase?.getD "<unknown_method>"

end Modifiers

end SourceSig
