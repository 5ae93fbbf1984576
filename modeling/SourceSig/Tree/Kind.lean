/-!
# Node kinds

What a node of a PHP syntax tree is, read off its tag. Only the kinds that matter to a signature
are told apart; every other node is `other`, a possible container of statements.
-/

namespace SourceSig

/-- The kinds of nodes that extraction tells apart. -/
inductive Kind where
  | namespaceStmt
  | function
  | interface
  | classStmt
  | traitStmt
  | expression
  | call
  | arg
  | method
  | classConst
  | property
  | nop
  | name
  | fullyQualifiedName
  | relativeName
  | identifier
  | variableExpr
  | intLiteral
  | floatLiteral
  | stringLiteral
  | constFetch
  | classConstFetch
  | param
  | nullableType
  | unionType
  | intersectionType
  | other
deriving DecidableEq, Repr

namespace Kind

/-- The kind that a tag stands for. Numbers and identifiers have two tags each, one of them from
older dumps. -/
def ofTag : String → Kind
  | "Stmt_Namespace" => namespaceStmt
  | "Stmt_Function" => function
  | "Stmt_Interface" => interface
  | "Stmt_Class" => classStmt
  | "Stmt_Trait" => traitStmt
  | "Stmt_Expression" => expression
  | "Expr_FuncCall" => call
  | "Arg" => arg
  | "Stmt_ClassMethod" => method
  | "Stmt_ClassConst" => classConst
  | "Stmt_Property" => property
  | "Stmt_Nop" => nop
  | "Name" => name
  | "Name_FullyQualified" => fullyQualifiedName
  | "Name_Relative" => relativeName
  | "Identifier" => identifier
  | "VarLikeIdentifier" => identifier
  | "Expr_Variable" => variableExpr
  | "Scalar_LNumber" => intLiteral
  | "Scalar_Int" => intLiteral
  | "Scalar_DNumber" => floatLiteral
  | "Scalar_Float" => floatLiteral
  | "Scalar_String" => stringLiteral
  | "Expr_ConstFetch" => constFetch
  | "Expr_ClassConstFetch" => classConstFetch
  | "Param" => param
  | "NullableType" => nullableType
  | "UnionType" => unionType
  | "IntersectionType" => intersectionType
  | _ => other

/-- Whether the kind is one of the three kinds of names. -/
def isName : Kind → Bool
  | name | fullyQualifiedName | relativeName => true
  | _ => false

end Kind

end SourceSig
