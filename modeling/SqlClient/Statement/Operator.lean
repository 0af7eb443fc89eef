/-!
# Operators and connectives

The comparison operators of conditions and the connectives between conditions.
-/

namespace SqlClient

/-- A comparison operator. -/
inductive Operator where
  | eq
  | notEq
  | lt
  | le
  | gt
  | ge
  | like
  | notLike
  | isIn
  | notIn
  | isNull
  | isNotNull
  deriving DecidableEq, Repr

namespace Operator

def all : List Operator :=
  [.eq, .notEq, .lt, .le, .gt, .ge, .like, .notLike, .isIn, .notIn, .isNull, .isNotNull]

def sql : Operator → String
  | .eq => "="
  | .notEq => "!="
  | .lt => "<"
  | .le => "<="
  | .gt => ">"
  | .ge => ">="
  | .like => "LIKE"
  | .notLike => "NOT LIKE"
  | .isIn => "IN"
  | .notIn => "NOT IN"
  | .isNull => "IS NULL"
  | .isNotNull => "IS NOT NULL"

def ofSql? (text : String) : Option Operator :=
  all.find? fun operator => operator.sql = text

/-- The test for absence that a comparison with the absent value stands for. -/
def nullTest? : Operator → Option Operator
  | .eq => some .isNull
  | .isNull => some .isNull
  | .notEq => some .isNotNull
  | .isNotNull => some .isNotNull
  | _ => none

end Operator

/-- What joins the members of a group of conditions. -/
inductive Connective where
  /-- All members hold. -/
  | and
  /-- Some member holds. -/
  | or
  deriving DecidableEq, Repr

/-- The spelling of a connective between two members. -/
def Connective.sql : Connective → String
  | .and => " AND "
  | .or => " OR "

end SqlClient
