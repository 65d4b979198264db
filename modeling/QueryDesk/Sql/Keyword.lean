import QueryDesk.Text.Basic

/-!
# Reserved words

The words of SQL that stand out in an editor, and the phrases of two or three of them that read as
one. Both tables are in upper case; SQL itself is read without regard to case.
-/

set_option autoImplicit false

namespace QueryDesk.Sql

/-- A phrase as its words. -/
abbrev Phrase := List Text

/-- Longer phrases first. No phrase begins another one, so at most one stands at any place. -/
def Phrase.all : List Phrase :=
  List.map (List.map String.toList)
  [["LEFT", "OUTER", "JOIN"], ["RIGHT", "OUTER", "JOIN"], ["FULL", "OUTER", "JOIN"],
   ["IF", "NOT", "EXISTS"], ["IS", "NOT", "NULL"], ["INSERT", "OR", "REPLACE"],
   ["INSERT", "OR", "IGNORE"], ["LEFT", "JOIN"], ["RIGHT", "JOIN"], ["INNER", "JOIN"],
   ["FULL", "JOIN"], ["CROSS", "JOIN"], ["NATURAL", "JOIN"], ["GROUP", "BY"], ["ORDER", "BY"],
   ["PARTITION", "BY"], ["INSERT", "INTO"], ["DELETE", "FROM"], ["CREATE", "TABLE"],
   ["CREATE", "VIEW"], ["CREATE", "INDEX"], ["ALTER", "TABLE"], ["DROP", "TABLE"],
   ["DROP", "VIEW"], ["DROP", "INDEX"], ["PRIMARY", "KEY"], ["FOREIGN", "KEY"],
   ["IF", "EXISTS"], ["IS", "NULL"], ["NOT", "NULL"], ["NOT", "IN"], ["NOT", "LIKE"],
   ["NOT", "BETWEEN"], ["UNION", "ALL"]]

def reservedWords : List String :=
  ["SELECT", "FROM", "WHERE", "INSERT", "UPDATE", "DELETE", "CREATE", "ALTER", "DROP", "TABLE",
   "DATABASE", "VIEW", "INTO", "VALUES", "SET", "GROUP", "BY", "ORDER", "HAVING", "JOIN",
   "LEFT", "RIGHT", "INNER", "OUTER", "FULL", "CROSS", "NATURAL", "ON", "USING", "AS", "AND",
   "OR", "NOT", "NULL", "IS", "IN", "BETWEEN", "LIKE", "GLOB", "COUNT", "SUM", "AVG", "MAX",
   "MIN", "DISTINCT", "ALL", "UNION", "INTERSECT", "EXCEPT", "LIMIT", "OFFSET", "ASC", "DESC",
   "CASE", "WHEN", "THEN", "ELSE", "END", "CAST", "WITH", "IF", "EXISTS", "PRIMARY", "KEY",
   "FOREIGN", "REFERENCES", "UNIQUE", "CHECK", "INDEX", "CONSTRAINT", "DEFAULT",
   "AUTOINCREMENT", "INTEGER", "REAL", "TEXT", "BLOB", "VARCHAR", "DATE", "DATETIME", "BOOLEAN",
   "FLOAT", "DOUBLE", "DECIMAL", "NUMERIC", "TRUE", "FALSE", "REPLACE", "IGNORE", "PARTITION",
   "OVER", "BEGIN", "COMMIT", "ROLLBACK", "TRANSACTION", "PRAGMA"]

/-- Whether an upper-case word is reserved. -/
def isReserved (word : Text) : Bool := reservedWords.any fun r => r.toList == word

theorem Phrase.all_reserved : ∀ p ∈ Phrase.all, ∀ w ∈ p, isReserved w := by decide +kernel

end QueryDesk.Sql
