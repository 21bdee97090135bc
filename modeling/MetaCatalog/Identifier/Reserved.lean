import MetaCatalog.Text.Upper

/-!
# Reserved words

The words that mean something to the server and therefore cannot stand for an
object unless they are quoted. The table is in ascending order, and `isReserved`
finds a word in it by bisection, whatever the case of its ASCII letters.
-/

namespace MetaCatalog

/-- The reserved words in ascending order. -/
def reservedWords : Array String := #[
  "ACTIVE", "ADD", "ADMIN", "AFTER", "ALL", "ALTER", "AND", "ANY", "AS", "ASC",
  "ASCENDING", "AT", "AUTO", "AVG", "BEFORE", "BEGIN", "BETWEEN", "BIGINT", "BLOB", "BY",
  "CASCADE", "CASE", "CAST", "CHAR", "CHARACTER", "CHECK", "COLLATE", "COLUMN", "COMMIT",
  "COMPUTED", "CONSTRAINT", "CONTAINING", "COUNT", "CREATE", "CROSS", "CURRENT",
  "CURRENT_DATE", "CURRENT_TIME", "CURRENT_TIMESTAMP", "CURRENT_USER", "CURSOR",
  "DATABASE", "DATE", "DAY", "DEC", "DECIMAL", "DECLARE", "DEFAULT", "DELETE", "DESC",
  "DESCENDING", "DISTINCT", "DO", "DOMAIN", "DOUBLE", "DROP", "ELSE", "END", "ENTRY_POINT",
  "ESCAPE", "EXCEPTION", "EXECUTE", "EXISTS", "EXIT", "EXTERNAL", "EXTRACT", "FETCH",
  "FILE", "FILTER", "FLOAT", "FOR", "FOREIGN", "FROM", "FULL", "FUNCTION", "GENERATOR",
  "GRANT", "GROUP", "HAVING", "HOUR", "IF", "IN", "INACTIVE", "INDEX", "INNER", "INSERT",
  "INT", "INTEGER", "INTO", "IS", "JOIN", "KEY", "LEFT", "LIKE", "MAX", "MIN", "MINUTE",
  "MONTH", "NATURAL", "NO", "NOT", "NULL", "NUMERIC", "OF", "ON", "ONLY", "OPTION", "OR",
  "ORDER", "OUTER", "PARAMETER", "PASSWORD", "PLAN", "POSITION", "PRECISION", "PRIMARY",
  "PRIVILEGES", "PROCEDURE", "PUBLIC", "REFERENCES", "RETURNS", "REVOKE", "RIGHT", "ROLE",
  "ROLLBACK", "SECOND", "SELECT", "SET", "SMALLINT", "SOME", "SUM", "SUSPEND", "TABLE",
  "THEN", "TIME", "TIMESTAMP", "TO", "TRIGGER", "UNION", "UNIQUE", "UPDATE", "UPPER",
  "USER", "USING", "VALUE", "VALUES", "VARCHAR", "VARIABLE", "VARYING", "VIEW", "WHEN",
  "WHERE", "WHILE", "WITH", "WORK", "YEAR"]

/-- Whether `word` is among the entries of an ascending table with positions
from `low` up to, but not including, `high`. -/
def bisect (table : Array String) (word : String) (low high : Nat) (h : high ≤ table.size) : Bool :=
  if hlt : low < high then
    let middle := (low + high) / 2
    let entry := table[middle]
    if entry = word then true
    else if entry < word then bisect table word (middle + 1) high h
    else bisect table word low middle (by omega)
  else false
termination_by high - low

/-- Whether a word is reserved. -/
def isReserved (word : String) : Bool :=
  bisect reservedWords (Text.upperAscii word) 0 reservedWords.size (Nat.le_refl _)

end MetaCatalog
