import QueryDesk.Text.Blank
import QueryDesk.Sql.Keyword

/-!
# Roles

What a piece of SQL text does to an indented layout, and the keywords by what they do. A keyword is
one word or several, in upper case; SQL itself is read without regard to case.
-/

set_option autoImplicit false

namespace QueryDesk.Sql.Layout

/-- What a piece of text does to the layout. -/
inductive Role where
  | blank
  /-- Goes to the end of its line. -/
  | lineComment
  /-- Stands on lines of its own. -/
  | blockComment
  /-- Ties a type to what is before it. -/
  | typeMark
  | string
  | opening
  | closing
  | number
  /-- Begins a clause, whose items are indented under it. -/
  | clause
  /-- Begins a line inside a clause. -/
  | joint
  /-- Stands on a line between two statements. -/
  | setOperation
  /-- A keyword that stays on its line. -/
  | inline
  | operator
  /-- Stands for a value that is given later. -/
  | placeholder
  | word
  | symbol
  deriving DecidableEq, Repr

namespace Role

def clauseKeywords : List String :=
  ["ADD", "AFTER", "ALTER COLUMN", "ALTER TABLE", "DELETE FROM", "EXCEPT", "FETCH FIRST", "FROM",
   "GROUP BY", "GO", "HAVING", "INSERT INTO", "INSERT", "LIMIT", "MODIFY", "ORDER BY",
   "RETURNING", "SELECT", "SET CURRENT SCHEMA", "SET SCHEMA", "SET", "UPDATE", "VALUES", "WHERE"]

def jointKeywords : List String :=
  ["AND", "OR", "XOR", "WHEN", "ELSE", "JOIN", "INNER JOIN", "LEFT JOIN", "LEFT OUTER JOIN",
   "RIGHT JOIN", "RIGHT OUTER JOIN", "FULL JOIN", "FULL OUTER JOIN", "CROSS JOIN",
   "CROSS APPLY", "OUTER APPLY", "ANY JOIN", "INNER ANY JOIN", "LEFT ANY JOIN", "RIGHT ANY JOIN",
   "SEMI JOIN", "LEFT SEMI JOIN", "RIGHT SEMI JOIN", "LEFT ANTI JOIN", "RIGHT ANTI JOIN",
   "ASOF JOIN", "LEFT ASOF JOIN", "PASTE JOIN", "GLOBAL INNER JOIN", "GLOBAL LEFT JOIN",
   "GLOBAL RIGHT JOIN", "GLOBAL FULL JOIN"]

def setOperationKeywords : List String := ["BEGIN", "DECLARE", "INTERSECT", "MINUS", "UNION", "$$"]

def inlineKeywords : List String :=
  ["CHARACTER SET", "ON DELETE", "ON UPDATE", "ACCESSIBLE", "ACTION", "AGAINST", "AGGREGATE",
   "ALGORITHM", "ALL", "ALTER", "ANALYSE", "ANALYZE", "AS", "ASC", "AUTOCOMMIT", "AUTO_INCREMENT",
   "BACKUP", "BETWEEN", "BINLOG", "BOTH", "CASCADE", "CHANGE", "CHANGED", "CHARSET", "CHECK",
   "CHECKSUM", "COLLATE", "COLLATION", "COLUMN", "COLUMNS", "COMMENT", "COMMIT", "COMMITTED",
   "COMPRESSED", "CONCURRENT", "CONSTRAINT", "CONTAINS", "CONVERT", "CREATE", "CROSS",
   "CURRENT_TIMESTAMP", "DATABASE", "DATABASES", "DAY", "DAY_HOUR", "DAY_MINUTE", "DAY_SECOND",
   "DEFAULT", "DEFINER", "DELAYED", "DELETE", "DESC", "DESCRIBE", "DETERMINISTIC", "DISTINCT",
   "DISTINCTROW", "DIV", "DO", "DROP", "DUMPFILE", "DUPLICATE", "DYNAMIC", "ENCLOSED", "ENGINE",
   "ENGINES", "ENGINE_TYPE", "ESCAPE", "ESCAPED", "EVENTS", "EXEC", "EXECUTE", "EXISTS",
   "EXPLAIN", "EXTENDED", "FAST", "FETCH", "FIELDS", "FILE", "FIRST", "FIXED", "FLUSH", "FOR",
   "FORCE", "FOREIGN", "FULL", "FULLTEXT", "FUNCTION", "GLOBAL", "GRANT", "GRANTS",
   "GROUP_CONCAT", "HEAP", "HIGH_PRIORITY", "HOSTS", "HOUR", "HOUR_MINUTE", "HOUR_SECOND",
   "IDENTIFIED", "IF", "IFNULL", "IGNORE", "IN", "INDEX", "INDEXES", "INFILE", "INSERT_ID",
   "INSERT_METHOD", "INTERVAL", "INTO", "INVOKER", "IS", "ISOLATION", "KEY", "KEYS", "KILL",
   "LAST_INSERT_ID", "LEADING", "LEVEL", "LIKE", "LINEAR", "LINES", "LOAD", "LOCAL", "LOCK",
   "LOCKS", "LOGS", "LOW_PRIORITY", "MARIA", "MASTER", "MASTER_CONNECT_RETRY", "MASTER_HOST",
   "MASTER_LOG_FILE", "MATCH", "MAX_CONNECTIONS_PER_HOUR", "MAX_QUERIES_PER_HOUR", "MAX_ROWS",
   "MAX_UPDATES_PER_HOUR", "MAX_USER_CONNECTIONS", "MEDIUM", "MERGE", "MINUTE", "MINUTE_SECOND",
   "MIN_ROWS", "MODE", "MONTH", "MRG_MYISAM", "MYISAM", "NAMES", "NATURAL", "NOT", "NOW()",
   "NULL", "OFFSET", "ON", "ONLY", "OPEN", "OPTIMIZE", "OPTION", "OPTIONALLY", "OUTFILE",
   "PACK_KEYS", "PAGE", "PARTIAL", "PARTITION", "PARTITIONS", "PASSWORD", "PRIMARY",
   "PRIVILEGES", "PROCEDURE", "PROCESS", "PROCESSLIST", "PURGE", "QUICK", "RAID0", "RAID_CHUNKS",
   "RAID_CHUNKSIZE", "RAID_TYPE", "RANGE", "READ", "READ_ONLY", "READ_WRITE", "REFERENCES",
   "REGEXP", "RELOAD", "RENAME", "REPAIR", "REPEATABLE", "REPLACE", "REPLICATION", "RESET",
   "RESTORE", "RESTRICT", "RETURN", "RETURNS", "REVOKE", "RLIKE", "ROLLBACK", "ROW", "ROWS",
   "ROW_FORMAT", "SECOND", "SECURITY", "SEPARATOR", "SERIALIZABLE", "SESSION", "SHARE", "SHOW",
   "SHUTDOWN", "SLAVE", "SONAME", "SOUNDS", "SQL", "SQL_AUTO_IS_NULL", "SQL_BIG_RESULT",
   "SQL_BIG_SELECTS", "SQL_BIG_TABLES", "SQL_BUFFER_RESULT", "SQL_CACHE", "SQL_CALC_FOUND_ROWS",
   "SQL_LOG_BIN", "SQL_LOG_OFF", "SQL_LOG_UPDATE", "SQL_LOW_PRIORITY_UPDATES",
   "SQL_MAX_JOIN_SIZE", "SQL_NO_CACHE", "SQL_QUOTE_SHOW_CREATE", "SQL_SAFE_UPDATES",
   "SQL_SELECT_LIMIT", "SQL_SLAVE_SKIP_COUNTER", "SQL_SMALL_RESULT", "SQL_WARNINGS", "START",
   "STARTING", "STATUS", "STOP", "STORAGE", "STRAIGHT_JOIN", "STRING", "STRIPED", "SUPER",
   "TABLE", "TABLES", "TEMPORARY", "TERMINATED", "THEN", "TO", "TRAILING", "TRANSACTIONAL",
   "TRUE", "TRUNCATE", "TYPE", "TYPES", "UNCOMMITTED", "UNIQUE", "UNLOCK", "UNSIGNED", "USAGE",
   "USE", "USING", "VARIABLES", "VIEW", "WITH", "WORK", "WRITE", "YEAR_MONTH"]

/-- Every keyword with its role, in the order in which they are tried: where one keyword begins
another one in the same text, the longer comes first. -/
def keywords : List (Role × Phrase) :=
  List.flatMap (fun group : Role × List String =>
      group.2.map fun keyword => (group.1, Text.words keyword.toList))
    [(.clause, clauseKeywords), (.joint, jointKeywords), (.setOperation, setOperationKeywords),
     (.inline, inlineKeywords)]

/-- The opening bracket that is spelled as a word. -/
def caseWord : Text := "CASE".toList

/-- The closing bracket that is spelled as a word. -/
def endWord : Text := "END".toList

end Role

end QueryDesk.Sql.Layout
