import QueryAudit.Text.Letters

/-!
# Keywords

A keyword is a word that is not an ordinary name. Those that the grammar mentions are constructors
of their own; the other reserved words share one, for all that matters of them is that they are
reserved. The case of letters makes no difference.
-/

namespace QueryAudit.Sql

/-- What an unquoted word spells. -/
inductive Keyword where
  /-- Not reserved. -/
  | ordinary
  /-- Reserved, but without a place in the grammar. -/
  | reserved
  | ABSOLUTE | ACTION | ADD | ADMIN | AGAINST | ALL | ALTER | ALWAYS | ANALYZE | AND | ANTI | ANY
  | APPLY | ARRAY | ARRAY_AGG | AS | ASC | ASENSITIVE | ASSERT | AT | ATTACH | AUTHORIZATION | AUTO
  | AUTOINCREMENT | AUTO_INCREMENT | AVRO | BACKWARD | BASE64 | BEGIN | BETWEEN | BIGDECIMAL
  | BIGINT | BIGNUMERIC | BINARY | BINDING | BLOB | BOOL | BOOLEAN | BOTH | BROWSE | BTREE | BY
  | BYPASSRLS | BYTEA | BYTES | CACHE | CALL | CASCADE | CASE | CAST | CEIL | CENTURY | CHAIN
  | CHANGE | CHANNEL | CHAR | CHARACTER | CHARACTERS | CHARSET | CHECK | CLOB | CLONE | CLOSE
  | CLUSTER | COLLATE | COLLATION | COLUMN | COLUMNS | COMMENT | COMMIT | COMMITTED | COMPUTE
  | CONCURRENTLY | CONFLICT | CONNECT | CONNECTION | CONSTRAINT | CONVERT | COPY | COUNT | CREATE
  | CREATEDB | CREATEROLE | CROSS | CSV | CUBE | CURRENT | CURRENT_CATALOG | CURRENT_DATE
  | CURRENT_TIME | CURRENT_TIMESTAMP | CURRENT_USER | CURSOR | CYCLE | DATA | DATABASE | DATE
  | DATETIME | DAY | DAYOFWEEK | DAYOFYEAR | DEALLOCATE | DEC | DECADE | DECIMAL | DECLARE
  | DEFAULT | DEFERRABLE | DEFERRED | DELAYED | DELETE | DELIMITED | DELIMITER | DESC | DESCRIBE
  | DIRECTORY | DISABLE | DISCARD | DISTINCT | DISTRIBUTE | DIV | DO | DOUBLE | DOW | DOY | DROP
  | DUPLICATE | ELEMENTS | ELSE | EMPTY | ENABLE | ENCODING | END | ENFORCED | ENGINE | ENUM
  | EPOCH | ERROR | ESCAPE | EVENT | EXCEPT | EXCLUDE | EXCLUSIVE | EXECUTE | EXISTS | EXPANSION
  | EXPLAIN | EXPLICIT | EXPORT | EXTENDED | EXTENSION | EXTERNAL | EXTRACT | FALSE | FETCH
  | FIELDS | FILTER | FIRST | FLOAT | FLOAT4 | FLOAT64 | FLOAT8 | FLOOR | FLUSH | FOLLOWING | FOR
  | FORCE | FORCE_NOT_NULL | FORCE_NULL | FORCE_QUOTE | FOREIGN | FORMAT | FORWARD | FREEZE | FROM
  | FULL | FULLTEXT | FUNCTION | FUNCTIONS | GENERAL | GENERATED | GLOBAL | GRANT | GRANTED
  | GRAPHVIZ | GROUP | GROUPING | GROUPS | HASH | HAVING | HEADER | HIGH_PRIORITY | HIVEVAR | HOLD
  | HOSTS | HOUR | IDENTITY | IF | IGNORE | ILIKE | IMMEDIATE | IMMUTABLE | IN | INCLUDE
  | INCLUDE_NULL_VALUES | INCREMENT | INDEX | INHERIT | INITIALLY | INNER | INOUT | INPUTFORMAT
  | INSENSITIVE | INSERT | INT | INT2 | INT4 | INT64 | INT8 | INTEGER | INTERSECT | INTERVAL | INTO
  | IS | ISODOW | ISOLATION | ISOWEEK | ISOYEAR | JOIN | JSON | JSONB | JSONFILE | JSON_TABLE
  | JULIAN | KEY | KILL | LANGUAGE | LARGE | LAST | LATERAL | LEADING | LEFT | LEVEL | LIKE | LIMIT
  | LISTAGG | LOCAL | LOCALTIME | LOCALTIMESTAMP | LOCATION | LOCK | LOCKED | LOGIN | LOGS
  | LOW_PRIORITY | MACRO | MANAGEDLOCATION | MATCH | MATCHED | MATERIALIZED | MAX | MAXVALUE
  | MEDIUMINT | MERGE | METADATA | MICROSECOND | MICROSECONDS | MILLENIUM | MILLENNIUM
  | MILLISECOND | MILLISECONDS | MINUTE | MINVALUE | MODE | MONTH | MSCK | MUTATION | NAME
  | NANOSECOND | NANOSECONDS | NATURAL | NEXT | NO | NOBYPASSRLS | NOCREATEDB | NOCREATEROLE
  | NOINHERIT | NOLOGIN | NONE | NOREPLICATION | NOSCAN | NOSUPERUSER | NOT | NOTHING | NOWAIT
  | NO_WRITE_TO_BINLOG | NULL | NULLS | NUMERIC | NVARCHAR | OBJECT | OCTETS | OF | OFFSET | ON
  | ONLY | OPERATOR | OPTIMIZER_COSTS | OPTION | OPTIONS | OR | ORC | ORDER | OUT | OUTER
  | OUTPUTFORMAT | OVER | OVERFLOW | OVERLAY | OVERWRITE | OWNED | PARQUET | PARTITION
  | PARTITIONED | PARTITIONS | PASSWORD | PATH | PERCENT | PIVOT | PLACING | PLANS | POSITION
  | PRAGMA | PRECEDING | PRECISION | PREPARE | PRESERVE | PRIMARY | PRIOR | PRIVILEGES | PROCEDURE
  | PROGRAM | PURGE | QUALIFY | QUARTER | QUERY | QUOTE | RANGE | RAW | RCFILE | READ | REAL
  | RECURSIVE | REFERENCES | REGCLASS | REGEXP | RELATIVE | RELAY | RELEASE | RENAME | REPAIR
  | REPEATABLE | REPLACE | REPLICA | REPLICATION | RESET | RESPECT | RESTRICT | RETURN | RETURNING
  | RETURNS | REVOKE | RIGHT | RLIKE | ROLE | ROLLBACK | ROLLUP | ROOT | ROW | ROWID | ROWS | RULE
  | SAFE_CAST | SAVEPOINT | SCHEMA | SCROLL | SECOND | SECURITY | SELECT | SEMI | SEQUENCE
  | SEQUENCEFILE | SEQUENCES | SERDE | SERIALIZABLE | SESSION | SESSION_USER | SET | SETS | SHARE
  | SHOW | SIMILAR | SKIP | SLOW | SMALLINT | SNAPSHOT | SORT | SPATIAL | STABLE | STAGE | START
  | STATISTICS | STATUS | STDIN | STDOUT | STORED | STRICT | STRING | STRUCT | SUBSTRING
  | SUPERUSER | SWAP | SYNC | TABLE | TABLES | TBLPROPERTIES | TEMP | TEMPORARY | TEXT | TEXTFILE
  | THEN | TIES | TIME | TIMESTAMP | TIMESTAMPTZ | TIMETZ | TIMEZONE | TIMEZONE_ABBR
  | TIMEZONE_HOUR | TIMEZONE_MINUTE | TIMEZONE_REGION | TINYINT | TO | TOP | TRAILING | TRANSACTION
  | TRANSIENT | TRIGGER | TRIM | TRUE | TRUNCATE | TRY_CAST | TYPE | UNBOUNDED | UNCACHE
  | UNCOMMITTED | UNION | UNIQUE | UNKNOWN | UNLOCK | UNLOGGED | UNNEST | UNPIVOT | UNSIGNED
  | UNTIL | UPDATE | USAGE | USE | USER | USER_RESOURCES | USING | UUID | VALID | VALUES
  | VARBINARY | VARCHAR | VARIABLES | VARYING | VERBOSE | VERSION | VIEW | VIRTUAL | VOLATILE
  | WEEK | WHEN | WHERE | WINDOW | WITH | WITHIN | WITHOUT | WITHOUT_ARRAY_WRAPPER | WORK | WRITE
  | XML | XOR | YEAR | ZONE
  deriving DecidableEq, Repr, Inhabited

namespace Keyword

def all : List Keyword :=
  [.ABSOLUTE, .ACTION, .ADD, .ADMIN, .AGAINST, .ALL, .ALTER, .ALWAYS, .ANALYZE, .AND, .ANTI, .ANY,
   .APPLY, .ARRAY, .ARRAY_AGG, .AS, .ASC, .ASENSITIVE, .ASSERT, .AT, .ATTACH, .AUTHORIZATION,
   .AUTO, .AUTOINCREMENT, .AUTO_INCREMENT, .AVRO, .BACKWARD, .BASE64, .BEGIN, .BETWEEN,
   .BIGDECIMAL, .BIGINT, .BIGNUMERIC, .BINARY, .BINDING, .BLOB, .BOOL, .BOOLEAN, .BOTH, .BROWSE,
   .BTREE, .BY, .BYPASSRLS, .BYTEA, .BYTES, .CACHE, .CALL, .CASCADE, .CASE, .CAST, .CEIL, .CENTURY,
   .CHAIN, .CHANGE, .CHANNEL, .CHAR, .CHARACTER, .CHARACTERS, .CHARSET, .CHECK, .CLOB, .CLONE,
   .CLOSE, .CLUSTER, .COLLATE, .COLLATION, .COLUMN, .COLUMNS, .COMMENT, .COMMIT, .COMMITTED,
   .COMPUTE, .CONCURRENTLY, .CONFLICT, .CONNECT, .CONNECTION, .CONSTRAINT, .CONVERT, .COPY, .COUNT,
   .CREATE, .CREATEDB, .CREATEROLE, .CROSS, .CSV, .CUBE, .CURRENT, .CURRENT_CATALOG, .CURRENT_DATE,
   .CURRENT_TIME, .CURRENT_TIMESTAMP, .CURRENT_USER, .CURSOR, .CYCLE, .DATA, .DATABASE, .DATE,
   .DATETIME, .DAY, .DAYOFWEEK, .DAYOFYEAR, .DEALLOCATE, .DEC, .DECADE, .DECIMAL, .DECLARE,
   .DEFAULT, .DEFERRABLE, .DEFERRED, .DELAYED, .DELETE, .DELIMITED, .DELIMITER, .DESC, .DESCRIBE,
   .DIRECTORY, .DISABLE, .DISCARD, .DISTINCT, .DISTRIBUTE, .DIV, .DO, .DOUBLE, .DOW, .DOY, .DROP,
   .DUPLICATE, .ELEMENTS, .ELSE, .EMPTY, .ENABLE, .ENCODING, .END, .ENFORCED, .ENGINE, .ENUM,
   .EPOCH, .ERROR, .ESCAPE, .EVENT, .EXCEPT, .EXCLUDE, .EXCLUSIVE, .EXECUTE, .EXISTS, .EXPANSION,
   .EXPLAIN, .EXPLICIT, .EXPORT, .EXTENDED, .EXTENSION, .EXTERNAL, .EXTRACT, .FALSE, .FETCH,
   .FIELDS, .FILTER, .FIRST, .FLOAT, .FLOAT4, .FLOAT64, .FLOAT8, .FLOOR, .FLUSH, .FOLLOWING, .FOR,
   .FORCE, .FORCE_NOT_NULL, .FORCE_NULL, .FORCE_QUOTE, .FOREIGN, .FORMAT, .FORWARD, .FREEZE, .FROM,
   .FULL, .FULLTEXT, .FUNCTION, .FUNCTIONS, .GENERAL, .GENERATED, .GLOBAL, .GRANT, .GRANTED,
   .GRAPHVIZ, .GROUP, .GROUPING, .GROUPS, .HASH, .HAVING, .HEADER, .HIGH_PRIORITY, .HIVEVAR, .HOLD,
   .HOSTS, .HOUR, .IDENTITY, .IF, .IGNORE, .ILIKE, .IMMEDIATE, .IMMUTABLE, .IN, .INCLUDE,
   .INCLUDE_NULL_VALUES, .INCREMENT, .INDEX, .INHERIT, .INITIALLY, .INNER, .INOUT, .INPUTFORMAT,
   .INSENSITIVE, .INSERT, .INT, .INT2, .INT4, .INT64, .INT8, .INTEGER, .INTERSECT, .INTERVAL,
   .INTO, .IS, .ISODOW, .ISOLATION, .ISOWEEK, .ISOYEAR, .JOIN, .JSON, .JSONB, .JSONFILE,
   .JSON_TABLE, .JULIAN, .KEY, .KILL, .LANGUAGE, .LARGE, .LAST, .LATERAL, .LEADING, .LEFT, .LEVEL,
   .LIKE, .LIMIT, .LISTAGG, .LOCAL, .LOCALTIME, .LOCALTIMESTAMP, .LOCATION, .LOCK, .LOCKED, .LOGIN,
   .LOGS, .LOW_PRIORITY, .MACRO, .MANAGEDLOCATION, .MATCH, .MATCHED, .MATERIALIZED, .MAX,
   .MAXVALUE, .MEDIUMINT, .MERGE, .METADATA, .MICROSECOND, .MICROSECONDS, .MILLENIUM, .MILLENNIUM,
   .MILLISECOND, .MILLISECONDS, .MINUTE, .MINVALUE, .MODE, .MONTH, .MSCK, .MUTATION, .NAME,
   .NANOSECOND, .NANOSECONDS, .NATURAL, .NEXT, .NO, .NOBYPASSRLS, .NOCREATEDB, .NOCREATEROLE,
   .NOINHERIT, .NOLOGIN, .NONE, .NOREPLICATION, .NOSCAN, .NOSUPERUSER, .NOT, .NOTHING, .NOWAIT,
   .NO_WRITE_TO_BINLOG, .NULL, .NULLS, .NUMERIC, .NVARCHAR, .OBJECT, .OCTETS, .OF, .OFFSET, .ON,
   .ONLY, .OPERATOR, .OPTIMIZER_COSTS, .OPTION, .OPTIONS, .OR, .ORC, .ORDER, .OUT, .OUTER,
   .OUTPUTFORMAT, .OVER, .OVERFLOW, .OVERLAY, .OVERWRITE, .OWNED, .PARQUET, .PARTITION,
   .PARTITIONED, .PARTITIONS, .PASSWORD, .PATH, .PERCENT, .PIVOT, .PLACING, .PLANS, .POSITION,
   .PRAGMA, .PRECEDING, .PRECISION, .PREPARE, .PRESERVE, .PRIMARY, .PRIOR, .PRIVILEGES, .PROCEDURE,
   .PROGRAM, .PURGE, .QUALIFY, .QUARTER, .QUERY, .QUOTE, .RANGE, .RAW, .RCFILE, .READ, .REAL,
   .RECURSIVE, .REFERENCES, .REGCLASS, .REGEXP, .RELATIVE, .RELAY, .RELEASE, .RENAME, .REPAIR,
   .REPEATABLE, .REPLACE, .REPLICA, .REPLICATION, .RESET, .RESPECT, .RESTRICT, .RETURN, .RETURNING,
   .RETURNS, .REVOKE, .RIGHT, .RLIKE, .ROLE, .ROLLBACK, .ROLLUP, .ROOT, .ROW, .ROWID, .ROWS, .RULE,
   .SAFE_CAST, .SAVEPOINT, .SCHEMA, .SCROLL, .SECOND, .SECURITY, .SELECT, .SEMI, .SEQUENCE,
   .SEQUENCEFILE, .SEQUENCES, .SERDE, .SERIALIZABLE, .SESSION, .SESSION_USER, .SET, .SETS, .SHARE,
   .SHOW, .SIMILAR, .SKIP, .SLOW, .SMALLINT, .SNAPSHOT, .SORT, .SPATIAL, .STABLE, .STAGE, .START,
   .STATISTICS, .STATUS, .STDIN, .STDOUT, .STORED, .STRICT, .STRING, .STRUCT, .SUBSTRING,
   .SUPERUSER, .SWAP, .SYNC, .TABLE, .TABLES, .TBLPROPERTIES, .TEMP, .TEMPORARY, .TEXT, .TEXTFILE,
   .THEN, .TIES, .TIME, .TIMESTAMP, .TIMESTAMPTZ, .TIMETZ, .TIMEZONE, .TIMEZONE_ABBR,
   .TIMEZONE_HOUR, .TIMEZONE_MINUTE, .TIMEZONE_REGION, .TINYINT, .TO, .TOP, .TRAILING,
   .TRANSACTION, .TRANSIENT, .TRIGGER, .TRIM, .TRUE, .TRUNCATE, .TRY_CAST, .TYPE, .UNBOUNDED,
   .UNCACHE, .UNCOMMITTED, .UNION, .UNIQUE, .UNKNOWN, .UNLOCK, .UNLOGGED, .UNNEST, .UNPIVOT,
   .UNSIGNED, .UNTIL, .UPDATE, .USAGE, .USE, .USER, .USER_RESOURCES, .USING, .UUID, .VALID,
   .VALUES, .VARBINARY, .VARCHAR, .VARIABLES, .VARYING, .VERBOSE, .VERSION, .VIEW, .VIRTUAL,
   .VOLATILE, .WEEK, .WHEN, .WHERE, .WINDOW, .WITH, .WITHIN, .WITHOUT, .WITHOUT_ARRAY_WRAPPER,
   .WORK, .WRITE, .XML, .XOR, .YEAR, .ZONE]

/-- How a keyword of the grammar is written. -/
def spelling : Keyword → String
  | .ordinary => "NoKeyword"
  | .reserved => "Reserved"
  | .ABSOLUTE => "ABSOLUTE"
  | .ACTION => "ACTION"
  | .ADD => "ADD"
  | .ADMIN => "ADMIN"
  | .AGAINST => "AGAINST"
  | .ALL => "ALL"
  | .ALTER => "ALTER"
  | .ALWAYS => "ALWAYS"
  | .ANALYZE => "ANALYZE"
  | .AND => "AND"
  | .ANTI => "ANTI"
  | .ANY => "ANY"
  | .APPLY => "APPLY"
  | .ARRAY => "ARRAY"
  | .ARRAY_AGG => "ARRAY_AGG"
  | .AS => "AS"
  | .ASC => "ASC"
  | .ASENSITIVE => "ASENSITIVE"
  | .ASSERT => "ASSERT"
  | .AT => "AT"
  | .ATTACH => "ATTACH"
  | .AUTHORIZATION => "AUTHORIZATION"
  | .AUTO => "AUTO"
  | .AUTOINCREMENT => "AUTOINCREMENT"
  | .AUTO_INCREMENT => "AUTO_INCREMENT"
  | .AVRO => "AVRO"
  | .BACKWARD => "BACKWARD"
  | .BASE64 => "BASE64"
  | .BEGIN => "BEGIN"
  | .BETWEEN => "BETWEEN"
  | .BIGDECIMAL => "BIGDECIMAL"
  | .BIGINT => "BIGINT"
  | .BIGNUMERIC => "BIGNUMERIC"
  | .BINARY => "BINARY"
  | .BINDING => "BINDING"
  | .BLOB => "BLOB"
  | .BOOL => "BOOL"
  | .BOOLEAN => "BOOLEAN"
  | .BOTH => "BOTH"
  | .BROWSE => "BROWSE"
  | .BTREE => "BTREE"
  | .BY => "BY"
  | .BYPASSRLS => "BYPASSRLS"
  | .BYTEA => "BYTEA"
  | .BYTES => "BYTES"
  | .CACHE => "CACHE"
  | .CALL => "CALL"
  | .CASCADE => "CASCADE"
  | .CASE => "CASE"
  | .CAST => "CAST"
  | .CEIL => "CEIL"
  | .CENTURY => "CENTURY"
  | .CHAIN => "CHAIN"
  | .CHANGE => "CHANGE"
  | .CHANNEL => "CHANNEL"
  | .CHAR => "CHAR"
  | .CHARACTER => "CHARACTER"
  | .CHARACTERS => "CHARACTERS"
  | .CHARSET => "CHARSET"
  | .CHECK => "CHECK"
  | .CLOB => "CLOB"
  | .CLONE => "CLONE"
  | .CLOSE => "CLOSE"
  | .CLUSTER => "CLUSTER"
  | .COLLATE => "COLLATE"
  | .COLLATION => "COLLATION"
  | .COLUMN => "COLUMN"
  | .COLUMNS => "COLUMNS"
  | .COMMENT => "COMMENT"
  | .COMMIT => "COMMIT"
  | .COMMITTED => "COMMITTED"
  | .COMPUTE => "COMPUTE"
  | .CONCURRENTLY => "CONCURRENTLY"
  | .CONFLICT => "CONFLICT"
  | .CONNECT => "CONNECT"
  | .CONNECTION => "CONNECTION"
  | .CONSTRAINT => "CONSTRAINT"
  | .CONVERT => "CONVERT"
  | .COPY => "COPY"
  | .COUNT => "COUNT"
  | .CREATE => "CREATE"
  | .CREATEDB => "CREATEDB"
  | .CREATEROLE => "CREATEROLE"
  | .CROSS => "CROSS"
  | .CSV => "CSV"
  | .CUBE => "CUBE"
  | .CURRENT => "CURRENT"
  | .CURRENT_CATALOG => "CURRENT_CATALOG"
  | .CURRENT_DATE => "CURRENT_DATE"
  | .CURRENT_TIME => "CURRENT_TIME"
  | .CURRENT_TIMESTAMP => "CURRENT_TIMESTAMP"
  | .CURRENT_USER => "CURRENT_USER"
  | .CURSOR => "CURSOR"
  | .CYCLE => "CYCLE"
  | .DATA => "DATA"
  | .DATABASE => "DATABASE"
  | .DATE => "DATE"
  | .DATETIME => "DATETIME"
  | .DAY => "DAY"
  | .DAYOFWEEK => "DAYOFWEEK"
  | .DAYOFYEAR => "DAYOFYEAR"
  | .DEALLOCATE => "DEALLOCATE"
  | .DEC => "DEC"
  | .DECADE => "DECADE"
  | .DECIMAL => "DECIMAL"
  | .DECLARE => "DECLARE"
  | .DEFAULT => "DEFAULT"
  | .DEFERRABLE => "DEFERRABLE"
  | .DEFERRED => "DEFERRED"
  | .DELAYED => "DELAYED"
  | .DELETE => "DELETE"
  | .DELIMITED => "DELIMITED"
  | .DELIMITER => "DELIMITER"
  | .DESC => "DESC"
  | .DESCRIBE => "DESCRIBE"
  | .DIRECTORY => "DIRECTORY"
  | .DISABLE => "DISABLE"
  | .DISCARD => "DISCARD"
  | .DISTINCT => "DISTINCT"
  | .DISTRIBUTE => "DISTRIBUTE"
  | .DIV => "DIV"
  | .DO => "DO"
  | .DOUBLE => "DOUBLE"
  | .DOW => "DOW"
  | .DOY => "DOY"
  | .DROP => "DROP"
  | .DUPLICATE => "DUPLICATE"
  | .ELEMENTS => "ELEMENTS"
  | .ELSE => "ELSE"
  | .EMPTY => "EMPTY"
  | .ENABLE => "ENABLE"
  | .ENCODING => "ENCODING"
  | .END => "END"
  | .ENFORCED => "ENFORCED"
  | .ENGINE => "ENGINE"
  | .ENUM => "ENUM"
  | .EPOCH => "EPOCH"
  | .ERROR => "ERROR"
  | .ESCAPE => "ESCAPE"
  | .EVENT => "EVENT"
  | .EXCEPT => "EXCEPT"
  | .EXCLUDE => "EXCLUDE"
  | .EXCLUSIVE => "EXCLUSIVE"
  | .EXECUTE => "EXECUTE"
  | .EXISTS => "EXISTS"
  | .EXPANSION => "EXPANSION"
  | .EXPLAIN => "EXPLAIN"
  | .EXPLICIT => "EXPLICIT"
  | .EXPORT => "EXPORT"
  | .EXTENDED => "EXTENDED"
  | .EXTENSION => "EXTENSION"
  | .EXTERNAL => "EXTERNAL"
  | .EXTRACT => "EXTRACT"
  | .FALSE => "FALSE"
  | .FETCH => "FETCH"
  | .FIELDS => "FIELDS"
  | .FILTER => "FILTER"
  | .FIRST => "FIRST"
  | .FLOAT => "FLOAT"
  | .FLOAT4 => "FLOAT4"
  | .FLOAT64 => "FLOAT64"
  | .FLOAT8 => "FLOAT8"
  | .FLOOR => "FLOOR"
  | .FLUSH => "FLUSH"
  | .FOLLOWING => "FOLLOWING"
  | .FOR => "FOR"
  | .FORCE => "FORCE"
  | .FORCE_NOT_NULL => "FORCE_NOT_NULL"
  | .FORCE_NULL => "FORCE_NULL"
  | .FORCE_QUOTE => "FORCE_QUOTE"
  | .FOREIGN => "FOREIGN"
  | .FORMAT => "FORMAT"
  | .FORWARD => "FORWARD"
  | .FREEZE => "FREEZE"
  | .FROM => "FROM"
  | .FULL => "FULL"
  | .FULLTEXT => "FULLTEXT"
  | .FUNCTION => "FUNCTION"
  | .FUNCTIONS => "FUNCTIONS"
  | .GENERAL => "GENERAL"
  | .GENERATED => "GENERATED"
  | .GLOBAL => "GLOBAL"
  | .GRANT => "GRANT"
  | .GRANTED => "GRANTED"
  | .GRAPHVIZ => "GRAPHVIZ"
  | .GROUP => "GROUP"
  | .GROUPING => "GROUPING"
  | .GROUPS => "GROUPS"
  | .HASH => "HASH"
  | .HAVING => "HAVING"
  | .HEADER => "HEADER"
  | .HIGH_PRIORITY => "HIGH_PRIORITY"
  | .HIVEVAR => "HIVEVAR"
  | .HOLD => "HOLD"
  | .HOSTS => "HOSTS"
  | .HOUR => "HOUR"
  | .IDENTITY => "IDENTITY"
  | .IF => "IF"
  | .IGNORE => "IGNORE"
  | .ILIKE => "ILIKE"
  | .IMMEDIATE => "IMMEDIATE"
  | .IMMUTABLE => "IMMUTABLE"
  | .IN => "IN"
  | .INCLUDE => "INCLUDE"
  | .INCLUDE_NULL_VALUES => "INCLUDE_NULL_VALUES"
  | .INCREMENT => "INCREMENT"
  | .INDEX => "INDEX"
  | .INHERIT => "INHERIT"
  | .INITIALLY => "INITIALLY"
  | .INNER => "INNER"
  | .INOUT => "INOUT"
  | .INPUTFORMAT => "INPUTFORMAT"
  | .INSENSITIVE => "INSENSITIVE"
  | .INSERT => "INSERT"
  | .INT => "INT"
  | .INT2 => "INT2"
  | .INT4 => "INT4"
  | .INT64 => "INT64"
  | .INT8 => "INT8"
  | .INTEGER => "INTEGER"
  | .INTERSECT => "INTERSECT"
  | .INTERVAL => "INTERVAL"
  | .INTO => "INTO"
  | .IS => "IS"
  | .ISODOW => "ISODOW"
  | .ISOLATION => "ISOLATION"
  | .ISOWEEK => "ISOWEEK"
  | .ISOYEAR => "ISOYEAR"
  | .JOIN => "JOIN"
  | .JSON => "JSON"
  | .JSONB => "JSONB"
  | .JSONFILE => "JSONFILE"
  | .JSON_TABLE => "JSON_TABLE"
  | .JULIAN => "JULIAN"
  | .KEY => "KEY"
  | .KILL => "KILL"
  | .LANGUAGE => "LANGUAGE"
  | .LARGE => "LARGE"
  | .LAST => "LAST"
  | .LATERAL => "LATERAL"
  | .LEADING => "LEADING"
  | .LEFT => "LEFT"
  | .LEVEL => "LEVEL"
  | .LIKE => "LIKE"
  | .LIMIT => "LIMIT"
  | .LISTAGG => "LISTAGG"
  | .LOCAL => "LOCAL"
  | .LOCALTIME => "LOCALTIME"
  | .LOCALTIMESTAMP => "LOCALTIMESTAMP"
  | .LOCATION => "LOCATION"
  | .LOCK => "LOCK"
  | .LOCKED => "LOCKED"
  | .LOGIN => "LOGIN"
  | .LOGS => "LOGS"
  | .LOW_PRIORITY => "LOW_PRIORITY"
  | .MACRO => "MACRO"
  | .MANAGEDLOCATION => "MANAGEDLOCATION"
  | .MATCH => "MATCH"
  | .MATCHED => "MATCHED"
  | .MATERIALIZED => "MATERIALIZED"
  | .MAX => "MAX"
  | .MAXVALUE => "MAXVALUE"
  | .MEDIUMINT => "MEDIUMINT"
  | .MERGE => "MERGE"
  | .METADATA => "METADATA"
  | .MICROSECOND => "MICROSECOND"
  | .MICROSECONDS => "MICROSECONDS"
  | .MILLENIUM => "MILLENIUM"
  | .MILLENNIUM => "MILLENNIUM"
  | .MILLISECOND => "MILLISECOND"
  | .MILLISECONDS => "MILLISECONDS"
  | .MINUTE => "MINUTE"
  | .MINVALUE => "MINVALUE"
  | .MODE => "MODE"
  | .MONTH => "MONTH"
  | .MSCK => "MSCK"
  | .MUTATION => "MUTATION"
  | .NAME => "NAME"
  | .NANOSECOND => "NANOSECOND"
  | .NANOSECONDS => "NANOSECONDS"
  | .NATURAL => "NATURAL"
  | .NEXT => "NEXT"
  | .NO => "NO"
  | .NOBYPASSRLS => "NOBYPASSRLS"
  | .NOCREATEDB => "NOCREATEDB"
  | .NOCREATEROLE => "NOCREATEROLE"
  | .NOINHERIT => "NOINHERIT"
  | .NOLOGIN => "NOLOGIN"
  | .NONE => "NONE"
  | .NOREPLICATION => "NOREPLICATION"
  | .NOSCAN => "NOSCAN"
  | .NOSUPERUSER => "NOSUPERUSER"
  | .NOT => "NOT"
  | .NOTHING => "NOTHING"
  | .NOWAIT => "NOWAIT"
  | .NO_WRITE_TO_BINLOG => "NO_WRITE_TO_BINLOG"
  | .NULL => "NULL"
  | .NULLS => "NULLS"
  | .NUMERIC => "NUMERIC"
  | .NVARCHAR => "NVARCHAR"
  | .OBJECT => "OBJECT"
  | .OCTETS => "OCTETS"
  | .OF => "OF"
  | .OFFSET => "OFFSET"
  | .ON => "ON"
  | .ONLY => "ONLY"
  | .OPERATOR => "OPERATOR"
  | .OPTIMIZER_COSTS => "OPTIMIZER_COSTS"
  | .OPTION => "OPTION"
  | .OPTIONS => "OPTIONS"
  | .OR => "OR"
  | .ORC => "ORC"
  | .ORDER => "ORDER"
  | .OUT => "OUT"
  | .OUTER => "OUTER"
  | .OUTPUTFORMAT => "OUTPUTFORMAT"
  | .OVER => "OVER"
  | .OVERFLOW => "OVERFLOW"
  | .OVERLAY => "OVERLAY"
  | .OVERWRITE => "OVERWRITE"
  | .OWNED => "OWNED"
  | .PARQUET => "PARQUET"
  | .PARTITION => "PARTITION"
  | .PARTITIONED => "PARTITIONED"
  | .PARTITIONS => "PARTITIONS"
  | .PASSWORD => "PASSWORD"
  | .PATH => "PATH"
  | .PERCENT => "PERCENT"
  | .PIVOT => "PIVOT"
  | .PLACING => "PLACING"
  | .PLANS => "PLANS"
  | .POSITION => "POSITION"
  | .PRAGMA => "PRAGMA"
  | .PRECEDING => "PRECEDING"
  | .PRECISION => "PRECISION"
  | .PREPARE => "PREPARE"
  | .PRESERVE => "PRESERVE"
  | .PRIMARY => "PRIMARY"
  | .PRIOR => "PRIOR"
  | .PRIVILEGES => "PRIVILEGES"
  | .PROCEDURE => "PROCEDURE"
  | .PROGRAM => "PROGRAM"
  | .PURGE => "PURGE"
  | .QUALIFY => "QUALIFY"
  | .QUARTER => "QUARTER"
  | .QUERY => "QUERY"
  | .QUOTE => "QUOTE"
  | .RANGE => "RANGE"
  | .RAW => "RAW"
  | .RCFILE => "RCFILE"
  | .READ => "READ"
  | .REAL => "REAL"
  | .RECURSIVE => "RECURSIVE"
  | .REFERENCES => "REFERENCES"
  | .REGCLASS => "REGCLASS"
  | .REGEXP => "REGEXP"
  | .RELATIVE => "RELATIVE"
  | .RELAY => "RELAY"
  | .RELEASE => "RELEASE"
  | .RENAME => "RENAME"
  | .REPAIR => "REPAIR"
  | .REPEATABLE => "REPEATABLE"
  | .REPLACE => "REPLACE"
  | .REPLICA => "REPLICA"
  | .REPLICATION => "REPLICATION"
  | .RESET => "RESET"
  | .RESPECT => "RESPECT"
  | .RESTRICT => "RESTRICT"
  | .RETURN => "RETURN"
  | .RETURNING => "RETURNING"
  | .RETURNS => "RETURNS"
  | .REVOKE => "REVOKE"
  | .RIGHT => "RIGHT"
  | .RLIKE => "RLIKE"
  | .ROLE => "ROLE"
  | .ROLLBACK => "ROLLBACK"
  | .ROLLUP => "ROLLUP"
  | .ROOT => "ROOT"
  | .ROW => "ROW"
  | .ROWID => "ROWID"
  | .ROWS => "ROWS"
  | .RULE => "RULE"
  | .SAFE_CAST => "SAFE_CAST"
  | .SAVEPOINT => "SAVEPOINT"
  | .SCHEMA => "SCHEMA"
  | .SCROLL => "SCROLL"
  | .SECOND => "SECOND"
  | .SECURITY => "SECURITY"
  | .SELECT => "SELECT"
  | .SEMI => "SEMI"
  | .SEQUENCE => "SEQUENCE"
  | .SEQUENCEFILE => "SEQUENCEFILE"
  | .SEQUENCES => "SEQUENCES"
  | .SERDE => "SERDE"
  | .SERIALIZABLE => "SERIALIZABLE"
  | .SESSION => "SESSION"
  | .SESSION_USER => "SESSION_USER"
  | .SET => "SET"
  | .SETS => "SETS"
  | .SHARE => "SHARE"
  | .SHOW => "SHOW"
  | .SIMILAR => "SIMILAR"
  | .SKIP => "SKIP"
  | .SLOW => "SLOW"
  | .SMALLINT => "SMALLINT"
  | .SNAPSHOT => "SNAPSHOT"
  | .SORT => "SORT"
  | .SPATIAL => "SPATIAL"
  | .STABLE => "STABLE"
  | .STAGE => "STAGE"
  | .START => "START"
  | .STATISTICS => "STATISTICS"
  | .STATUS => "STATUS"
  | .STDIN => "STDIN"
  | .STDOUT => "STDOUT"
  | .STORED => "STORED"
  | .STRICT => "STRICT"
  | .STRING => "STRING"
  | .STRUCT => "STRUCT"
  | .SUBSTRING => "SUBSTRING"
  | .SUPERUSER => "SUPERUSER"
  | .SWAP => "SWAP"
  | .SYNC => "SYNC"
  | .TABLE => "TABLE"
  | .TABLES => "TABLES"
  | .TBLPROPERTIES => "TBLPROPERTIES"
  | .TEMP => "TEMP"
  | .TEMPORARY => "TEMPORARY"
  | .TEXT => "TEXT"
  | .TEXTFILE => "TEXTFILE"
  | .THEN => "THEN"
  | .TIES => "TIES"
  | .TIME => "TIME"
  | .TIMESTAMP => "TIMESTAMP"
  | .TIMESTAMPTZ => "TIMESTAMPTZ"
  | .TIMETZ => "TIMETZ"
  | .TIMEZONE => "TIMEZONE"
  | .TIMEZONE_ABBR => "TIMEZONE_ABBR"
  | .TIMEZONE_HOUR => "TIMEZONE_HOUR"
  | .TIMEZONE_MINUTE => "TIMEZONE_MINUTE"
  | .TIMEZONE_REGION => "TIMEZONE_REGION"
  | .TINYINT => "TINYINT"
  | .TO => "TO"
  | .TOP => "TOP"
  | .TRAILING => "TRAILING"
  | .TRANSACTION => "TRANSACTION"
  | .TRANSIENT => "TRANSIENT"
  | .TRIGGER => "TRIGGER"
  | .TRIM => "TRIM"
  | .TRUE => "TRUE"
  | .TRUNCATE => "TRUNCATE"
  | .TRY_CAST => "TRY_CAST"
  | .TYPE => "TYPE"
  | .UNBOUNDED => "UNBOUNDED"
  | .UNCACHE => "UNCACHE"
  | .UNCOMMITTED => "UNCOMMITTED"
  | .UNION => "UNION"
  | .UNIQUE => "UNIQUE"
  | .UNKNOWN => "UNKNOWN"
  | .UNLOCK => "UNLOCK"
  | .UNLOGGED => "UNLOGGED"
  | .UNNEST => "UNNEST"
  | .UNPIVOT => "UNPIVOT"
  | .UNSIGNED => "UNSIGNED"
  | .UNTIL => "UNTIL"
  | .UPDATE => "UPDATE"
  | .USAGE => "USAGE"
  | .USE => "USE"
  | .USER => "USER"
  | .USER_RESOURCES => "USER_RESOURCES"
  | .USING => "USING"
  | .UUID => "UUID"
  | .VALID => "VALID"
  | .VALUES => "VALUES"
  | .VARBINARY => "VARBINARY"
  | .VARCHAR => "VARCHAR"
  | .VARIABLES => "VARIABLES"
  | .VARYING => "VARYING"
  | .VERBOSE => "VERBOSE"
  | .VERSION => "VERSION"
  | .VIEW => "VIEW"
  | .VIRTUAL => "VIRTUAL"
  | .VOLATILE => "VOLATILE"
  | .WEEK => "WEEK"
  | .WHEN => "WHEN"
  | .WHERE => "WHERE"
  | .WINDOW => "WINDOW"
  | .WITH => "WITH"
  | .WITHIN => "WITHIN"
  | .WITHOUT => "WITHOUT"
  | .WITHOUT_ARRAY_WRAPPER => "WITHOUT_ARRAY_WRAPPER"
  | .WORK => "WORK"
  | .WRITE => "WRITE"
  | .XML => "XML"
  | .XOR => "XOR"
  | .YEAR => "YEAR"
  | .ZONE => "ZONE"

/-- Reserved words without a place in the grammar. -/
def others : List String :=
  ["ABORT", "ABS", "ALLOCATE", "ARCHIVE", "ARE", "ARRAY_MAX_CARDINALITY", "ASYMMETRIC", "ATOMIC",
   "AVG", "BEGIN_FRAME", "BEGIN_PARTITION", "BLOOMFILTER", "CALLED", "CARDINALITY", "CASCADED",
   "CEILING", "CHARACTER_LENGTH", "CHAR_LENGTH", "COALESCE", "COLLECT", "COMPRESSION", "CONDITION",
   "CONTAINS", "COPY_OPTIONS", "CORR", "CORRESPONDING", "COVAR_POP", "COVAR_SAMP", "CREDENTIALS",
   "CUME_DIST", "CURRENT_DEFAULT_TRANSFORM_GROUP", "CURRENT_PATH", "CURRENT_ROLE", "CURRENT_ROW",
   "CURRENT_SCHEMA", "CURRENT_TRANSFORM_GROUP_FOR_TYPE", "DELTA", "DENSE_RANK", "DEREF", "DETAIL",
   "DETERMINISTIC", "DISCONNECT", "DRY", "DYNAMIC", "EACH", "ELEMENT", "ENCRYPTION", "ENDPOINT",
   "END_FRAME", "END_PARTITION", "EQUALS", "EVERY", "EXEC", "EXP", "FAIL", "FILE", "FILES",
   "FILE_FORMAT", "FIRST_VALUE", "FRAME_ROW", "FREE", "FSCK", "FUSION", "GENERATE", "GEOGRAPHY",
   "GET", "HISTORY", "HOURS", "INDICATOR", "INTERSECTION", "JAR", "LAG", "LAST_VALUE", "LEAD",
   "LIKE_REGEX", "LN", "LOWER", "MEMBER", "METHOD", "MIN", "MOD", "MODIFIES", "MODULE", "MULTISET",
   "NATIONAL", "NCHAR", "NCLOB", "NEW", "NORMALIZE", "NTH_VALUE", "NTILE", "NULLIF",
   "OCCURRENCES_REGEX", "OCTET_LENGTH", "OLD", "OPEN", "OPTIMIZE", "OVERLAPS", "PARAMETER",
   "PATTERN", "PERCENTILE_CONT", "PERCENTILE_DISC", "PERCENT_RANK", "PERIOD", "PORTION",
   "POSITION_REGEX", "POWER", "PRECEDES", "RANK", "READS", "REF", "REFERENCING", "REGR_AVGX",
   "REGR_AVGY", "REGR_COUNT", "REGR_INTERCEPT", "REGR_R2", "REGR_SLOPE", "REGR_SXX", "REGR_SXY",
   "REGR_SYY", "REORG", "RESTART", "RESULT", "RETAIN", "ROW_NUMBER", "RUN", "SCOPE", "SEARCH",
   "SENSITIVE", "SOME", "SPECIFIC", "SPECIFICTYPE", "SQL", "SQLEXCEPTION", "SQLSTATE",
   "SQLWARNING", "SQRT", "STATIC", "STDDEV_POP", "STDDEV_SAMP", "STORAGE_INTEGRATION",
   "SUBMULTISET", "SUBSTRING_REGEX", "SUCCEEDS", "SUM", "SUPER", "SYMMETRIC", "SYSTEM",
   "SYSTEM_TIME", "SYSTEM_USER", "TABLESAMPLE", "TRANSLATE", "TRANSLATE_REGEX", "TRANSLATION",
   "TREAT", "TRIM_ARRAY", "UESCAPE", "UPPER", "URL", "VACUUM", "VALIDATION_MODE", "VALUE",
   "VALUE_OF", "VAR_POP", "VAR_SAMP", "VERSIONING", "WHENEVER", "WIDTH_BUCKET", "ZORDER",
   "END-EXEC"]

/-- The keyword that an unquoted text spells. -/
def ofText (text : List Char) : Keyword :=
  let word := Letters.upper text
  match all.find? fun k => k.spelling = word with
  | some k => k
  | none => if others.contains word then .reserved else .ordinary

/-- The spelling of keywords in a row. -/
def spellings (ks : List Keyword) : String :=
  " ".intercalate (ks.map spelling)

end Keyword

end QueryAudit.Sql
