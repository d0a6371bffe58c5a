/-!
The keywords of the SQL dialect. A word outside quotes is a keyword whatever the case of its
letters. The grammar gives a role to those that have a constructor of their own; the other listed
words are keywords without a role (`OTHER`), which still tells them from plain names.
-/

namespace GeoLayers.Sql

/-- The keywords that the grammar of expressions and queries tells apart. -/
inductive Keyword where
  | ABSENT | ALL | ANALYZE | AND | ANTI | ANY | ARRAY | AS | ASOF | AT | AUTO | BASE64 | BETWEEN
  | BIGDECIMAL | BIGINT | BIGNUMERIC | BINARY | BIT | BLOB | BOOL | BOOLEAN | BOTH | BOX | BROWSE
  | BY | BYTEA | BYTES | CASE | CAST | CEIL | CENTURY | CHAR | CHARACTER | CHARACTERS | CIRCLE
  | CLOB | CLUSTER | COLLATE | CONNECT | CONVERT | COUNT | CROSS | CURRENT | CURRENT_CATALOG
  | CURRENT_DATE | CURRENT_TIME | CURRENT_TIMESTAMP | CURRENT_USER | DATE | DATE32 | DATETIME
  | DATETIME64 | DAY | DAYOFWEEK | DAYOFYEAR | DAYS | DEC | DECADE | DECIMAL | DISTINCT
  | DISTRIBUTE | DIV | DOUBLE | DOW | DOY | ELEMENTS | ELSE | END | ENUM | ENUM16 | ENUM8 | EPOCH
  | ERROR | ESCAPE | EXCEPT | EXCLUDE | EXISTS | EXPLAIN | EXPLICIT | EXTRACT | FALSE | FETCH
  | FILTER | FIXEDSTRING | FLOAT | FLOAT32 | FLOAT4 | FLOAT64 | FLOAT8 | FLOOR | FN | FOLLOWING
  | FOR | FORMAT | FROM | FULL | GLOBAL | GROUP | GROUPS | HAVING | HOUR | HOURS | IGNORE | ILIKE
  | IN | INCLUDE_NULL_VALUES | INNER | INT | INT128 | INT16 | INT2 | INT256 | INT32 | INT4
  | INT64 | INT8 | INTEGER | INTERSECT | INTERVAL | INTO | IS | ISODOW | ISOWEEK | ISOYEAR | JOIN
  | JSON | JSONB | JULIAN | LARGE | LATERAL | LEADING | LEFT | LIKE | LIMIT | LINE | LOCALTIME
  | LOCALTIMESTAMP | LOCKED | LONGBLOB | LONGTEXT | LSEG | MATCH_CONDITION | MATCH_RECOGNIZE
  | MATERIALIZED | MAX | MEDIUMBLOB | MEDIUMINT | MEDIUMTEXT | MICROSECOND | MICROSECONDS
  | MILLENIUM | MILLENNIUM | MILLISECOND | MILLISECONDS | MINUS | MINUTE | MINUTES | MONTH
  | MONTHS | NAME | NANOSECOND | NANOSECONDS | NATURAL | NFC | NFD | NFKC | NFKD | NORMALIZED
  | NOT | NOWAIT | NULL | NULLS | NUMERIC | NVARCHAR | OBJECT | OCTETS | OF | OFFSET | ON
  | OPERATOR | OR | ORDER | ORDINALITY | OUTER | OVER | OVERFLOW | OVERLAPS | OVERLAY | PARTITION
  | PATH | PIVOT | PLACING | POINT | POLYGON | POSITION | PRECEDING | PRECISION | PREWHERE
  | QUALIFY | QUARTER | RANGE | RAW | REAL | RECURSIVE | REGCLASS | REGEXP | RESPECT | RETURNING
  | RIGHT | RLIKE | ROOT | ROW | ROWS | SAFE_CAST | SAMPLE | SECOND | SECONDS | SELECT | SEMI
  | SESSION_USER | SET | SETTINGS | SHARE | SIGNED | SIMILAR | SKIP | SMALLINT | SOME | SORT
  | START | STRING | SUBSTRING | TABLE | TABLESAMPLE | TEXT | THEN | TIME | TIMESTAMP
  | TIMESTAMPTZ | TIMETZ | TIMEZONE | TIMEZONE_ABBR | TIMEZONE_HOUR | TIMEZONE_MINUTE
  | TIMEZONE_REGION | TINYBLOB | TINYINT | TINYTEXT | TO | TOP | TRAILING | TRIGGER | TRIM | TRUE
  | TRUNCATE | TRY_CAST | TYPE | UINT128 | UINT16 | UINT256 | UINT32 | UINT64 | UINT8 | UNBOUNDED
  | UNION | UNKNOWN | UNNEST | UNPIVOT | UNSIGNED | UPDATE | USER | USING | UUID | VALUE | VALUES
  | VARBINARY | VARBIT | VARCHAR | VARYING | VIEW | WEEK | WEEKS | WHEN | WHERE | WINDOW | WITH
  | WITHIN | WITHOUT | WITHOUT_ARRAY_WRAPPER | XML | XOR | YEAR | YEARS | ZONE
  | OTHER
  deriving DecidableEq, Repr, Inhabited

/-- The spellings of the keywords that have a role. -/
def Keyword.table : List (String × Keyword) := [
  ("ABSENT", .ABSENT), ("ALL", .ALL), ("ANALYZE", .ANALYZE), ("AND", .AND), ("ANTI", .ANTI),
  ("ANY", .ANY), ("ARRAY", .ARRAY), ("AS", .AS), ("ASOF", .ASOF), ("AT", .AT), ("AUTO", .AUTO),
  ("BASE64", .BASE64), ("BETWEEN", .BETWEEN), ("BIGDECIMAL", .BIGDECIMAL), ("BIGINT", .BIGINT),
  ("BIGNUMERIC", .BIGNUMERIC), ("BINARY", .BINARY), ("BIT", .BIT), ("BLOB", .BLOB),
  ("BOOL", .BOOL), ("BOOLEAN", .BOOLEAN), ("BOTH", .BOTH), ("BOX", .BOX), ("BROWSE", .BROWSE),
  ("BY", .BY), ("BYTEA", .BYTEA), ("BYTES", .BYTES), ("CASE", .CASE), ("CAST", .CAST),
  ("CEIL", .CEIL), ("CENTURY", .CENTURY), ("CHAR", .CHAR), ("CHARACTER", .CHARACTER),
  ("CHARACTERS", .CHARACTERS), ("CIRCLE", .CIRCLE), ("CLOB", .CLOB), ("CLUSTER", .CLUSTER),
  ("COLLATE", .COLLATE), ("CONNECT", .CONNECT), ("CONVERT", .CONVERT), ("COUNT", .COUNT),
  ("CROSS", .CROSS), ("CURRENT", .CURRENT), ("CURRENT_CATALOG", .CURRENT_CATALOG),
  ("CURRENT_DATE", .CURRENT_DATE), ("CURRENT_TIME", .CURRENT_TIME),
  ("CURRENT_TIMESTAMP", .CURRENT_TIMESTAMP), ("CURRENT_USER", .CURRENT_USER), ("DATE", .DATE),
  ("DATE32", .DATE32), ("DATETIME", .DATETIME), ("DATETIME64", .DATETIME64), ("DAY", .DAY),
  ("DAYOFWEEK", .DAYOFWEEK), ("DAYOFYEAR", .DAYOFYEAR), ("DAYS", .DAYS), ("DEC", .DEC),
  ("DECADE", .DECADE), ("DECIMAL", .DECIMAL), ("DISTINCT", .DISTINCT),
  ("DISTRIBUTE", .DISTRIBUTE), ("DIV", .DIV), ("DOUBLE", .DOUBLE), ("DOW", .DOW), ("DOY", .DOY),
  ("ELEMENTS", .ELEMENTS), ("ELSE", .ELSE), ("END", .END), ("ENUM", .ENUM), ("ENUM16", .ENUM16),
  ("ENUM8", .ENUM8), ("EPOCH", .EPOCH), ("ERROR", .ERROR), ("ESCAPE", .ESCAPE),
  ("EXCEPT", .EXCEPT), ("EXCLUDE", .EXCLUDE), ("EXISTS", .EXISTS), ("EXPLAIN", .EXPLAIN),
  ("EXPLICIT", .EXPLICIT), ("EXTRACT", .EXTRACT), ("FALSE", .FALSE), ("FETCH", .FETCH),
  ("FILTER", .FILTER), ("FIXEDSTRING", .FIXEDSTRING), ("FLOAT", .FLOAT), ("FLOAT32", .FLOAT32),
  ("FLOAT4", .FLOAT4), ("FLOAT64", .FLOAT64), ("FLOAT8", .FLOAT8), ("FLOOR", .FLOOR),
  ("FN", .FN), ("FOLLOWING", .FOLLOWING), ("FOR", .FOR), ("FORMAT", .FORMAT), ("FROM", .FROM),
  ("FULL", .FULL), ("GLOBAL", .GLOBAL), ("GROUP", .GROUP), ("GROUPS", .GROUPS),
  ("HAVING", .HAVING), ("HOUR", .HOUR), ("HOURS", .HOURS), ("IGNORE", .IGNORE),
  ("ILIKE", .ILIKE), ("IN", .IN), ("INCLUDE_NULL_VALUES", .INCLUDE_NULL_VALUES),
  ("INNER", .INNER), ("INT", .INT), ("INT128", .INT128), ("INT16", .INT16), ("INT2", .INT2),
  ("INT256", .INT256), ("INT32", .INT32), ("INT4", .INT4), ("INT64", .INT64), ("INT8", .INT8),
  ("INTEGER", .INTEGER), ("INTERSECT", .INTERSECT), ("INTERVAL", .INTERVAL), ("INTO", .INTO),
  ("IS", .IS), ("ISODOW", .ISODOW), ("ISOWEEK", .ISOWEEK), ("ISOYEAR", .ISOYEAR),
  ("JOIN", .JOIN), ("JSON", .JSON), ("JSONB", .JSONB), ("JULIAN", .JULIAN), ("LARGE", .LARGE),
  ("LATERAL", .LATERAL), ("LEADING", .LEADING), ("LEFT", .LEFT), ("LIKE", .LIKE),
  ("LIMIT", .LIMIT), ("LINE", .LINE), ("LOCALTIME", .LOCALTIME),
  ("LOCALTIMESTAMP", .LOCALTIMESTAMP), ("LOCKED", .LOCKED), ("LONGBLOB", .LONGBLOB),
  ("LONGTEXT", .LONGTEXT), ("LSEG", .LSEG), ("MATCH_CONDITION", .MATCH_CONDITION),
  ("MATCH_RECOGNIZE", .MATCH_RECOGNIZE), ("MATERIALIZED", .MATERIALIZED), ("MAX", .MAX),
  ("MEDIUMBLOB", .MEDIUMBLOB), ("MEDIUMINT", .MEDIUMINT), ("MEDIUMTEXT", .MEDIUMTEXT),
  ("MICROSECOND", .MICROSECOND), ("MICROSECONDS", .MICROSECONDS), ("MILLENIUM", .MILLENIUM),
  ("MILLENNIUM", .MILLENNIUM), ("MILLISECOND", .MILLISECOND), ("MILLISECONDS", .MILLISECONDS),
  ("MINUS", .MINUS), ("MINUTE", .MINUTE), ("MINUTES", .MINUTES), ("MONTH", .MONTH),
  ("MONTHS", .MONTHS), ("NAME", .NAME), ("NANOSECOND", .NANOSECOND),
  ("NANOSECONDS", .NANOSECONDS), ("NATURAL", .NATURAL), ("NFC", .NFC), ("NFD", .NFD),
  ("NFKC", .NFKC), ("NFKD", .NFKD), ("NORMALIZED", .NORMALIZED), ("NOT", .NOT),
  ("NOWAIT", .NOWAIT), ("NULL", .NULL), ("NULLS", .NULLS), ("NUMERIC", .NUMERIC),
  ("NVARCHAR", .NVARCHAR), ("OBJECT", .OBJECT), ("OCTETS", .OCTETS), ("OF", .OF),
  ("OFFSET", .OFFSET), ("ON", .ON), ("OPERATOR", .OPERATOR), ("OR", .OR), ("ORDER", .ORDER),
  ("ORDINALITY", .ORDINALITY), ("OUTER", .OUTER), ("OVER", .OVER), ("OVERFLOW", .OVERFLOW),
  ("OVERLAPS", .OVERLAPS), ("OVERLAY", .OVERLAY), ("PARTITION", .PARTITION), ("PATH", .PATH),
  ("PIVOT", .PIVOT), ("PLACING", .PLACING), ("POINT", .POINT), ("POLYGON", .POLYGON),
  ("POSITION", .POSITION), ("PRECEDING", .PRECEDING), ("PRECISION", .PRECISION),
  ("PREWHERE", .PREWHERE), ("QUALIFY", .QUALIFY), ("QUARTER", .QUARTER), ("RANGE", .RANGE),
  ("RAW", .RAW), ("REAL", .REAL), ("RECURSIVE", .RECURSIVE), ("REGCLASS", .REGCLASS),
  ("REGEXP", .REGEXP), ("RESPECT", .RESPECT), ("RETURNING", .RETURNING), ("RIGHT", .RIGHT),
  ("RLIKE", .RLIKE), ("ROOT", .ROOT), ("ROW", .ROW), ("ROWS", .ROWS), ("SAFE_CAST", .SAFE_CAST),
  ("SAMPLE", .SAMPLE), ("SECOND", .SECOND), ("SECONDS", .SECONDS), ("SELECT", .SELECT),
  ("SEMI", .SEMI), ("SESSION_USER", .SESSION_USER), ("SET", .SET), ("SETTINGS", .SETTINGS),
  ("SHARE", .SHARE), ("SIGNED", .SIGNED), ("SIMILAR", .SIMILAR), ("SKIP", .SKIP),
  ("SMALLINT", .SMALLINT), ("SOME", .SOME), ("SORT", .SORT), ("START", .START),
  ("STRING", .STRING), ("SUBSTRING", .SUBSTRING), ("TABLE", .TABLE),
  ("TABLESAMPLE", .TABLESAMPLE), ("TEXT", .TEXT), ("THEN", .THEN), ("TIME", .TIME),
  ("TIMESTAMP", .TIMESTAMP), ("TIMESTAMPTZ", .TIMESTAMPTZ), ("TIMETZ", .TIMETZ),
  ("TIMEZONE", .TIMEZONE), ("TIMEZONE_ABBR", .TIMEZONE_ABBR), ("TIMEZONE_HOUR", .TIMEZONE_HOUR),
  ("TIMEZONE_MINUTE", .TIMEZONE_MINUTE), ("TIMEZONE_REGION", .TIMEZONE_REGION),
  ("TINYBLOB", .TINYBLOB), ("TINYINT", .TINYINT), ("TINYTEXT", .TINYTEXT), ("TO", .TO),
  ("TOP", .TOP), ("TRAILING", .TRAILING), ("TRIGGER", .TRIGGER), ("TRIM", .TRIM),
  ("TRUE", .TRUE), ("TRUNCATE", .TRUNCATE), ("TRY_CAST", .TRY_CAST), ("TYPE", .TYPE),
  ("UINT128", .UINT128), ("UINT16", .UINT16), ("UINT256", .UINT256), ("UINT32", .UINT32),
  ("UINT64", .UINT64), ("UINT8", .UINT8), ("UNBOUNDED", .UNBOUNDED), ("UNION", .UNION),
  ("UNKNOWN", .UNKNOWN), ("UNNEST", .UNNEST), ("UNPIVOT", .UNPIVOT), ("UNSIGNED", .UNSIGNED),
  ("UPDATE", .UPDATE), ("USER", .USER), ("USING", .USING), ("UUID", .UUID), ("VALUE", .VALUE),
  ("VALUES", .VALUES), ("VARBINARY", .VARBINARY), ("VARBIT", .VARBIT), ("VARCHAR", .VARCHAR),
  ("VARYING", .VARYING), ("VIEW", .VIEW), ("WEEK", .WEEK), ("WEEKS", .WEEKS), ("WHEN", .WHEN),
  ("WHERE", .WHERE), ("WINDOW", .WINDOW), ("WITH", .WITH), ("WITHIN", .WITHIN),
  ("WITHOUT", .WITHOUT), ("WITHOUT_ARRAY_WRAPPER", .WITHOUT_ARRAY_WRAPPER), ("XML", .XML),
  ("XOR", .XOR), ("YEAR", .YEAR), ("YEARS", .YEARS), ("ZONE", .ZONE)]

/-- The words that are keywords without a role in expressions and queries. -/
def Keyword.others : List String := [
  "ABORT", "ABS", "ABSOLUTE", "ACCEPTANYDATE", "ACCEPTINVCHARS", "ACCESS", "ACCOUNT", "ACTION",
  "ADD", "ADDQUOTES", "ADMIN", "AFTER", "AGAINST", "AGGREGATE", "AGGREGATION", "ALERT",
  "ALGORITHM", "ALIAS", "ALIGNMENT", "ALLOCATE", "ALLOWOVERWRITE", "ALTER", "ALWAYS",
  "APPLICATION", "APPLY", "APPLYBUDGET", "ARCHIVE", "ARE", "ARRAY_MAX_CARDINALITY", "ASC",
  "ASENSITIVE", "ASSERT", "ASYMMETRIC", "ATOMIC", "ATTACH", "AUDIT", "AUTHENTICATION",
  "AUTHORIZATION", "AUTOEXTEND_SIZE", "AUTOINCREMENT", "AUTO_INCREMENT", "AVG", "AVG_ROW_LENGTH",
  "AVRO", "BACKWARD", "BASE_LOCATION", "BEFORE", "BEGIN", "BEGIN_FRAME", "BEGIN_PARTITION",
  "BIND", "BINDING", "BLANKSASNULL", "BLOCK", "BLOOM", "BLOOMFILTER", "BRIN", "BTREE", "BUCKET",
  "BUCKETS", "BYPASSRLS", "BZIP2", "CACHE", "CALL", "CALLED", "CARDINALITY", "CASCADE",
  "CASCADED", "CASES", "CATALOG", "CATCH", "CEILING", "CHAIN", "CHANGE", "CHANGE_TRACKING",
  "CHANNEL", "CHARACTER_LENGTH", "CHARSET", "CHAR_LENGTH", "CHECK", "CHECKSUM", "CLEAR", "CLONE",
  "CLOSE", "CLUSTERED", "CLUSTERING", "COALESCE", "COLLATION", "COLLECT", "COLLECTION", "COLUMN",
  "COLUMNS", "COLUMNSTORE", "COMMENT", "COMMIT", "COMMITTED", "COMPATIBLE", "COMPRESS",
  "COMPRESSION", "COMPUPDATE", "COMPUTE", "CONCURRENTLY", "CONDITION", "CONFLICT", "CONNECTION",
  "CONNECTOR", "CONNECT_BY_ROOT", "CONSTRAINT", "CONTAINS", "CONTINUE", "COPY", "COPY_OPTIONS",
  "CORR", "CORRESPONDING", "COVAR_POP", "COVAR_SAMP", "CREATE", "CREATEDB", "CREATEROLE",
  "CREDENTIALS", "CSV", "CUBE", "CUME_DIST", "CURRENT_DEFAULT_TRANSFORM_GROUP", "CURRENT_PATH",
  "CURRENT_ROLE", "CURRENT_ROW", "CURRENT_SCHEMA", "CURRENT_TRANSFORM_GROUP_FOR_TYPE", "CURSOR",
  "CYCLE", "DATA", "DATABASE", "DATABASES", "DATA_RETENTION_TIME_IN_DAYS", "DCPROPERTIES",
  "DEALLOCATE", "DECLARE", "DEDUPLICATE", "DEFAULT", "DEFAULTS", "DEFAULT_DDL_COLLATION",
  "DEFERRABLE", "DEFERRED", "DEFINE", "DEFINED", "DEFINER", "DELAYED", "DELAY_KEY_WRITE",
  "DELETE", "DELIMITED", "DELIMITER", "DELTA", "DENSE_RANK", "DENY", "DEREF", "DESC", "DESCRIBE",
  "DETACH", "DETAIL", "DETERMINISTIC", "DIMENSIONS", "DIRECTORY", "DISABLE", "DISCARD",
  "DISCONNECT", "DO", "DOMAIN", "DROP", "DRY", "DUPLICATE", "DYNAMIC", "EACH", "ELEMENT",
  "ELSEIF", "EMPTY", "EMPTYASNULL", "ENABLE", "ENABLE_SCHEMA_EVOLUTION", "ENCODING", "ENCRYPTED",
  "ENCRYPTION", "ENDPOINT", "END_FRAME", "END_PARTITION", "ENFORCED", "ENGINE",
  "ENGINE_ATTRIBUTE", "EPHEMERAL", "EQUALS", "ESCAPED", "ESTIMATE", "EVENT", "EVERY", "EVOLVE",
  "EXCEPTION", "EXCHANGE", "EXCLUSIVE", "EXEC", "EXECUTE", "EXECUTION", "EXP", "EXPANSION",
  "EXPORT", "EXTENDED", "EXTENSION", "EXTERNAL", "EXTERNAL_VOLUME", "FAIL", "FAILOVER", "FAMILY",
  "FIELDS", "FILE", "FILES", "FILE_FORMAT", "FILL", "FIRST", "FIRST_VALUE", "FIXEDWIDTH",
  "FLATTEN", "FLUSH", "FORCE", "FORCE_NOT_NULL", "FORCE_NULL", "FORCE_QUOTE", "FOREIGN",
  "FORMATTED", "FORWARD", "FRAME_ROW", "FREE", "FREEZE", "FSCK", "FULFILLMENT", "FULLTEXT",
  "FUNCTION", "FUNCTIONS", "FUSION", "GENERAL", "GENERATE", "GENERATED", "GEOGRAPHY", "GET",
  "GIN", "GIST", "GRANT", "GRANTED", "GRANTS", "GRAPHVIZ", "GROUPING", "GZIP", "HASH", "HEADER",
  "HEAP", "HIGH_PRIORITY", "HISTORY", "HIVEVAR", "HOLD", "HOSTS", "HUGEINT", "ID", "IDENTITY",
  "IDENTITY_INSERT", "IDLE", "IF", "IMMEDIATE", "IMMUTABLE", "IMPORT", "INCLUDE", "INCREMENT",
  "INDEX", "INDICATOR", "INHERIT", "INHERITS", "INITIALLY", "INOUT", "INPATH", "INPLACE",
  "INPUT", "INPUTFORMAT", "INSENSITIVE", "INSERT", "INSERT_METHOD", "INSTALL", "INSTANT",
  "INSTEAD", "INTEGRATION", "INTERPOLATE", "INTERSECTION", "INVOKER", "IO", "ISOLATION", "ITEMS",
  "JAR", "JSONFILE", "JSON_TABLE", "KEY", "KEYS", "KEY_BLOCK_SIZE", "KILL", "LAG", "LANGUAGE",
  "LAST", "LAST_VALUE", "LEAD", "LEFTARG", "LEVEL", "LIKE_REGEX", "LINES", "LIST", "LISTEN",
  "LISTING", "LN", "LOAD", "LOCAL", "LOCATION", "LOCK", "LOG", "LOGIN", "LOGS", "LOWCARDINALITY",
  "LOWER", "LOW_PRIORITY", "LS", "MACRO", "MANAGE", "MANAGED", "MANAGEDLOCATION", "MAP",
  "MASKING", "MATCH", "MATCHED", "MATCHES", "MATERIALIZE", "MAXVALUE",
  "MAX_DATA_EXTENSION_TIME_IN_DAYS", "MAX_ROWS", "MEASURES", "MEMBER", "MERGE", "METADATA",
  "METHOD", "METRIC", "MIN", "MINVALUE", "MIN_ROWS", "MOD", "MODE", "MODIFIES", "MODIFY",
  "MODULE", "MONITOR", "MSCK", "MULTISET", "MUTATION", "NATIONAL", "NCHAR", "NCLOB", "NESTED",
  "NETWORK", "NEW", "NEXT", "NO", "NOBYPASSRLS", "NOCREATEDB", "NOCREATEROLE", "NOINHERIT",
  "NOLOGIN", "NONE", "NOORDER", "NOREPLICATION", "NORMALIZE", "NOSCAN", "NOSUPERUSER", "NOTHING",
  "NOTIFY", "NO_WRITE_TO_BINLOG", "NTH_VALUE", "NTILE", "NULLABLE", "NULLIF",
  "OCCURRENCES_REGEX", "OCTET_LENGTH", "OFF", "OFFSETS", "OLD", "OMIT", "ONE", "ONLY", "OPEN",
  "OPENJSON", "OPERATE", "OPTIMIZATION", "OPTIMIZE", "OPTIMIZED", "OPTIMIZER_COSTS", "OPTION",
  "OPTIONS", "ORC", "ORGANIZATION", "OUT", "OUTPUT", "OUTPUTFORMAT", "OVERRIDE", "OVERWRITE",
  "OWNED", "OWNER", "OWNERSHIP", "PACKAGE", "PACKAGES", "PACK_KEYS", "PARALLEL", "PARAMETER",
  "PARQUET", "PART", "PARTITIONED", "PARTITIONS", "PASSING", "PASSWORD", "PAST", "PATTERN",
  "PER", "PERCENT", "PERCENTILE_CONT", "PERCENTILE_DISC", "PERCENT_RANK", "PERIOD", "PERMISSIVE",
  "PERSISTENT", "PLAN", "PLANS", "POLICY", "POOL", "PORTION", "POSITION_REGEX", "POWER",
  "PRAGMA", "PRECEDES", "PREPARE", "PRESERVE", "PRIMARY", "PRIOR", "PRIVILEGES", "PROCEDURE",
  "PROFILE", "PROGRAM", "PROJECTION", "PUBLIC", "PURCHASE", "PURGE", "QUERY", "QUOTE", "RAISE",
  "RAISERROR", "RANK", "RCFILE", "READ", "READS", "READ_ONLY", "RECLUSTER", "REF", "REFERENCES",
  "REFERENCING", "RELATIVE", "RELAY", "RELEASE", "RELEASES", "REMOTE", "RENAME", "REORG",
  "REPAIR", "REPEATABLE", "REPLACE", "REPLICA", "REPLICATE", "REPLICATION", "RESET", "RESOLVE",
  "RESTART", "RESTRICT", "RESTRICTED", "RESTRICTIONS", "RESTRICTIVE", "RESULT", "RESULTSET",
  "RETAIN", "RETURN", "RETURNS", "REVOKE", "RIGHTARG", "RM", "ROLE", "ROLES", "ROLLBACK",
  "ROLLUP", "ROWID", "ROW_FORMAT", "ROW_NUMBER", "RULE", "RUN", "SAVEPOINT", "SCHEMA", "SCHEMAS",
  "SCOPE", "SCROLL", "SEARCH", "SECONDARY", "SECRET", "SECURITY", "SEED", "SENSITIVE",
  "SEPARATOR", "SEQUENCE", "SEQUENCEFILE", "SEQUENCES", "SERDE", "SERDEPROPERTIES",
  "SERIALIZABLE", "SERVER", "SERVICE", "SESSION", "SETERROR", "SETS", "SHARED", "SHARING",
  "SHOW", "SLOW", "SNAPSHOT", "SORTED", "SOURCE", "SPATIAL", "SPECIFIC", "SPECIFICTYPE", "SQL",
  "SQLEXCEPTION", "SQLSTATE", "SQLWARNING", "SQRT", "STABLE", "STAGE", "STARTS", "STATEMENT",
  "STATIC", "STATISTICS", "STATUPDATE", "STATUS", "STDDEV_POP", "STDDEV_SAMP", "STDIN", "STDOUT",
  "STEP", "STORAGE", "STORED", "STRICT", "STRUCT", "SUBMULTISET", "SUBSTRING_REGEX", "SUCCEEDS",
  "SUM", "SUPER", "SUPERUSER", "SUPPORT", "SUSPEND", "SWAP", "SYMMETRIC", "SYNC", "SYSTEM",
  "SYSTEM_TIME", "SYSTEM_USER", "TABLES", "TAG", "TARGET", "TBLPROPERTIES", "TEMP", "TEMPORARY",
  "TEMPTABLE", "TERMINATED", "TERSE", "TEXTFILE", "TIES", "TOTALS", "TRACE", "TRANSACTION",
  "TRANSIENT", "TRANSLATE", "TRANSLATE_REGEX", "TRANSLATION", "TREAT", "TREE", "TRIM_ARRAY",
  "TRUNCATECOLUMNS", "TRY", "TRY_CONVERT", "TUPLE", "UESCAPE", "UNCACHE", "UNCOMMITTED",
  "UNDEFINED", "UNFREEZE", "UNIQUE", "UNLISTEN", "UNLOAD", "UNLOCK", "UNLOGGED", "UNMATCHED",
  "UNSAFE", "UNSET", "UNTIL", "UPPER", "URL", "USAGE", "USE", "USER_RESOURCES", "VACUUM",
  "VALID", "VALIDATION_MODE", "VALUE_OF", "VARIABLES", "VAR_POP", "VAR_SAMP", "VERBOSE",
  "VERSION", "VERSIONING", "VERSIONS", "VIEWS", "VIRTUAL", "VOLATILE", "VOLUME", "WAREHOUSE",
  "WAREHOUSES", "WHENEVER", "WHILE", "WIDTH_BUCKET", "WORK", "WRITE", "XMLNAMESPACES",
  "XMLTABLE", "ZORDER", "ZSTD"]

/-- The keyword that a word in capitals spells. -/
def Keyword.ofCapitals? (word : String) : Option Keyword :=
  match Keyword.table.lookup word with
  | some k => some k
  | none => if Keyword.others.contains word then some .OTHER else none

end GeoLayers.Sql
