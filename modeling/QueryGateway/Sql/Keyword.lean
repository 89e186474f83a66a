/-! The keywords of the language.

Those that a rule of the grammar asks for are named each as it is spelled. The rest are one to
the grammar: words that it only has to tell from names. -/
namespace QueryGateway.Sql

/-- A keyword. Every one may also stand for a name where the grammar takes names. -/
inductive Keyword where
  | ABORT | ABSENT | ABSOLUTE | ACCEPTANYDATE | ACCEPTINVCHARS | ACCESS | ACCOUNT | ACTION | ADD
  | ADDQUOTES | ADMIN | AFTER | AGGREGATION | ALERT | ALGORITHM | ALIGNMENT | ALL | ALLOWOVERWRITE
  | ALTER | ALWAYS | ANALYZE | AND | ANTI | ANY | APPLICATION | APPLY | APPLYBUDGET | ARRAY | AS
  | ASC | ASENSITIVE | ASOF | ASSERT | AT | ATTACH | AUDIT | AUTHENTICATION | AUTHORIZATION
  | AUTHORIZATIONS | AUTO | AUTOEXTEND_SIZE | AUTOINCREMENT | AUTO_INCREMENT | AVG_ROW_LENGTH
  | AVRO | BACKWARD | BASE64 | BEFORE | BEGIN | BERNOULLI | BETWEEN | BIGDECIMAL | BIGINT
  | BIGNUMERIC | BINARY | BIND | BIT | BLANKSASNULL | BLOB | BLOCK | BOOL | BOOLEAN | BOOST | BOTH
  | BOX | BROWSE | BUCKET | BY | BYPASSRLS | BYTEA | BYTES | BZIP2 | CACHE | CALL | CALLED
  | CANONICAL | CASCADE | CASE | CASES | CAST | CATEGORY | CEIL | CENTURY | CHAIN | CHANGE | CHAR
  | CHARACTER | CHARACTERISTICS | CHARACTERS | CHARSET | CHECK | CHECKSUM | CIRCLE | CLASS
  | CLEANPATH | CLEAR | CLOB | CLONE | CLOSE | CLUSTER | CLUSTERING | COLLATABLE | COLLATE
  | COLLATION | COLLECTION | COLUMN | COLUMNS | COMMENT | COMMIT | COMMITTED | COMMUTATOR
  | COMPRESSION | COMPUPDATE | COMPUTE | CONCURRENTLY | CONFLICT | CONNECT | CONNECTION
  | CONNECTOR | CONSTRAINT | CONTINUE | CONVERT | COPY | COUNT | CREATE | CREATEDB | CREATEROLE
  | CREDENTIALS | CROSS | CSV | CUBE | CURRENT | CURRENT_CATALOG | CURRENT_DATE | CURRENT_TIME
  | CURRENT_TIMESTAMP | CURRENT_USER | CURSOR | CYCLE | DATA | DATABASE | DATABASES | DATE
  | DATE32 | DATEFORMAT | DATETIME | DATETIME64 | DAY | DAYS | DCPROPERTIES | DEALLOCATE | DEC
  | DECADE | DECIMAL | DECLARE | DEFAULT | DEFAULT_MFA_METHOD | DEFERRABLE | DEFERRED | DEFINED
  | DEFINER | DELAY_KEY_WRITE | DELEGATED | DELETE | DELIMITED | DELIMITER | DENY | DESC
  | DESCRIBE | DIRECTORY | DISABLE | DISCARD | DISTINCT | DISTRIBUTE | DIV | DO | DOMAIN | DOUBLE
  | DOW | DOY | DROP | DUO | DUPLICATE | EACH | ELEMENT | ELEMENTS | ELSE | ELSEIF | EMPTY
  | EMPTYASNULL | ENABLE | ENCODING | ENCRYPTED | ENCRYPTION | END | ENDPOINT | ENFORCED | ENGINE
  | ENGINE_ATTRIBUTE | ENROLL | ENUM | ENUM16 | ENUM8 | EPOCH | ERROR | ESCAPE | ESCAPED
  | ESTIMATE | EVENT | EVOLVE | EXCEPT | EXCHANGE | EXCLUDE | EXCLUSIVE | EXEC | EXECUTE
  | EXECUTION | EXISTS | EXPLAIN | EXPLICIT | EXPORT | EXTENDED | EXTENSION | EXTERNAL | EXTRACT
  | FAIL | FAILOVER | FALSE | FAMILY | FETCH | FIELDS | FILTER | FIRST | FIXEDSTRING | FIXEDWIDTH
  | FLOAT | FLOAT32 | FLOAT4 | FLOAT64 | FLOAT8 | FLOOR | FN | FOLLOWING | FOR | FORCE
  | FORCE_NOT_NULL | FORCE_NULL | FORCE_QUOTE | FOREIGN | FORMAT | FORMATTED | FORWARD | FREEZE
  | FROM | FULFILLMENT | FULL | FUNCTION | FUNCTIONS | FUTURE | GB | GENERATED | GLOBAL | GRANT
  | GRANTED | GRANTS | GRAPHVIZ | GROUP | GROUPING | GROUPS | GZIP | HASHES | HAVING | HEADER
  | HISTORY | HIVEVAR | HOLD | HOUR | HOURS | HUGEINT | IAM_ROLE | ICEBERG | IDENTITY | IF
  | IGNORE | IGNOREHEADER | ILIKE | IMMEDIATE | IMMUTABLE | IMPORT | IMPORTED | IN | INCLUDE
  | INCLUDE_NULL_VALUES | INCREMENT | INDEX | INHERIT | INHERITS | INITIALLY | INNER | INOUT
  | INPLACE | INPUT | INPUTFORMAT | INSENSITIVE | INSERT | INSERT_METHOD | INSTANT | INSTEAD | INT
  | INT128 | INT16 | INT2 | INT256 | INT32 | INT4 | INT64 | INT8 | INTEGER | INTEGRATION
  | INTERNALLENGTH | INTERSECT | INTERVAL | INTO | INVISIBLE | INVOKER | IS | ISODOW | ISOLATION
  | ISOYEAR | ITEMS | JOIN | JSON | JSONB | JSONFILE | JSON_TABLE | JULIAN | KEY | KEYS
  | KEY_BLOCK_SIZE | KILL | LANGUAGE | LARGE | LAST | LATERAL | LEADING | LEFT | LEFTARG | LEVEL
  | LIKE | LIMIT | LINE | LINES | LISTEN | LISTING | LOAD | LOCAL | LOCALTIME | LOCALTIMESTAMP
  | LOCATION | LOCK | LOCKED | LOG | LOGIN | LONGBLOB | LONGTEXT | LSEG | MAIN | MANAGE | MANAGED
  | MANAGEDLOCATION | MANIFEST | MAP | MASKING | MATCH | MATCHED | MATCH_CONDITION
  | MATCH_RECOGNIZE | MATERIALIZE | MATERIALIZED | MAX | MAXFILESIZE | MAXVALUE | MAX_ROWS | MB
  | MEDIUMBLOB | MEDIUMINT | MEDIUMTEXT | MEMBER | MERGE | MERGES | MESSAGE | METADATA | METHOD
  | METRIC | MFA | MICROSECOND | MICROSECONDS | MILLENIUM | MILLENNIUM | MILLISECOND
  | MILLISECONDS | MINUS | MINUTE | MINUTES | MINVALUE | MIN_ROWS | MODIFY | MONITOR | MONTH
  | MONTHS | MSCK | MULTIRANGE_TYPE_NAME | NAME | NAMES | NANOSECOND | NANOSECONDS | NATURAL
  | NEGATOR | NESTED | NETWORK | NEW | NEXT | NFC | NFD | NFKC | NFKD | NO | NOBYPASSRLS
  | NOCREATEDB | NOCREATEROLE | NOINHERIT | NOLOGIN | NONE | NOREPLICATION | NORMALIZED | NOSCAN
  | NOSUPERUSER | NOT | NOTHING | NOTIFY | NOTNULL | NOWAIT | NULL | NULLS | NUMERIC | NVARCHAR
  | OBJECT | OCTETS | OF | OFF | OFFSET | OLD | ON | ONLY | OPEN | OPENJSON | OPERATE | OPERATOR
  | OPTIMIZATION | OPTION | OPTIONS | OR | ORC | ORDER | ORDINALITY | ORGANIZATION | OTP | OUT
  | OUTER | OUTPUT | OUTPUTFORMAT | OVER | OVERFLOW | OVERLAPS | OVERLAY | OVERRIDE | OVERWRITE
  | OWNED | OWNER | OWNERSHIP | PACKAGE | PACKAGES | PACK_KEYS | PARALLEL | PARQUET | PARTIAL
  | PARTITION | PARTITIONED | PARTITIONS | PASSEDBYVALUE | PASSING | PASSKEY | PASSWORD | PATH
  | PERCENT | PERMISSIVE | PIVOT | PLACING | PLAIN | PLAN | PLANS | POINT | POLICY | POLYGON
  | POOL | POSITION | PRAGMA | PRECEDING | PRECISION | PREFERRED | PREPARE | PRESERVE | PRESET
  | PREWHERE | PRIMARY | PRINT | PRIOR | PRIVILEGES | PROCEDURE | PROGRAM | PROJECTION | PUBLIC
  | PURCHASE | PURGE | QUALIFY | QUARTER | QUERIES | QUERY | QUOTE | RAISE | RAISERROR | RANGE
  | RAW | RCFILE | READ | REAL | RECEIVE | RECLUSTER | RECURSIVE | REFERENCES | REFERENCING
  | REGCLASS | REGEXP | REGION | REINDEX | RELATIVE | RELEASE | RELEASES | REMOVE | REMOVEQUOTES
  | RENAME | REPAIR | REPEATABLE | REPLACE | REPLICA | REPLICATE | REPLICATION | RESET | RESOLVE
  | RESOURCE | RESPECT | RESTART | RESTRICT | RESTRICTED | RESTRICTIONS | RESTRICTIVE | RESUME
  | RETURN | RETURNING | RETURNS | REVOKE | RIGHT | RIGHTARG | RLIKE | ROLE | ROLLBACK | ROLLUP
  | ROOT | ROW | ROWGROUPSIZE | ROWID | ROWS | ROW_FORMAT | RULE | SAFE | SAFE_CAST | SAMPLE
  | SAVEPOINT | SCHEMA | SCHEMAS | SCROLL | SEARCH | SECOND | SECONDARY_ENGINE_ATTRIBUTE | SECONDS
  | SECRET | SECURE | SECURITY | SEED | SELECT | SEMI | SEND | SEQUENCE | SEQUENCEFILE | SEQUENCES
  | SERDE | SERDEPROPERTIES | SERIALIZABLE | SERVER | SERVICE | SESSION | SESSION_USER | SET
  | SETERROR | SETS | SETTINGS | SHARE | SHARED | SHARING | SHOW | SIGNED | SIMILAR | SIMPLE
  | SKIP | SMALLINT | SNAPSHOT | SOME | SORT | SOURCE | SQL | SRID | STABLE | STAGE | START
  | STARTS | STATEMENT | STATISTICS | STATS_AUTO_RECALC | STATS_PERSISTENT | STATS_SAMPLE_PAGES
  | STATUPDATE | STATUS | STDIN | STDOUT | STORAGE | STORED | STRAIGHT_JOIN | STREAM | STRICT
  | STRING | STRUCT | SUBSCRIPT | SUBSTR | SUBSTRING | SUBTYPE | SUBTYPE_DIFF | SUBTYPE_OPCLASS
  | SUPERUSER | SUPPORT | SUSPEND | SWAP | SYNC | SYSTEM | TABLE | TABLES | TABLESAMPLE
  | TABLESPACE | TAG | TARGET | TASK | TBLPROPERTIES | TEMP | TEMPORARY | TEMPTABLE | TERMINATED
  | TERSE | TEXT | TEXTFILE | THEN | TIES | TIME | TIMEFORMAT | TIMESTAMP | TIMESTAMPTZ
  | TIMESTAMP_NTZ | TIMETZ | TIMEZONE | TIMEZONE_HOUR | TIMEZONE_MINUTE | TINYBLOB | TINYINT
  | TINYTEXT | TO | TOP | TOTP | TRACE | TRADITIONAL | TRAILING | TRANSACTION | TRANSIENT | TREE
  | TRIGGER | TRIM | TRUE | TRUNCATE | TRUNCATECOLUMNS | TRY_CAST | TSQUERY | TSVECTOR | TYPE
  | TYPMOD_IN | TYPMOD_OUT | UBIGINT | UHUGEINT | UINT128 | UINT16 | UINT256 | UINT32 | UINT64
  | UINT8 | UNBOUNDED | UNCACHE | UNCOMMITTED | UNDEFINED | UNION | UNIQUE | UNKNOWN | UNLISTEN
  | UNLOAD | UNLOGGED | UNNEST | UNPIVOT | UNSAFE | UNSET | UNSIGNED | UNTIL | UPDATE | URL
  | USAGE | USE | USER | USING | USMALLINT | UTINYINT | UUID | VACUUM | VALID | VALIDATE | VALUE
  | VALUES | VARBINARY | VARBIT | VARCHAR | VARIABLE | VARIABLES | VARYING | VERBOSE | VERSION
  | VERSIONS | VIEW | VIEWS | VIRTUAL | VOLATILE | VOLUME | WAREHOUSE | WAREHOUSES | WEEK | WEEKS
  | WHEN | WHERE | WHILE | WINDOW | WITH | WITHIN | WITHOUT | WITHOUT_ARRAY_WRAPPER | WORK
  | WRAPPER | WRITE | XML | XMLNAMESPACES | XMLTABLE | XOR | YEAR | YEARS | ZONE | ZSTD | other
  deriving DecidableEq

namespace Keyword

/-- The keywords that have a name of their own, by their spelling in capitals. -/
def spellings : List (String × Keyword) :=
  [("ABORT", .ABORT), ("ABSENT", .ABSENT), ("ABSOLUTE", .ABSOLUTE),
   ("ACCEPTANYDATE", .ACCEPTANYDATE), ("ACCEPTINVCHARS", .ACCEPTINVCHARS), ("ACCESS", .ACCESS),
   ("ACCOUNT", .ACCOUNT), ("ACTION", .ACTION), ("ADD", .ADD), ("ADDQUOTES", .ADDQUOTES),
   ("ADMIN", .ADMIN), ("AFTER", .AFTER), ("AGGREGATION", .AGGREGATION), ("ALERT", .ALERT),
   ("ALGORITHM", .ALGORITHM), ("ALIGNMENT", .ALIGNMENT), ("ALL", .ALL),
   ("ALLOWOVERWRITE", .ALLOWOVERWRITE), ("ALTER", .ALTER), ("ALWAYS", .ALWAYS),
   ("ANALYZE", .ANALYZE), ("AND", .AND), ("ANTI", .ANTI), ("ANY", .ANY),
   ("APPLICATION", .APPLICATION), ("APPLY", .APPLY), ("APPLYBUDGET", .APPLYBUDGET),
   ("ARRAY", .ARRAY), ("AS", .AS), ("ASC", .ASC), ("ASENSITIVE", .ASENSITIVE), ("ASOF", .ASOF),
   ("ASSERT", .ASSERT), ("AT", .AT), ("ATTACH", .ATTACH), ("AUDIT", .AUDIT),
   ("AUTHENTICATION", .AUTHENTICATION), ("AUTHORIZATION", .AUTHORIZATION),
   ("AUTHORIZATIONS", .AUTHORIZATIONS), ("AUTO", .AUTO), ("AUTOEXTEND_SIZE", .AUTOEXTEND_SIZE),
   ("AUTOINCREMENT", .AUTOINCREMENT), ("AUTO_INCREMENT", .AUTO_INCREMENT),
   ("AVG_ROW_LENGTH", .AVG_ROW_LENGTH), ("AVRO", .AVRO), ("BACKWARD", .BACKWARD),
   ("BASE64", .BASE64), ("BEFORE", .BEFORE), ("BEGIN", .BEGIN), ("BERNOULLI", .BERNOULLI),
   ("BETWEEN", .BETWEEN), ("BIGDECIMAL", .BIGDECIMAL), ("BIGINT", .BIGINT),
   ("BIGNUMERIC", .BIGNUMERIC), ("BINARY", .BINARY), ("BIND", .BIND), ("BIT", .BIT),
   ("BLANKSASNULL", .BLANKSASNULL), ("BLOB", .BLOB), ("BLOCK", .BLOCK), ("BOOL", .BOOL),
   ("BOOLEAN", .BOOLEAN), ("BOOST", .BOOST), ("BOTH", .BOTH), ("BOX", .BOX), ("BROWSE", .BROWSE),
   ("BUCKET", .BUCKET), ("BY", .BY), ("BYPASSRLS", .BYPASSRLS), ("BYTEA", .BYTEA),
   ("BYTES", .BYTES), ("BZIP2", .BZIP2), ("CACHE", .CACHE), ("CALL", .CALL), ("CALLED", .CALLED),
   ("CANONICAL", .CANONICAL), ("CASCADE", .CASCADE), ("CASE", .CASE), ("CASES", .CASES),
   ("CAST", .CAST), ("CATEGORY", .CATEGORY), ("CEIL", .CEIL), ("CENTURY", .CENTURY),
   ("CHAIN", .CHAIN), ("CHANGE", .CHANGE), ("CHAR", .CHAR), ("CHARACTER", .CHARACTER),
   ("CHARACTERISTICS", .CHARACTERISTICS), ("CHARACTERS", .CHARACTERS), ("CHARSET", .CHARSET),
   ("CHECK", .CHECK), ("CHECKSUM", .CHECKSUM), ("CIRCLE", .CIRCLE), ("CLASS", .CLASS),
   ("CLEANPATH", .CLEANPATH), ("CLEAR", .CLEAR), ("CLOB", .CLOB), ("CLONE", .CLONE),
   ("CLOSE", .CLOSE), ("CLUSTER", .CLUSTER), ("CLUSTERING", .CLUSTERING),
   ("COLLATABLE", .COLLATABLE), ("COLLATE", .COLLATE), ("COLLATION", .COLLATION),
   ("COLLECTION", .COLLECTION), ("COLUMN", .COLUMN), ("COLUMNS", .COLUMNS),
   ("COMMENT", .COMMENT), ("COMMIT", .COMMIT), ("COMMITTED", .COMMITTED),
   ("COMMUTATOR", .COMMUTATOR), ("COMPRESSION", .COMPRESSION), ("COMPUPDATE", .COMPUPDATE),
   ("COMPUTE", .COMPUTE), ("CONCURRENTLY", .CONCURRENTLY), ("CONFLICT", .CONFLICT),
   ("CONNECT", .CONNECT), ("CONNECTION", .CONNECTION), ("CONNECTOR", .CONNECTOR),
   ("CONSTRAINT", .CONSTRAINT), ("CONTINUE", .CONTINUE), ("CONVERT", .CONVERT), ("COPY", .COPY),
   ("COUNT", .COUNT), ("CREATE", .CREATE), ("CREATEDB", .CREATEDB), ("CREATEROLE", .CREATEROLE),
   ("CREDENTIALS", .CREDENTIALS), ("CROSS", .CROSS), ("CSV", .CSV), ("CUBE", .CUBE),
   ("CURRENT", .CURRENT), ("CURRENT_CATALOG", .CURRENT_CATALOG), ("CURRENT_DATE", .CURRENT_DATE),
   ("CURRENT_TIME", .CURRENT_TIME), ("CURRENT_TIMESTAMP", .CURRENT_TIMESTAMP),
   ("CURRENT_USER", .CURRENT_USER), ("CURSOR", .CURSOR), ("CYCLE", .CYCLE), ("DATA", .DATA),
   ("DATABASE", .DATABASE), ("DATABASES", .DATABASES), ("DATE", .DATE), ("DATE32", .DATE32),
   ("DATEFORMAT", .DATEFORMAT), ("DATETIME", .DATETIME), ("DATETIME64", .DATETIME64),
   ("DAY", .DAY), ("DAYS", .DAYS), ("DCPROPERTIES", .DCPROPERTIES), ("DEALLOCATE", .DEALLOCATE),
   ("DEC", .DEC), ("DECADE", .DECADE), ("DECIMAL", .DECIMAL), ("DECLARE", .DECLARE),
   ("DEFAULT", .DEFAULT), ("DEFAULT_MFA_METHOD", .DEFAULT_MFA_METHOD),
   ("DEFERRABLE", .DEFERRABLE), ("DEFERRED", .DEFERRED), ("DEFINED", .DEFINED),
   ("DEFINER", .DEFINER), ("DELAY_KEY_WRITE", .DELAY_KEY_WRITE), ("DELEGATED", .DELEGATED),
   ("DELETE", .DELETE), ("DELIMITED", .DELIMITED), ("DELIMITER", .DELIMITER), ("DENY", .DENY),
   ("DESC", .DESC), ("DESCRIBE", .DESCRIBE), ("DIRECTORY", .DIRECTORY), ("DISABLE", .DISABLE),
   ("DISCARD", .DISCARD), ("DISTINCT", .DISTINCT), ("DISTRIBUTE", .DISTRIBUTE), ("DIV", .DIV),
   ("DO", .DO), ("DOMAIN", .DOMAIN), ("DOUBLE", .DOUBLE), ("DOW", .DOW), ("DOY", .DOY),
   ("DROP", .DROP), ("DUO", .DUO), ("DUPLICATE", .DUPLICATE), ("EACH", .EACH),
   ("ELEMENT", .ELEMENT), ("ELEMENTS", .ELEMENTS), ("ELSE", .ELSE), ("ELSEIF", .ELSEIF),
   ("EMPTY", .EMPTY), ("EMPTYASNULL", .EMPTYASNULL), ("ENABLE", .ENABLE),
   ("ENCODING", .ENCODING), ("ENCRYPTED", .ENCRYPTED), ("ENCRYPTION", .ENCRYPTION),
   ("END", .END), ("ENDPOINT", .ENDPOINT), ("ENFORCED", .ENFORCED), ("ENGINE", .ENGINE),
   ("ENGINE_ATTRIBUTE", .ENGINE_ATTRIBUTE), ("ENROLL", .ENROLL), ("ENUM", .ENUM),
   ("ENUM16", .ENUM16), ("ENUM8", .ENUM8), ("EPOCH", .EPOCH), ("ERROR", .ERROR),
   ("ESCAPE", .ESCAPE), ("ESCAPED", .ESCAPED), ("ESTIMATE", .ESTIMATE), ("EVENT", .EVENT),
   ("EVOLVE", .EVOLVE), ("EXCEPT", .EXCEPT), ("EXCHANGE", .EXCHANGE), ("EXCLUDE", .EXCLUDE),
   ("EXCLUSIVE", .EXCLUSIVE), ("EXEC", .EXEC), ("EXECUTE", .EXECUTE), ("EXECUTION", .EXECUTION),
   ("EXISTS", .EXISTS), ("EXPLAIN", .EXPLAIN), ("EXPLICIT", .EXPLICIT), ("EXPORT", .EXPORT),
   ("EXTENDED", .EXTENDED), ("EXTENSION", .EXTENSION), ("EXTERNAL", .EXTERNAL),
   ("EXTRACT", .EXTRACT), ("FAIL", .FAIL), ("FAILOVER", .FAILOVER), ("FALSE", .FALSE),
   ("FAMILY", .FAMILY), ("FETCH", .FETCH), ("FIELDS", .FIELDS), ("FILTER", .FILTER),
   ("FIRST", .FIRST), ("FIXEDSTRING", .FIXEDSTRING), ("FIXEDWIDTH", .FIXEDWIDTH),
   ("FLOAT", .FLOAT), ("FLOAT32", .FLOAT32), ("FLOAT4", .FLOAT4), ("FLOAT64", .FLOAT64),
   ("FLOAT8", .FLOAT8), ("FLOOR", .FLOOR), ("FN", .FN), ("FOLLOWING", .FOLLOWING), ("FOR", .FOR),
   ("FORCE", .FORCE), ("FORCE_NOT_NULL", .FORCE_NOT_NULL), ("FORCE_NULL", .FORCE_NULL),
   ("FORCE_QUOTE", .FORCE_QUOTE), ("FOREIGN", .FOREIGN), ("FORMAT", .FORMAT),
   ("FORMATTED", .FORMATTED), ("FORWARD", .FORWARD), ("FREEZE", .FREEZE), ("FROM", .FROM),
   ("FULFILLMENT", .FULFILLMENT), ("FULL", .FULL), ("FUNCTION", .FUNCTION),
   ("FUNCTIONS", .FUNCTIONS), ("FUTURE", .FUTURE), ("GB", .GB), ("GENERATED", .GENERATED),
   ("GLOBAL", .GLOBAL), ("GRANT", .GRANT), ("GRANTED", .GRANTED), ("GRANTS", .GRANTS),
   ("GRAPHVIZ", .GRAPHVIZ), ("GROUP", .GROUP), ("GROUPING", .GROUPING), ("GROUPS", .GROUPS),
   ("GZIP", .GZIP), ("HASHES", .HASHES), ("HAVING", .HAVING), ("HEADER", .HEADER),
   ("HISTORY", .HISTORY), ("HIVEVAR", .HIVEVAR), ("HOLD", .HOLD), ("HOUR", .HOUR),
   ("HOURS", .HOURS), ("HUGEINT", .HUGEINT), ("IAM_ROLE", .IAM_ROLE), ("ICEBERG", .ICEBERG),
   ("IDENTITY", .IDENTITY), ("IF", .IF), ("IGNORE", .IGNORE), ("IGNOREHEADER", .IGNOREHEADER),
   ("ILIKE", .ILIKE), ("IMMEDIATE", .IMMEDIATE), ("IMMUTABLE", .IMMUTABLE), ("IMPORT", .IMPORT),
   ("IMPORTED", .IMPORTED), ("IN", .IN), ("INCLUDE", .INCLUDE),
   ("INCLUDE_NULL_VALUES", .INCLUDE_NULL_VALUES), ("INCREMENT", .INCREMENT), ("INDEX", .INDEX),
   ("INHERIT", .INHERIT), ("INHERITS", .INHERITS), ("INITIALLY", .INITIALLY), ("INNER", .INNER),
   ("INOUT", .INOUT), ("INPLACE", .INPLACE), ("INPUT", .INPUT), ("INPUTFORMAT", .INPUTFORMAT),
   ("INSENSITIVE", .INSENSITIVE), ("INSERT", .INSERT), ("INSERT_METHOD", .INSERT_METHOD),
   ("INSTANT", .INSTANT), ("INSTEAD", .INSTEAD), ("INT", .INT), ("INT128", .INT128),
   ("INT16", .INT16), ("INT2", .INT2), ("INT256", .INT256), ("INT32", .INT32), ("INT4", .INT4),
   ("INT64", .INT64), ("INT8", .INT8), ("INTEGER", .INTEGER), ("INTEGRATION", .INTEGRATION),
   ("INTERNALLENGTH", .INTERNALLENGTH), ("INTERSECT", .INTERSECT), ("INTERVAL", .INTERVAL),
   ("INTO", .INTO), ("INVISIBLE", .INVISIBLE), ("INVOKER", .INVOKER), ("IS", .IS),
   ("ISODOW", .ISODOW), ("ISOLATION", .ISOLATION), ("ISOYEAR", .ISOYEAR), ("ITEMS", .ITEMS),
   ("JOIN", .JOIN), ("JSON", .JSON), ("JSONB", .JSONB), ("JSONFILE", .JSONFILE),
   ("JSON_TABLE", .JSON_TABLE), ("JULIAN", .JULIAN), ("KEY", .KEY), ("KEYS", .KEYS),
   ("KEY_BLOCK_SIZE", .KEY_BLOCK_SIZE), ("KILL", .KILL), ("LANGUAGE", .LANGUAGE),
   ("LARGE", .LARGE), ("LAST", .LAST), ("LATERAL", .LATERAL), ("LEADING", .LEADING),
   ("LEFT", .LEFT), ("LEFTARG", .LEFTARG), ("LEVEL", .LEVEL), ("LIKE", .LIKE), ("LIMIT", .LIMIT),
   ("LINE", .LINE), ("LINES", .LINES), ("LISTEN", .LISTEN), ("LISTING", .LISTING),
   ("LOAD", .LOAD), ("LOCAL", .LOCAL), ("LOCALTIME", .LOCALTIME),
   ("LOCALTIMESTAMP", .LOCALTIMESTAMP), ("LOCATION", .LOCATION), ("LOCK", .LOCK),
   ("LOCKED", .LOCKED), ("LOG", .LOG), ("LOGIN", .LOGIN), ("LONGBLOB", .LONGBLOB),
   ("LONGTEXT", .LONGTEXT), ("LSEG", .LSEG), ("MAIN", .MAIN), ("MANAGE", .MANAGE),
   ("MANAGED", .MANAGED), ("MANAGEDLOCATION", .MANAGEDLOCATION), ("MANIFEST", .MANIFEST),
   ("MAP", .MAP), ("MASKING", .MASKING), ("MATCH", .MATCH), ("MATCHED", .MATCHED),
   ("MATCH_CONDITION", .MATCH_CONDITION), ("MATCH_RECOGNIZE", .MATCH_RECOGNIZE),
   ("MATERIALIZE", .MATERIALIZE), ("MATERIALIZED", .MATERIALIZED), ("MAX", .MAX),
   ("MAXFILESIZE", .MAXFILESIZE), ("MAXVALUE", .MAXVALUE), ("MAX_ROWS", .MAX_ROWS), ("MB", .MB),
   ("MEDIUMBLOB", .MEDIUMBLOB), ("MEDIUMINT", .MEDIUMINT), ("MEDIUMTEXT", .MEDIUMTEXT),
   ("MEMBER", .MEMBER), ("MERGE", .MERGE), ("MERGES", .MERGES), ("MESSAGE", .MESSAGE),
   ("METADATA", .METADATA), ("METHOD", .METHOD), ("METRIC", .METRIC), ("MFA", .MFA),
   ("MICROSECOND", .MICROSECOND), ("MICROSECONDS", .MICROSECONDS), ("MILLENIUM", .MILLENIUM),
   ("MILLENNIUM", .MILLENNIUM), ("MILLISECOND", .MILLISECOND), ("MILLISECONDS", .MILLISECONDS),
   ("MINUS", .MINUS), ("MINUTE", .MINUTE), ("MINUTES", .MINUTES), ("MINVALUE", .MINVALUE),
   ("MIN_ROWS", .MIN_ROWS), ("MODIFY", .MODIFY), ("MONITOR", .MONITOR), ("MONTH", .MONTH),
   ("MONTHS", .MONTHS), ("MSCK", .MSCK), ("MULTIRANGE_TYPE_NAME", .MULTIRANGE_TYPE_NAME),
   ("NAME", .NAME), ("NAMES", .NAMES), ("NANOSECOND", .NANOSECOND),
   ("NANOSECONDS", .NANOSECONDS), ("NATURAL", .NATURAL), ("NEGATOR", .NEGATOR),
   ("NESTED", .NESTED), ("NETWORK", .NETWORK), ("NEW", .NEW), ("NEXT", .NEXT), ("NFC", .NFC),
   ("NFD", .NFD), ("NFKC", .NFKC), ("NFKD", .NFKD), ("NO", .NO), ("NOBYPASSRLS", .NOBYPASSRLS),
   ("NOCREATEDB", .NOCREATEDB), ("NOCREATEROLE", .NOCREATEROLE), ("NOINHERIT", .NOINHERIT),
   ("NOLOGIN", .NOLOGIN), ("NONE", .NONE), ("NOREPLICATION", .NOREPLICATION),
   ("NORMALIZED", .NORMALIZED), ("NOSCAN", .NOSCAN), ("NOSUPERUSER", .NOSUPERUSER),
   ("NOT", .NOT), ("NOTHING", .NOTHING), ("NOTIFY", .NOTIFY), ("NOTNULL", .NOTNULL),
   ("NOWAIT", .NOWAIT), ("NULL", .NULL), ("NULLS", .NULLS), ("NUMERIC", .NUMERIC),
   ("NVARCHAR", .NVARCHAR), ("OBJECT", .OBJECT), ("OCTETS", .OCTETS), ("OF", .OF), ("OFF", .OFF),
   ("OFFSET", .OFFSET), ("OLD", .OLD), ("ON", .ON), ("ONLY", .ONLY), ("OPEN", .OPEN),
   ("OPENJSON", .OPENJSON), ("OPERATE", .OPERATE), ("OPERATOR", .OPERATOR),
   ("OPTIMIZATION", .OPTIMIZATION), ("OPTION", .OPTION), ("OPTIONS", .OPTIONS), ("OR", .OR),
   ("ORC", .ORC), ("ORDER", .ORDER), ("ORDINALITY", .ORDINALITY),
   ("ORGANIZATION", .ORGANIZATION), ("OTP", .OTP), ("OUT", .OUT), ("OUTER", .OUTER),
   ("OUTPUT", .OUTPUT), ("OUTPUTFORMAT", .OUTPUTFORMAT), ("OVER", .OVER),
   ("OVERFLOW", .OVERFLOW), ("OVERLAPS", .OVERLAPS), ("OVERLAY", .OVERLAY),
   ("OVERRIDE", .OVERRIDE), ("OVERWRITE", .OVERWRITE), ("OWNED", .OWNED), ("OWNER", .OWNER),
   ("OWNERSHIP", .OWNERSHIP), ("PACKAGE", .PACKAGE), ("PACKAGES", .PACKAGES),
   ("PACK_KEYS", .PACK_KEYS), ("PARALLEL", .PARALLEL), ("PARQUET", .PARQUET),
   ("PARTIAL", .PARTIAL), ("PARTITION", .PARTITION), ("PARTITIONED", .PARTITIONED),
   ("PARTITIONS", .PARTITIONS), ("PASSEDBYVALUE", .PASSEDBYVALUE), ("PASSING", .PASSING),
   ("PASSKEY", .PASSKEY), ("PASSWORD", .PASSWORD), ("PATH", .PATH), ("PERCENT", .PERCENT),
   ("PERMISSIVE", .PERMISSIVE), ("PIVOT", .PIVOT), ("PLACING", .PLACING), ("PLAIN", .PLAIN),
   ("PLAN", .PLAN), ("PLANS", .PLANS), ("POINT", .POINT), ("POLICY", .POLICY),
   ("POLYGON", .POLYGON), ("POOL", .POOL), ("POSITION", .POSITION), ("PRAGMA", .PRAGMA),
   ("PRECEDING", .PRECEDING), ("PRECISION", .PRECISION), ("PREFERRED", .PREFERRED),
   ("PREPARE", .PREPARE), ("PRESERVE", .PRESERVE), ("PRESET", .PRESET), ("PREWHERE", .PREWHERE),
   ("PRIMARY", .PRIMARY), ("PRINT", .PRINT), ("PRIOR", .PRIOR), ("PRIVILEGES", .PRIVILEGES),
   ("PROCEDURE", .PROCEDURE), ("PROGRAM", .PROGRAM), ("PROJECTION", .PROJECTION),
   ("PUBLIC", .PUBLIC), ("PURCHASE", .PURCHASE), ("PURGE", .PURGE), ("QUALIFY", .QUALIFY),
   ("QUARTER", .QUARTER), ("QUERIES", .QUERIES), ("QUERY", .QUERY), ("QUOTE", .QUOTE),
   ("RAISE", .RAISE), ("RAISERROR", .RAISERROR), ("RANGE", .RANGE), ("RAW", .RAW),
   ("RCFILE", .RCFILE), ("READ", .READ), ("REAL", .REAL), ("RECEIVE", .RECEIVE),
   ("RECLUSTER", .RECLUSTER), ("RECURSIVE", .RECURSIVE), ("REFERENCES", .REFERENCES),
   ("REFERENCING", .REFERENCING), ("REGCLASS", .REGCLASS), ("REGEXP", .REGEXP),
   ("REGION", .REGION), ("REINDEX", .REINDEX), ("RELATIVE", .RELATIVE), ("RELEASE", .RELEASE),
   ("RELEASES", .RELEASES), ("REMOVE", .REMOVE), ("REMOVEQUOTES", .REMOVEQUOTES),
   ("RENAME", .RENAME), ("REPAIR", .REPAIR), ("REPEATABLE", .REPEATABLE), ("REPLACE", .REPLACE),
   ("REPLICA", .REPLICA), ("REPLICATE", .REPLICATE), ("REPLICATION", .REPLICATION),
   ("RESET", .RESET), ("RESOLVE", .RESOLVE), ("RESOURCE", .RESOURCE), ("RESPECT", .RESPECT),
   ("RESTART", .RESTART), ("RESTRICT", .RESTRICT), ("RESTRICTED", .RESTRICTED),
   ("RESTRICTIONS", .RESTRICTIONS), ("RESTRICTIVE", .RESTRICTIVE), ("RESUME", .RESUME),
   ("RETURN", .RETURN), ("RETURNING", .RETURNING), ("RETURNS", .RETURNS), ("REVOKE", .REVOKE),
   ("RIGHT", .RIGHT), ("RIGHTARG", .RIGHTARG), ("RLIKE", .RLIKE), ("ROLE", .ROLE),
   ("ROLLBACK", .ROLLBACK), ("ROLLUP", .ROLLUP), ("ROOT", .ROOT), ("ROW", .ROW),
   ("ROWGROUPSIZE", .ROWGROUPSIZE), ("ROWID", .ROWID), ("ROWS", .ROWS),
   ("ROW_FORMAT", .ROW_FORMAT), ("RULE", .RULE), ("SAFE", .SAFE), ("SAFE_CAST", .SAFE_CAST),
   ("SAMPLE", .SAMPLE), ("SAVEPOINT", .SAVEPOINT), ("SCHEMA", .SCHEMA), ("SCHEMAS", .SCHEMAS),
   ("SCROLL", .SCROLL), ("SEARCH", .SEARCH), ("SECOND", .SECOND),
   ("SECONDARY_ENGINE_ATTRIBUTE", .SECONDARY_ENGINE_ATTRIBUTE), ("SECONDS", .SECONDS),
   ("SECRET", .SECRET), ("SECURE", .SECURE), ("SECURITY", .SECURITY), ("SEED", .SEED),
   ("SELECT", .SELECT), ("SEMI", .SEMI), ("SEND", .SEND), ("SEQUENCE", .SEQUENCE),
   ("SEQUENCEFILE", .SEQUENCEFILE), ("SEQUENCES", .SEQUENCES), ("SERDE", .SERDE),
   ("SERDEPROPERTIES", .SERDEPROPERTIES), ("SERIALIZABLE", .SERIALIZABLE), ("SERVER", .SERVER),
   ("SERVICE", .SERVICE), ("SESSION", .SESSION), ("SESSION_USER", .SESSION_USER), ("SET", .SET),
   ("SETERROR", .SETERROR), ("SETS", .SETS), ("SETTINGS", .SETTINGS), ("SHARE", .SHARE),
   ("SHARED", .SHARED), ("SHARING", .SHARING), ("SHOW", .SHOW), ("SIGNED", .SIGNED),
   ("SIMILAR", .SIMILAR), ("SIMPLE", .SIMPLE), ("SKIP", .SKIP), ("SMALLINT", .SMALLINT),
   ("SNAPSHOT", .SNAPSHOT), ("SOME", .SOME), ("SORT", .SORT), ("SOURCE", .SOURCE), ("SQL", .SQL),
   ("SRID", .SRID), ("STABLE", .STABLE), ("STAGE", .STAGE), ("START", .START),
   ("STARTS", .STARTS), ("STATEMENT", .STATEMENT), ("STATISTICS", .STATISTICS),
   ("STATS_AUTO_RECALC", .STATS_AUTO_RECALC), ("STATS_PERSISTENT", .STATS_PERSISTENT),
   ("STATS_SAMPLE_PAGES", .STATS_SAMPLE_PAGES), ("STATUPDATE", .STATUPDATE), ("STATUS", .STATUS),
   ("STDIN", .STDIN), ("STDOUT", .STDOUT), ("STORAGE", .STORAGE), ("STORED", .STORED),
   ("STRAIGHT_JOIN", .STRAIGHT_JOIN), ("STREAM", .STREAM), ("STRICT", .STRICT),
   ("STRING", .STRING), ("STRUCT", .STRUCT), ("SUBSCRIPT", .SUBSCRIPT), ("SUBSTR", .SUBSTR),
   ("SUBSTRING", .SUBSTRING), ("SUBTYPE", .SUBTYPE), ("SUBTYPE_DIFF", .SUBTYPE_DIFF),
   ("SUBTYPE_OPCLASS", .SUBTYPE_OPCLASS), ("SUPERUSER", .SUPERUSER), ("SUPPORT", .SUPPORT),
   ("SUSPEND", .SUSPEND), ("SWAP", .SWAP), ("SYNC", .SYNC), ("SYSTEM", .SYSTEM),
   ("TABLE", .TABLE), ("TABLES", .TABLES), ("TABLESAMPLE", .TABLESAMPLE),
   ("TABLESPACE", .TABLESPACE), ("TAG", .TAG), ("TARGET", .TARGET), ("TASK", .TASK),
   ("TBLPROPERTIES", .TBLPROPERTIES), ("TEMP", .TEMP), ("TEMPORARY", .TEMPORARY),
   ("TEMPTABLE", .TEMPTABLE), ("TERMINATED", .TERMINATED), ("TERSE", .TERSE), ("TEXT", .TEXT),
   ("TEXTFILE", .TEXTFILE), ("THEN", .THEN), ("TIES", .TIES), ("TIME", .TIME),
   ("TIMEFORMAT", .TIMEFORMAT), ("TIMESTAMP", .TIMESTAMP), ("TIMESTAMPTZ", .TIMESTAMPTZ),
   ("TIMESTAMP_NTZ", .TIMESTAMP_NTZ), ("TIMETZ", .TIMETZ), ("TIMEZONE", .TIMEZONE),
   ("TIMEZONE_HOUR", .TIMEZONE_HOUR), ("TIMEZONE_MINUTE", .TIMEZONE_MINUTE),
   ("TINYBLOB", .TINYBLOB), ("TINYINT", .TINYINT), ("TINYTEXT", .TINYTEXT), ("TO", .TO),
   ("TOP", .TOP), ("TOTP", .TOTP), ("TRACE", .TRACE), ("TRADITIONAL", .TRADITIONAL),
   ("TRAILING", .TRAILING), ("TRANSACTION", .TRANSACTION), ("TRANSIENT", .TRANSIENT),
   ("TREE", .TREE), ("TRIGGER", .TRIGGER), ("TRIM", .TRIM), ("TRUE", .TRUE),
   ("TRUNCATE", .TRUNCATE), ("TRUNCATECOLUMNS", .TRUNCATECOLUMNS), ("TRY_CAST", .TRY_CAST),
   ("TSQUERY", .TSQUERY), ("TSVECTOR", .TSVECTOR), ("TYPE", .TYPE), ("TYPMOD_IN", .TYPMOD_IN),
   ("TYPMOD_OUT", .TYPMOD_OUT), ("UBIGINT", .UBIGINT), ("UHUGEINT", .UHUGEINT),
   ("UINT128", .UINT128), ("UINT16", .UINT16), ("UINT256", .UINT256), ("UINT32", .UINT32),
   ("UINT64", .UINT64), ("UINT8", .UINT8), ("UNBOUNDED", .UNBOUNDED), ("UNCACHE", .UNCACHE),
   ("UNCOMMITTED", .UNCOMMITTED), ("UNDEFINED", .UNDEFINED), ("UNION", .UNION),
   ("UNIQUE", .UNIQUE), ("UNKNOWN", .UNKNOWN), ("UNLISTEN", .UNLISTEN), ("UNLOAD", .UNLOAD),
   ("UNLOGGED", .UNLOGGED), ("UNNEST", .UNNEST), ("UNPIVOT", .UNPIVOT), ("UNSAFE", .UNSAFE),
   ("UNSET", .UNSET), ("UNSIGNED", .UNSIGNED), ("UNTIL", .UNTIL), ("UPDATE", .UPDATE),
   ("URL", .URL), ("USAGE", .USAGE), ("USE", .USE), ("USER", .USER), ("USING", .USING),
   ("USMALLINT", .USMALLINT), ("UTINYINT", .UTINYINT), ("UUID", .UUID), ("VACUUM", .VACUUM),
   ("VALID", .VALID), ("VALIDATE", .VALIDATE), ("VALUE", .VALUE), ("VALUES", .VALUES),
   ("VARBINARY", .VARBINARY), ("VARBIT", .VARBIT), ("VARCHAR", .VARCHAR),
   ("VARIABLE", .VARIABLE), ("VARIABLES", .VARIABLES), ("VARYING", .VARYING),
   ("VERBOSE", .VERBOSE), ("VERSION", .VERSION), ("VERSIONS", .VERSIONS), ("VIEW", .VIEW),
   ("VIEWS", .VIEWS), ("VIRTUAL", .VIRTUAL), ("VOLATILE", .VOLATILE), ("VOLUME", .VOLUME),
   ("WAREHOUSE", .WAREHOUSE), ("WAREHOUSES", .WAREHOUSES), ("WEEK", .WEEK), ("WEEKS", .WEEKS),
   ("WHEN", .WHEN), ("WHERE", .WHERE), ("WHILE", .WHILE), ("WINDOW", .WINDOW), ("WITH", .WITH),
   ("WITHIN", .WITHIN), ("WITHOUT", .WITHOUT), ("WITHOUT_ARRAY_WRAPPER", .WITHOUT_ARRAY_WRAPPER),
   ("WORK", .WORK), ("WRAPPER", .WRAPPER), ("WRITE", .WRITE), ("XML", .XML),
   ("XMLNAMESPACES", .XMLNAMESPACES), ("XMLTABLE", .XMLTABLE), ("XOR", .XOR), ("YEAR", .YEAR),
   ("YEARS", .YEARS), ("ZONE", .ZONE), ("ZSTD", .ZSTD)]

/-- The spellings of all other keywords. -/
def otherSpellings : List String :=
  ["ABS", "AGAINST", "AGGREGATE", "ALIAS", "ALLOCATE", "ARCHIVE", "ARE", "ARRAY_MAX_CARDINALITY",
   "ASYMMETRIC", "ATOMIC", "AVG", "BACKUP", "BASE_LOCATION", "BEGIN_FRAME", "BEGIN_PARTITION",
   "BINDING", "BLOOM", "BLOOMFILTER", "BRIN", "BTREE", "BUCKETS", "CARDINALITY", "CASCADED",
   "CATALOG", "CATALOG_SYNC", "CATALOG_SYNC_NAMESPACE_FLATTEN_DELIMITER",
   "CATALOG_SYNC_NAMESPACE_MODE", "CATCH", "CEILING", "CHANGE_TRACKING", "CHANNEL",
   "CHARACTER_LENGTH", "CHAR_LENGTH", "CLUSTERED", "COALESCE", "COLLECT", "COLUMNSTORE",
   "COMPATIBLE", "CONDITION", "CONNECT_BY_ROOT", "CONTAINS", "COPY_OPTIONS", "CORR",
   "CORRESPONDING", "COVAR_POP", "COVAR_SAMP", "CUME_DIST", "CURRENT_DEFAULT_TRANSFORM_GROUP",
   "CURRENT_PATH", "CURRENT_ROLE", "CURRENT_ROW", "CURRENT_SCHEMA",
   "CURRENT_TRANSFORM_GROUP_FOR_TYPE", "DATA_RETENTION_TIME_IN_DAYS", "DAYOFWEEK", "DAYOFYEAR",
   "DEDUPLICATE", "DEFAULTS", "DEFAULT_DDL_COLLATION", "DEFAULT_SECONDARY_ROLES", "DEFINE",
   "DELAYED", "DELTA", "DENSE_RANK", "DEREF", "DETACH", "DETAIL", "DETERMINISTIC", "DIMENSIONS",
   "DISCONNECT", "DOWNSTREAM", "DRY", "DYNAMIC", "ENABLE_SCHEMA_EVOLUTION", "END_FRAME",
   "END_PARTITION", "EPHEMERAL", "EQUALS", "EVEN", "EVERY", "EXCEPTION", "EXP", "EXPANSION",
   "EXTEND", "EXTERNAL_VOLUME", "FACTS", "FILE", "FILES", "FILE_FORMAT", "FILL", "FINAL",
   "FIRST_VALUE", "FLATTEN", "FLUSH", "FRAME_ROW", "FREE", "FSCK", "FULLTEXT", "FUSION",
   "GENERAL", "GENERATE", "GEOGRAPHY", "GET", "GIN", "GIST", "HASH", "HEAP", "HIGH_PRIORITY",
   "HOSTS", "ID", "IDENTITY_INSERT", "INDICATOR", "INITIALIZE", "INPATH", "INSTALL",
   "INTERPOLATE", "INTERSECTION", "IO", "ISOWEEK", "JAR", "LAG", "LAMBDA", "LAST_VALUE", "LEAD",
   "LEAKPROOF", "LIKE_REGEX", "LIST", "LN", "LOGS", "LOWCARDINALITY", "LOWER", "LOW_PRIORITY",
   "LS", "MACRO", "MATCHES", "MAX_DATA_EXTENSION_TIME_IN_DAYS", "MEASURES", "METRICS", "MIN",
   "MOD", "MODE", "MODIFIES", "MODULE", "MODULUS", "MULTISET", "MUTATION", "NATIONAL", "NCHAR",
   "NCLOB", "NEST", "NOCOMPRESS", "NOORDER", "NORMALIZE", "NO_WRITE_TO_BINLOG", "NTH_VALUE",
   "NTILE", "NULLABLE", "NULLIF", "NUMBER", "OBJECTS", "OCCURRENCES_REGEX", "OCTET_LENGTH",
   "OFFSETS", "OMIT", "ONE", "OPTIMIZE", "OPTIMIZED", "OPTIMIZER_COSTS", "OTHER", "PARAMETER",
   "PARSER", "PAST", "PATTERN", "PCTFREE", "PER", "PERCENTILE_CONT", "PERCENTILE_DISC",
   "PERCENT_RANK", "PERIOD", "PERSISTENT", "PORTION", "POSITION_REGEX", "POWER", "PRECEDES",
   "PROFILE", "RANK", "READS", "READ_ONLY", "REF", "REFRESH", "REFRESH_MODE", "REGR_AVGX",
   "REGR_AVGY", "REGR_COUNT", "REGR_INTERCEPT", "REGR_R2", "REGR_SLOPE", "REGR_SXX", "REGR_SXY",
   "REGR_SYY", "RELAY", "REMAINDER", "REMOTE", "REORG", "REPLACE_INVALID_CHARACTERS", "RESULT",
   "RESULTSET", "RETAIN", "RM", "ROLES", "ROW_NUMBER", "RUN", "SCOPE", "SECONDARY",
   "SEMANTIC_VIEW", "SENSITIVE", "SEPARATOR", "SETOF", "SLOW", "SORTED", "SPATIAL", "SPECIFIC",
   "SPECIFICTYPE", "SPGIST", "SQLEXCEPTION", "SQLSTATE", "SQLWARNING", "SQL_BIG_RESULT",
   "SQL_BUFFER_RESULT", "SQL_CALC_FOUND_ROWS", "SQL_SMALL_RESULT", "SQRT", "STDDEV_POP",
   "STDDEV_SAMP", "STEP", "STORAGE_INTEGRATION", "STORAGE_SERIALIZATION_POLICY", "SUBMULTISET",
   "SUBSTRING_REGEX", "SUCCEEDS", "SUM", "SUPER", "SYMMETRIC", "SYNONYM", "SYSTEM_TIME",
   "SYSTEM_USER", "TARGET_LAG", "TIMEZONE_ABBR", "TIMEZONE_REGION", "TOTALS", "TRAN",
   "TRANSLATE", "TRANSLATE_REGEX", "TRANSLATION", "TREAT", "TRIM_ARRAY", "TRY", "TRY_CONVERT",
   "TUPLE", "UESCAPE", "UNFREEZE", "UNLOCK", "UNMATCHED", "UPPER", "USER_RESOURCES",
   "VALIDATION_MODE", "VALUE_OF", "VARCHAR2", "VAR_POP", "VAR_SAMP", "VERSIONING", "WHENEVER",
   "WIDTH_BUCKET", "WORKLOAD_IDENTITY", "ZORDER"]

/-- The keyword of a spelling in capitals. -/
def ofSpelling? (text : String) : Option Keyword :=
  match spellings.lookup text with
  | some k => some k
  | none => if otherSpellings.contains text then some .other else none

end Keyword

end QueryGateway.Sql
