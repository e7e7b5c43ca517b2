import LoadScript.Vocabulary

set_option autoImplicit false
set_option relaxedAutoImplicit false

namespace LoadScript

namespace Standard

def controlLeaders : List String :=
  ["if", "elseif", "else", "endif", "end if", "end", "sub", "endsub", "end sub", "call", "for",
   "for each", "next", "do", "do while", "do until", "loop", "loop while", "loop until", "exit",
   "exit for", "exit do", "exit sub", "exit script", "switch", "case", "default", "endswitch",
   "end switch"]

def controlHeaderEnds : List String :=
  ["then"]

def controlClauses : List String :=
  ["to", "step", "while", "until", "each", "in"]

/-- Words that start a statement on data, variables or connections,
and the openings put before such a statement. -/
def scriptLeaders : List String :=
  ["load", "select", "sql", "store", "set", "let", "binary", "connect", "connect to",
   "lib connect to", "custom connect to", "disconnect", "directory", "direct query", "import live",
   "drop", "drop table", "drop tables", "drop field", "drop fields", "rename", "rename table",
   "rename tables", "rename field", "rename fields", "qualify", "unqualify", "map", "unmap", "star",
   "loosen", "loosen table", "loosen tables", "inputfield", "mapping", "concatenate", "noconcatenate",
   "crosstable", "hierarchy", "hierarchybelongsto", "intervalmatch", "generic", "semantic", "join",
   "keep", "left", "right", "inner", "outer", "left join", "right join", "inner join", "outer join",
   "left keep", "right keep", "inner keep", "buffer", "replace", "add", "bundle", "info", "sample",
   "first", "merge", "section", "section access", "section application", "comment", "comment table",
   "comment field", "comment fields", "tag", "tag field", "tag fields", "untag", "untag field",
   "untag fields", "derive", "declare", "alias", "autonumber", "sqlcolumns", "sqltables", "sqltypes",
   "trace", "sleep", "execute", "search", "flushlog", "nullasvalue", "nullasnull", "force"]

def scriptClauses : List String :=
  ["into", "from", "where", "resident", "inline", "autogenerate", "as", "distinct", "group", "by",
   "order", "group by", "order by", "odbc", "oledb", "lib", "query", "direct", "import", "live",
   "table", "tables", "field", "fields", "using", "is", "when", "unless", "only", "access",
   "application", "script", "measure", "dimension", "create", "relationship", "qsl", "custom",
   "customconnect", "bdi", "capitalization", "upper", "lower", "mixed", "incremental", "stale",
   "after", "asc", "desc", "with", "on", "include", "null", "value", "total"]

def logicalOperators : List String :=
  ["and", "or", "not", "xor", "like", "precedes", "follows", "bitand", "bitor", "bitxor", "bitnot"]

/-- Keywords that are also names of functions. -/
def callableWords : List String :=
  ["if", "left", "right", "replace", "upper", "lower", "null", "only", "autonumber"]

/-- The keywords of one group; those that also name functions are marked. -/
def group (tier : Tier) (role : Role) (spellings : List String) : List Keyword :=
  spellings.map fun spelling => ⟨spelling, tier, role, callableWords.contains spelling⟩

def table : KeywordTable where
  version := "qlik-script/1"
  keywords :=
    group .control .leader controlLeaders ++ group .control .headerEnd controlHeaderEnds ++
    group .control .clause controlClauses ++ group .script .leader scriptLeaders ++
    group .script .clause scriptClauses ++ group .logical .clause logicalOperators

end Standard

def Vocabulary.standard : Vocabulary :=
  Vocabulary.ofTable Standard.table

end LoadScript
