import WikiGateway.Text.Small
import WikiGateway.Validation

/-! The settings of the gateway, from values given, then from the environment, then by default. -/
namespace WikiGateway

inductive CacheBackend
  | memory | redis
  deriving DecidableEq, Repr

def CacheBackend.name : CacheBackend → String
  | memory => "memory"
  | redis => "redis"

structure Settings where
  wikiApiUrl : String
  wikiUserAgent : String
  wikiHttpTimeout : Float
  cacheBackend : CacheBackend
  redisUrl : String
  cacheCapacity : Int
  cacheTtl : Int
  pathSearchTimeout : Float
  statsWindow : Int
  databaseUrl : String
  telemetryAutosave : Int
  telemetryLoadOnStartup : Bool
  apiTitle : String
  apiVersion : String
  apiDescription : String
  logLevel : String

namespace Settings

def default : Settings where
  wikiApiUrl := "https://en.wikipedia.org/w/api.php"
  wikiUserAgent := "wiki-mediator/1.0 (https://github.com/ImportTeam/wiki-mediator)"
  wikiHttpTimeout := 10
  cacheBackend := .memory
  redisUrl := ""
  cacheCapacity := 256
  cacheTtl := 43200
  pathSearchTimeout := 300
  statsWindow := 30
  databaseUrl := "sqlite:///local/telemetry.db"
  telemetryAutosave := 0
  telemetryLoadOnStartup := false
  apiTitle := "Wiki Mediator"
  apiVersion := "1.0.0"
  apiDescription := "Wikipedia 중계 서비스: 캐시, 사용 통계, 경로 탐색, 쿼리 언어."
  logLevel := "INFO"

instance : Inhabited Settings := ⟨default⟩

/-- The names of the settings, in their order. -/
def names : List String :=
  ["wiki_api_url", "wiki_user_agent", "wiki_http_timeout_s", "cache_backend", "redis_url",
    "cache_capacity", "cache_ttl", "path_search_timeout_s", "stats_window_seconds", "database_url",
    "telemetry_autosave_seconds", "telemetry_load_on_startup", "api_title", "api_version",
    "api_description", "log_level"]

def positiveWhole : Json.Reader Int :=
  Json.checked Json.readWhole (fun n => decide (0 < n))
    (.refused "cache_capacity, cache_ttl and stats_window_seconds must be positive")

/-- A time limit may not be zero or less. -/
def timeout : Json.Reader Float :=
  Json.checked Json.readFloat (fun x => !decide (x ≤ 0)) (.refused "timeouts must be positive")

def autosave : Json.Reader Int :=
  Json.checked Json.readWhole (fun n => decide (0 ≤ n))
    (.refused "telemetry_autosave_seconds must be >= 0")

/-- The name of a kind of cache, in letters of either case. -/
def backend : Json.Reader CacheBackend := fun v => do
  let word := inSmall (← Json.readText v)
  if word = CacheBackend.memory.name then return .memory
  else if word = CacheBackend.redis.name then return .redis
  else throw (.refused "cache_backend must be 'memory' or 'redis'")

/-- Whether two names are the same but for the case of their letters. -/
def agree (name other : String) : Bool := inSmall name == inSmall other

/-- How names in the environment are matched to settings, and what of the environment counts. -/
structure Matching where
  /-- Whether letters have to be of the very case of a setting's name. -/
  isExact : Bool
  /-- What stands before the names of settings. -/
  mark : String
  /-- Whether what is empty in the environment counts as not there. -/
  skipsEmpty : Bool
  /-- A text of the environment that stands for no value. -/
  nullWord : Option String

namespace Matching

/-- The names under which a matching is given among the values, and others that change nothing. -/
def names : List String :=
  ["_case_sensitive", "_env_prefix", "_env_prefix_target", "_env_ignore_empty",
    "_env_parse_none_str", "_nested_model_default_partial_update", "_env_file",
    "_env_file_encoding", "_env_file_depth", "_env_nested_delimiter", "_env_nested_max_split",
    "_env_parse_enums", "_cli_prog_name", "_cli_parse_args", "_cli_settings_source",
    "_cli_parse_none_str", "_cli_hide_none_type", "_cli_avoid_json", "_cli_enforce_required",
    "_cli_use_class_docs_for_groups", "_cli_exit_on_error", "_cli_prefix",
    "_cli_flag_prefix_char", "_cli_implicit_flags", "_cli_ignore_unknown_args",
    "_cli_kebab_case", "_cli_shortcuts", "_cli_show_env_vars", "_secrets_dir"]

/-- What the mark may be meant for so that it stands before the names of settings; other names are
those of aliases, which settings have none of. -/
def marked : List String := ["variable", "all"]

def ofGiven (given : List (String × Json)) : Matching :=
  let flag (name : String) : Bool := (given.lookup name).elim false Json.isSet
  let word? (name : String) : Option String :=
    match given.lookup name with
    | some (.str s) => some s
    | _ => none
  let isMarked := (word? "_env_prefix_target").all marked.contains
  ⟨flag "_case_sensitive", if isMarked then (word? "_env_prefix").getD "" else "",
    flag "_env_ignore_empty", word? "_env_parse_none_str"⟩

/-- The value of a setting in the environment; the last of those whose names agree with it. -/
def environment? (m : Matching) (environment : List (String × String)) (name : String) :
    Option Json :=
  let counted := environment.reverse.filter fun e => !(m.skipsEmpty && e.2.isEmpty)
  let isName (other : String) : Bool :=
    if m.isExact then other == m.mark ++ name else agree other (m.mark ++ name)
  (counted.find? fun e => isName e.1).map fun e =>
    if m.nullWord = some e.2 then .null else .str e.2

end Matching

/-- The value of a setting that is given; the first of those whose names agree with it. -/
def given? (given : List (String × Json)) (name : String) : Option Json :=
  (given.find? fun e => agree e.1 name).map (·.2)

/-- The values that count: those given, and those of the environment for the other settings. -/
def gather (m : Matching) (given : List (String × Json)) (environment : List (String × String)) :
    List (String × Json) :=
  names.filterMap fun name =>
    ((given? given name).or (m.environment? environment name)).map fun v => (name, v)

/-- The settings for given values and an environment. Values for no setting are refused. -/
def load (given : List (String × Json)) (environment : List (String × String)) :
    Validated Settings :=
  let m := Matching.ofGiven given
  let given := given.filter fun e => !Matching.names.contains e.1
  let values := gather m given environment
  let unknown := (given.filter fun e => !names.any (agree e.1)).map fun e =>
    (⟨[e.1], .unknownField⟩ : Problem)
  let known := Settings.mk
    <$> Json.withDefault values "wiki_api_url" default.wikiApiUrl Json.readText
    <*> Json.withDefault values "wiki_user_agent" default.wikiUserAgent Json.readText
    <*> Json.withDefault values "wiki_http_timeout_s" default.wikiHttpTimeout timeout
    <*> Json.withDefault values "cache_backend" default.cacheBackend backend
    <*> Json.withDefault values "redis_url" default.redisUrl Json.readText
    <*> Json.withDefault values "cache_capacity" default.cacheCapacity positiveWhole
    <*> Json.withDefault values "cache_ttl" default.cacheTtl positiveWhole
    <*> Json.withDefault values "path_search_timeout_s" default.pathSearchTimeout timeout
    <*> Json.withDefault values "stats_window_seconds" default.statsWindow positiveWhole
    <*> Json.withDefault values "database_url" default.databaseUrl Json.readText
    <*> Json.withDefault values "telemetry_autosave_seconds" default.telemetryAutosave autosave
    <*> Json.withDefault values "telemetry_load_on_startup" default.telemetryLoadOnStartup
      Json.readTruth
    <*> Json.withDefault values "api_title" default.apiTitle Json.readText
    <*> Json.withDefault values "api_version" default.apiVersion Json.readText
    <*> Json.withDefault values "api_description" default.apiDescription Json.readText
    <*> Json.withDefault values "log_level" default.logLevel Json.readText
  if unknown.isEmpty then known else .invalid (known.problems ++ unknown)

/-- The settings as members of an object. -/
def members (s : Settings) : List (String × Json) :=
  [("wiki_api_url", .str s.wikiApiUrl), ("wiki_user_agent", .str s.wikiUserAgent),
    ("wiki_http_timeout_s", .float s.wikiHttpTimeout), ("cache_backend", .str s.cacheBackend.name),
    ("redis_url", .str s.redisUrl), ("cache_capacity", .int s.cacheCapacity),
    ("cache_ttl", .int s.cacheTtl), ("path_search_timeout_s", .float s.pathSearchTimeout),
    ("stats_window_seconds", .int s.statsWindow), ("database_url", .str s.databaseUrl),
    ("telemetry_autosave_seconds", .int s.telemetryAutosave),
    ("telemetry_load_on_startup", .bool s.telemetryLoadOnStartup), ("api_title", .str s.apiTitle),
    ("api_version", .str s.apiVersion), ("api_description", .str s.apiDescription),
    ("log_level", .str s.logLevel)]

end Settings

end WikiGateway
