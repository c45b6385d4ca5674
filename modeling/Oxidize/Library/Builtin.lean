import Oxidize.Crate.Registry

/-!
# Library calls

For each module, the functions and types a program may call and how each call is written. A call is
looked up in the built-in tables first and then in the installed packages.
-/

namespace Oxidize.Library

open Mapping

/-! ## The operating system -/

def onFiles (name call : String) : Mapping :=
  row name s!"std::fs::{call}.unwrap()" ["std::fs"] true

def system : Table Mapping :=
  functions "os" [
    row "getcwd" "std::env::current_dir().unwrap().to_string_lossy().to_string()",
    row "chdir" "std::env::set_current_dir({args}).unwrap()" [] true,
    row "listdir"
      ("std::fs::read_dir({args}).unwrap().map(|e| e.unwrap().file_name().to_string_lossy()" ++
       ".to_string()).collect::<Vec<_>>()")
      ["std::fs"] true,
    onFiles "mkdir" "create_dir({args})",
    onFiles "makedirs" "create_dir_all({args})",
    onFiles "remove" "remove_file({args})",
    onFiles "rmdir" "remove_dir({args})",
    onFiles "rename" "rename({args})",
    row "getenv" "std::env::var({args}).ok()"] ++
  functions "os.path" [
    row "exists" "std::path::Path::new(&{args}).exists()",
    row "isfile" "std::path::Path::new(&{args}).is_file()",
    row "isdir" "std::path::Path::new(&{args}).is_dir()",
    row "join" "std::path::Path::new(&{arg0}).join(&{arg1}).to_string_lossy().to_string()",
    row "basename"
      ("std::path::Path::new(&{args}).file_name().map(|s| s.to_string_lossy().to_string())" ++
       ".unwrap_or_default()"),
    row "dirname"
      ("std::path::Path::new(&{args}).parent().map(|p| p.to_string_lossy().to_string())" ++
       ".unwrap_or_default()"),
    row "splitext"
      ("(\x7b let __path = std::path::Path::new(&{arg0}); (__path.file_stem().map(|s| s" ++
       ".to_string_lossy().to_string()).unwrap_or_default(), __path.extension().map(|s| " ++
       "format!(\".\x7b\x7d\", s.to_string_lossy())).unwrap_or_default()) \x7d)")]

def program : Table Mapping :=
  functions "sys" [
    row "argv" "std::env::args().collect::<Vec<_>>()",
    row "exit" "std::process::exit({args})",
    row "platform" "std::env::consts::OS.to_string()",
    row "version" "\"Rust\"",
    row "path" "vec![]",
    row "stdin" "std::io::stdin()" ["std::io"],
    row "stdout" "std::io::stdout()" ["std::io"],
    row "stderr" "std::io::stderr()" ["std::io"]]

/-! ## Documents -/

def documents : Table Mapping :=
  let call (name template : String) : Mapping :=
    row name template ["serde_json"] true |>.needing ["serde_json = \"1.0\""]
  functions "json" [
    call "loads" "serde_json::from_str(&{args}).unwrap()",
    call "dumps" "serde_json::to_string(&{args}).unwrap()",
    call "load" "serde_json::from_reader({args}).unwrap()",
    call "dump" "serde_json::to_writer({arg1}, {arg0}).unwrap()"] ++
  [("json.dumps_indent",
    { (call "dumps" "serde_json::to_string_pretty({args}).unwrap()") with module := .str "json" })]

/-! ## Temporary files, patterns and copies -/

def globbing : Table Mapping :=
  functions "glob" (
    ["glob", "iglob"].map (row ·
      ("glob::glob(&{args}).unwrap().filter_map(|p| p.ok()).map(|p| p.to_string_lossy()" ++
       ".to_string()).collect::<Vec<_>>()")) ++
    [row "escape"
      ("{args}.replace(\"[\", \"[[]\").replace(\"]\", \"[]]\").replace(\"*\", \"[*]\")" ++
       ".replace(\"?\", \"[?]\")")])

def temporary : Table Mapping :=
  functions "tempfile" [
    row "gettempdir" "std::env::temp_dir().to_string_lossy().to_string()",
    row "mkdtemp"
      ("\x7b let d = tempfile::tempdir().unwrap(); let p = d.path().to_string_lossy()" ++
       ".to_string(); let _ = d.keep(); p \x7d"),
    row "mkstemp"
      ("\x7b let f = tempfile::NamedTempFile::new().unwrap(); let p = f.path()" ++
       ".to_string_lossy().to_string(); std::mem::forget(f); p \x7d"),
    row "NamedTemporaryFile" "tempfile::NamedTempFile::new().unwrap()",
    row "TemporaryDirectory" "tempfile::tempdir().unwrap()",
    row "tempdir" "tempfile::tempdir().unwrap()"]

def copying : Table Mapping :=
  functions "shutil" (
    ["copy", "copy2", "copyfile"].map (row · "std::fs::copy(&{arg0}, &{arg1}).unwrap()") ++ [
    row "rmtree" "std::fs::remove_dir_all(&{args}).unwrap()",
    row "move" "std::fs::rename(&{arg0}, &{arg1}).unwrap()",
    row "which"
      "which::which({args}).ok().map(|p| p.to_string_lossy().to_string()).unwrap_or_default()",
    row "disk_usage" "\x7b let m = std::fs::metadata(&{args}).unwrap(); (m.len(), 0u64, 0u64) \x7d"])

/-! ## Processes -/

def processes : Table Mapping :=
  functions "subprocess" (
    ["run", "call"].map (row ·
      ("std::process::Command::new({arg0}).args(&{arg1}).status().unwrap().code()" ++
       ".unwrap_or(-1) as i64")) ++ [
    row "check_call"
      ("\x7b\x7b let s = std::process::Command::new({arg0}).args(&{arg1}).status()" ++
       ".unwrap(); if !s.success() \x7b\x7b panic!(\"Command failed\"); \x7d\x7d s.code()" ++
       ".unwrap_or(0) as i64 \x7d\x7d"),
    row "check_output"
      ("String::from_utf8_lossy(&std::process::Command::new({arg0}).args(&{arg1}).output()" ++
       ".unwrap().stdout).to_string()"),
    row "getoutput"
      ("String::from_utf8_lossy(&std::process::Command::new(\"sh\").arg(\"-c\").arg({args})" ++
       ".output().unwrap().stdout).to_string()"),
    row "getstatusoutput"
      ("\x7b\x7b let o = std::process::Command::new(\"sh\").arg(\"-c\").arg({args})" ++
       ".output().unwrap(); (o.status.code().unwrap_or(-1) as i64, " ++
       "String::from_utf8_lossy(&o.stdout).to_string()) \x7d\x7d")])

/-! ## Random numbers -/

def random : Table Mapping :=
  functions "random" (
    ["randint", "uniform"].map
      (row · "rand::thread_rng().gen_range({arg0}..={arg1})" ["rand::Rng"]) ++
    List.map (·.importing ["rand::seq::SliceRandom"]) [
      row "choice" "{args}.choose(&mut rand::thread_rng()).cloned().unwrap()",
      row "shuffle" "{args}.shuffle(&mut rand::thread_rng())",
      row "sample"
        "{arg0}.choose_multiple(&mut rand::thread_rng(), {arg1}).cloned().collect::<Vec<_>>()",
      row "choices"
        ("(0..{arg1}).map(|_| {arg0}.choose(&mut rand::thread_rng()).cloned().unwrap())" ++
         ".collect::<Vec<_>>()")] ++ [
    row "random" "rand::random::<f64>()",
    row "randrange" "rand::thread_rng().gen_range({arg0}..{arg1})" ["rand::Rng"],
    row "gauss"
      ("\x7b\x7b use rand_distr::\x7b\x7bDistribution, Normal\x7d\x7d; Normal::new({arg0}, " ++
       "{arg1}).unwrap().sample(&mut rand::thread_rng()) \x7d\x7d"),
    row "seed"
      ("/* random.seed() - thread_rng cannot be seeded; use StdRng::seed_from_u64() for " ++
       "reproducibility */")])

/-! ## Collections -/

def collections : Table Mapping :=
  functions "collections" [
    row "defaultdict" "HashMap::new()" ["std::collections::HashMap"],
    row "Counter" "HashMap::new()" ["std::collections::HashMap"],
    row "deque" "VecDeque::new()" ["std::collections::VecDeque"],
    row "OrderedDict" "IndexMap::new()" ["indexmap::IndexMap"] |>.needing ["indexmap = \"2.0\""],
    row "namedtuple" "/* namedtuple -> use struct */"]

def queueMethods : Table String :=
  [("append", "push_back"),
   ("appendleft", "push_front"),
   ("pop", "pop_back"),
   ("popleft", "pop_front"),
   ("extend", "extend"),
   ("extendleft", "extend"),
   ("rotate", "rotate_left"),
   ("clear", "clear")]

/-! ## Logging -/

def logging : Table Mapping :=
  functions "logging" (
    [("debug", "debug"), ("info", "info"), ("warning", "warn"), ("warn", "warn"),
     ("error", "error"), ("critical", "error"), ("exception", "error")].map (fun (name, level) =>
      row name ("log::" ++ level ++ "!(\"\x7b\x7d\", {args})") |>.needing ["log", "env_logger"]) ++
    [row "basicConfig" "env_logger::init()" |>.needing ["log", "env_logger"]] ++
    [("DEBUG", "Debug"), ("INFO", "Info"), ("WARNING", "Warn"), ("ERROR", "Error"),
     ("CRITICAL", "Error")].map fun (name, level) =>
      row name ("log::LevelFilter::" ++ level) |>.needing ["log"])

/-! ## Paths of files -/

def pathMethods : Table Mapping :=
  let constructor := row "Path" "PathBuf::from({args})" ["std::path::PathBuf"]
  List.cons ("Path", { constructor with module := .str "pathlib" }) <|
  methods "pathlib" "Path" (bare ["exists", "is_file", "is_dir"] ++
    ["joinpath", "join", "__truediv__"].map (row · "{self}.join({args})") ++ [
    onFiles "read_text" "read_to_string(&{self})",
    onFiles "read_bytes" "read(&{self})",
    onFiles "write_text" "write(&{self}, {args})",
    onFiles "write_bytes" "write(&{self}, {args})",
    onFiles "mkdir" "create_dir_all(&{self})",
    onFiles "unlink" "remove_file(&{self})",
    row "parent" "{self}.parent().map(|p| p.to_path_buf())",
    row "name" "{self}.file_name().map(|s| s.to_string_lossy().to_string()).unwrap_or_default()",
    row "stem" "{self}.file_stem().map(|s| s.to_string_lossy().to_string()).unwrap_or_default()",
    row "suffix"
      "{self}.extension().map(|s| format!(\".\x7b\x7d\", s.to_string_lossy())).unwrap_or_default()"])

/-! ## Dates and times -/

def clock : Table Mapping :=
  functions "time" [
    row "time"
      "std::time::SystemTime::now().duration_since(std::time::UNIX_EPOCH).unwrap().as_secs_f64()",
    row "sleep" "std::thread::sleep(std::time::Duration::from_secs_f64({args}))",
    row "monotonic" "std::time::Instant::now().elapsed().as_secs_f64()"]

def momentTraits : List String :=
  ["chrono::Datelike", "chrono::Timelike"]

/-- Constructors of moments: a date with a time of day. -/
def moments : Table Mapping :=
  functions "datetime" [
    row "datetime"
      ("chrono::NaiveDate::from_ymd_opt({year}, {month}, {day}).unwrap()" ++
       ".and_hms_micro_opt({hour}, {minute}, {second}, {microsecond}).unwrap()")
      momentTraits] ++
  statics "datetime" "datetime" (List.map (·.importing momentTraits) [
    row "now" "chrono::Local::now()",
    row "utcnow" "chrono::Utc::now()",
    row "today" "chrono::Local::now().naive_local()",
    row "fromtimestamp" "chrono::DateTime::from_timestamp({args} as i64, 0).unwrap().naive_local()",
    row "utcfromtimestamp"
      "chrono::DateTime::from_timestamp({args} as i64, 0).unwrap().naive_utc()",
    row "fromordinal"
      ("chrono::NaiveDate::from_num_days_from_ce_opt({args}).unwrap().and_hms_opt(0, 0, 0)" ++
       ".unwrap()"),
    row "fromisoformat"
      ("chrono::NaiveDateTime::parse_from_str(&{args}, \"%Y-%m-%dT%H:%M:%S\").or_else(|_| " ++
       "chrono::NaiveDateTime::parse_from_str(&{args}, \"%Y-%m-%d %H:%M:%S\")).or_else(|_| " ++
       "chrono::NaiveDateTime::parse_from_str(&format!(\"\x7b\x7b\x7d\x7dT00:00:00\", " ++
       "{args}), \"%Y-%m-%dT%H:%M:%S\")).unwrap()"),
    row "combine" "chrono::NaiveDateTime::new({date}, {time})",
    row "strptime" "chrono::NaiveDateTime::parse_from_str(&{args}).unwrap()"])

def dates : Table Mapping :=
  functions "datetime" [
    row "date" "chrono::NaiveDate::from_ymd_opt({args}).unwrap()" ["chrono::Datelike"]] ++
  statics "datetime" "date" (List.map (·.importing ["chrono::Datelike"]) [
    row "today" "chrono::Local::now().date_naive()",
    row "fromtimestamp" "chrono::DateTime::from_timestamp({args} as i64, 0).unwrap().date_naive()",
    row "fromordinal" "chrono::NaiveDate::from_num_days_from_ce_opt({args}).unwrap()",
    row "fromisoformat" "chrono::NaiveDate::parse_from_str(&{args}, \"%Y-%m-%d\").unwrap()",
    row "fromisocalendar" "chrono::NaiveDate::from_isoywd_opt({args}).unwrap()"])

def times : Table Mapping :=
  functions "datetime" [
    row "time" "chrono::NaiveTime::from_hms_micro_opt({args}).unwrap()"] ++
  statics "datetime" "time" [
    row "fromisoformat" "chrono::NaiveTime::parse_from_str({args}, \"%H:%M:%S\").unwrap()"]

def spans : Table Mapping :=
  functions "datetime" [
    row "timedelta"
      ("chrono::Duration::days({days}) + chrono::Duration::seconds({seconds}) + " ++
       "chrono::Duration::microseconds({microseconds})")]

def zones : Table Mapping :=
  functions "datetime" [
    row "timezone" "chrono::FixedOffset::east_opt(({args}).num_seconds() as i32).unwrap()"] ++
  statics "datetime" "timezone" [
    row "utc" "chrono::Utc"]

def dayRows : List Mapping := [
  row "year" "{self}.year() as i64",
  row "month" "{self}.month() as i64",
  row "day" "{self}.day() as i64"]

def weekRows : List Mapping := [
  row "weekday" "{self}.weekday().num_days_from_monday() as i64",
  row "isoweekday" "{self}.weekday().number_from_monday() as i64",
  row "isocalendar"
    ("({self}.iso_week_date().0, {self}.iso_week_date().1, {self}.iso_week_date().2" ++
     ".number_from_monday())")]

def momentMethods : Table Mapping :=
  methods "datetime" "datetime" (dayRows ++ [
    row "hour" "{self}.hour() as i64",
    row "minute" "{self}.minute() as i64",
    row "second" "{self}.second() as i64",
    row "microsecond" "({self}.nanosecond() / 1000) as i64"] ++ weekRows ++ [
    row "date" "{self}.date_naive()",
    row "time" "{self}.time()",
    row "timestamp" "{self}.and_utc().timestamp() as f64",
    row "isoformat" "{self}.format(\"%Y-%m-%dT%H:%M:%S\").to_string()",
    row "ctime" "{self}.format(\"%a %b %e %H:%M:%S %Y\").to_string()",
    row "strftime" "{self}.format({args}).to_string()",
    row "toordinal" "{self}.date().num_days_from_ce()",
    row "replace"
      ("chrono::NaiveDate::from_ymd_opt({year}, {month}, {day}).unwrap()" ++
       ".and_hms_micro_opt({hour}, {minute}, {second}, {microsecond}).unwrap()")])

def dateMethods : Table Mapping :=
  methods "datetime" "date" (dayRows ++ weekRows ++ [
    row "isoformat" "{self}.format(\"%Y-%m-%d\").to_string()",
    row "ctime" "{self}.format(\"%a %b %e 00:00:00 %Y\").to_string()",
    row "strftime" "{self}.format({args}).to_string()",
    row "toordinal" "{self}.num_days_from_ce()",
    row "replace"
      "{self}.with_year({year}).unwrap().with_month({month}).unwrap().with_day({day}).unwrap()"])

def timeMethods : Table Mapping :=
  methods "datetime" "time" [
    row "hour" "{self}.hour()",
    row "minute" "{self}.minute()",
    row "second" "{self}.second()",
    row "microsecond" "{self}.nanosecond() / 1000",
    row "isoformat" "{self}.format(\"%H:%M:%S\").to_string()",
    row "strftime" "{self}.format({args}).to_string()",
    row "replace"
      "chrono::NaiveTime::from_hms_micro_opt({hour}, {minute}, {second}, {microsecond}).unwrap()"]

def spanMethods : Table Mapping :=
  methods "datetime" "timedelta" [
    row "days" "{self}.num_days() as i64",
    row "seconds" "({self}.num_seconds() % 86400) as i64",
    row "microseconds" "({self}.num_microseconds().unwrap_or(0) % 1_000_000) as i64",
    row "total_seconds"
      "{self}.num_seconds() as f64 + ({self}.num_milliseconds() % 1000) as f64 / 1000.0"]

def calendar : Table Mapping :=
  moments ++ dates ++ times ++ spans ++ zones

def calendarMethods : Table Mapping :=
  momentMethods ++ dateMethods ++ timeMethods ++ spanMethods

/-! ## The native file system -/

def fileSystem : Table Mapping :=
  functions "rust_std.fs" (
    types "std::fs" ["File"] ++
    associated "std::fs" "File" "({args})" ["open", "create"] true ++
    calledTypes "std::fs" "()" ["OpenOptions"] ++
    paths "std::fs" "({args})" ["read_to_string", "read", "write", "copy", "rename", "remove_file",
      "create_dir", "create_dir_all", "remove_dir", "remove_dir_all", "read_dir", "metadata",
      "symlink_metadata", "set_permissions", "canonicalize", "hard_link", "read_link"] true ++
    [row "soft_link" "std::os::unix::fs::symlink({args})" ["std::os::unix::fs"] true])

def fileSystemMethods : Table Mapping :=
  typeMethods "rust_std.fs" [
    ("OpenOptions", passing ["read", "write", "append", "truncate", "create", "create_new"] ++
     passing ["open"] true),
    ("File", bare ["sync_all", "sync_data", "metadata"] true ++ passing ["set_len"] true),
    ("Metadata", bare ["is_file", "is_dir", "is_symlink", "len", "permissions"] ++
     bare ["modified", "accessed", "created"] true),
    ("DirEntry", bare ["path", "file_name"] ++ bare ["metadata", "file_type"] true)]

/-! ## Native streams -/

def streams : Table Mapping :=
  functions "rust_std.io" (
    paths "std::io" "()" ["stdin", "stdout", "stderr", "empty", "sink"] ++
    types "std::io" ["Stdin", "Stdout", "Stderr"] ++
    calledTypes "std::io" "({args})" ["BufReader", "BufWriter", "Cursor"] ++
    paths "std::io" "({args})" ["repeat"] ++
    paths "std::io" "({args})" ["copy"] true)

/-- The methods of a trait, which has to be in scope. -/
def ofTrait (name : String) (rows : List Mapping) : String × List Mapping :=
  (name, rows.map (·.importing ["std::io::" ++ name]))

def streamMethods : Table Mapping :=
  typeMethods "rust_std.io" [
    ofTrait "Read" (passing ["read", "read_to_end", "read_to_string", "read_exact"] true ++
      bare ["bytes"] ++ passing ["chain", "take"]),
    ofTrait "Write" (passing ["write", "write_all", "write_fmt"] true ++ bare ["flush"] true),
    ofTrait "BufRead" (passing ["read_line"] true ++ bare ["lines"] ++
      passing ["split", "consume"] ++ bare ["fill_buf"] true),
    ofTrait "Seek" (passing ["seek"] true ++ bare ["rewind", "stream_position"] true),
    ("BufReader", bare ["buffer", "capacity", "into_inner"]),
    ("BufWriter", bare ["buffer", "capacity"] ++ bare ["into_inner"] true),
    ("Cursor", bare ["into_inner", "get_ref", "get_mut", "position"] ++ passing ["set_position"])]

/-! ## Native paths -/

def nativePaths : Table Mapping :=
  functions "rust_std.path" (
    calledTypes "std::path" "({args})" ["Path"] ++
    [row "PathBuf" "std::path::PathBuf::from({args})" ["std::path::PathBuf"]] ++
    associated "std::path" "PathBuf" "()" ["new"] ++
    associated "std::path" "PathBuf" "({args})" ["from"])

def nativePathMethods : Table Mapping :=
  typeMethods "rust_std.path" [
    ("Path", calls "().to_string()" ["to_string_lossy"] ++
     bare ["as_os_str", "to_str", "to_path_buf", "is_absolute", "is_relative", "has_root", "parent",
      "ancestors", "file_name", "file_stem", "extension", "components", "iter", "display", "exists",
      "is_file", "is_dir", "is_symlink"] ++
     passing ["strip_prefix", "starts_with", "ends_with", "join", "with_file_name",
      "with_extension"] ++
     bare ["metadata", "symlink_metadata", "canonicalize", "read_link", "read_dir"] true),
    ("PathBuf", passing ["push", "set_file_name", "set_extension", "reserve", "reserve_exact"] ++
     bare ["pop", "as_path", "into_os_string", "into_boxed_path", "capacity", "clear",
      "shrink_to_fit"])]

/-! ## Native synchronisation -/

def sync : Table Mapping :=
  functions "rust_std.sync" (
    madeTypes "std::sync" "({args})" ["Arc", "Mutex", "RwLock", "Barrier"] ++
    madeTypes "std::sync" "()" ["Condvar", "Once", "OnceLock"] ++
    associated "std::sync" "Arc" "(&{args})" ["clone", "downgrade"] ++
    associated "std::sync" "Arc" "(&{args}) as i64" ["strong_count", "weak_count"] ++
    associated "std::sync" "Arc" "({args}).ok()" ["try_unwrap"] ++
    associated "std::sync" "Arc" "({args})" ["into_inner"] ++
    types "std::sync" ["Weak"] ++
    madeTypes "std::sync::atomic" "({args})" ["AtomicBool", "AtomicI32", "AtomicI64", "AtomicU32",
      "AtomicU64", "AtomicUsize", "AtomicIsize"] ++
    associated "std::sync::atomic" "Ordering" "" ["Relaxed", "Release", "Acquire", "AcqRel",
      "SeqCst"] ++
    [row "mpsc_channel" "std::sync::mpsc::channel()" ["std::sync::mpsc"],
      row "mpsc_sync_channel" "std::sync::mpsc::sync_channel({args})" ["std::sync::mpsc"]])

def syncMethods : Table Mapping :=
  typeMethods "rust_std.sync" [
    ("Mutex", calls "().unwrap()" ["lock", "into_inner", "get_mut"] ++
     bare ["try_lock", "is_poisoned"]),
    ("RwLock", calls "().unwrap()" ["read", "write", "into_inner", "get_mut"] ++
     bare ["try_read", "try_write", "is_poisoned"]),
    ("Condvar", calls "({args}).unwrap()" ["wait", "wait_timeout"] ++
     bare ["notify_one", "notify_all"]),
    ("Barrier", bare ["wait"]),
    ("BarrierWaitResult", bare ["is_leader"]),
    ("Once", passing ["call_once"] ++ bare ["is_completed"]),
    ("OnceLock", bare ["get"] ++ passing ["set", "get_or_init"]),
    ("Weak", bare ["upgrade"] ++ calls "() as i64" ["strong_count", "weak_count"]),
    ("MutexGuard", [row "deref" "*{self}"]),
    ("AtomicBool", passing ["load", "store", "swap", "compare_exchange", "fetch_and", "fetch_or",
      "fetch_xor"]),
    ("AtomicI64", passing ["load", "store", "swap", "fetch_add", "fetch_sub", "fetch_max",
      "fetch_min"]),
    ("AtomicU64", passing ["load", "store", "swap", "fetch_add", "fetch_sub"]),
    ("AtomicUsize", passing ["store"] ++
     calls "({args}) as i64" ["load", "swap", "fetch_add", "fetch_sub"]),
    ("Sender", calls "({args}).unwrap()" ["send"] ++ bare ["clone"]),
    ("SyncSender", calls "({args}).unwrap()" ["send"] ++ passing ["try_send"] ++ bare ["clone"]),
    ("Receiver", calls "().unwrap()" ["recv"] ++ bare ["try_recv", "iter", "try_iter"] ++
     passing ["recv_timeout"])]

/-! ## Native threads -/

def threads : Table Mapping :=
  functions "rust_std.thread" (
    paths "std::thread" "({args})" ["spawn", "sleep", "park_timeout"] ++
    paths "std::thread" "()" ["current", "yield_now", "park", "panicking"] ++
    paths "std::thread" "()?.get()" ["available_parallelism"] true ++
    calledTypes "std::thread" "()" ["Builder"] ++
    types "std::thread" ["JoinHandle", "Thread", "ThreadId"])

def threadMethods : Table Mapping :=
  typeMethods "rust_std.thread" [
    ("JoinHandle", calls "().unwrap()" ["join"] ++ bare ["thread", "is_finished"]),
    ("Thread", bare ["id", "name", "unpark"]),
    ("Builder", passing ["name", "stack_size"] ++ passing ["spawn"] true)]

/-! ## The native clock -/

def nativeClock : Table Mapping :=
  functions "rust_std.time" (
    types "std::time" ["Duration", "Instant", "SystemTime", "UNIX_EPOCH"] ++
    associated "std::time" "Duration" "({args})" ["new", "from_secs", "from_millis", "from_micros",
      "from_nanos", "from_secs_f32", "from_secs_f64"] ++
    associated "std::time" "Duration" "" ["ZERO", "MAX", "SECOND", "MILLISECOND", "MICROSECOND",
      "NANOSECOND"] ++
    associated "std::time" "Instant" "()" ["now"] ++
    associated "std::time" "SystemTime" "()" ["now"])

def nativeClockMethods : Table Mapping :=
  typeMethods "rust_std.time" [
    ("Duration", calls "() as i64" ["as_secs", "as_millis", "as_micros", "as_nanos"] ++
     bare ["as_secs_f32", "as_secs_f64", "subsec_millis", "subsec_micros", "subsec_nanos",
      "is_zero"] ++
     passing ["checked_add", "checked_sub", "checked_mul", "checked_div", "saturating_add",
      "saturating_sub", "saturating_mul", "mul_f32", "mul_f64", "div_f32", "div_f64"]),
    ("Instant", (bare ["elapsed"] ++ passing ["duration_since"]).map (·.returning "Duration") ++
     passing ["checked_duration_since", "saturating_duration_since", "checked_add",
      "checked_sub"]),
    ("SystemTime",
     (bare ["elapsed"] true ++ passing ["duration_since"] true).map (·.returning "Duration") ++
     passing ["checked_add", "checked_sub"])]

/-! ## Names of native types -/

/-- Short names of native types, by path. A path may begin with `std`. -/
def nativeTypeNames : Table String :=
  let named (path : String) (types : List String) := types.map fun n => (path ++ "::" ++ n, n)
  let types :=
    named "fs" ["File", "OpenOptions", "Metadata", "Permissions", "FileType", "DirEntry",
      "ReadDir"] ++
    named "io" ["Stdin", "Stdout", "Stderr", "BufReader", "BufWriter", "Cursor", "SeekFrom"] ++
    named "path" ["Path", "PathBuf", "Component", "Components", "Ancestors", "StripPrefixError"] ++
    named "thread" ["JoinHandle", "Thread", "ThreadId", "Builder", "Scope", "ScopedJoinHandle"] ++
    named "time" ["Duration", "Instant", "SystemTime", "SystemTimeError"] ++
    named "sync" ["Arc", "Weak", "Mutex", "MutexGuard", "RwLock", "RwLockReadGuard",
      "RwLockWriteGuard", "Condvar", "Barrier", "BarrierWaitResult", "Once", "OnceLock"] ++
    named "sync::atomic" ["AtomicBool", "AtomicI32", "AtomicI64", "AtomicU32", "AtomicU64",
      "AtomicUsize", "AtomicIsize", "Ordering"] ++
    named "sync::mpsc" ["Sender", "SyncSender", "Receiver"] ++
    [("io::Error", "IoError"), ("io::Result", "IoResult"), ("path::Iter", "PathIter"),
     ("path::Display", "PathDisplay")]
  types.flatMap fun (path, name) => [(path, name), ("std::" ++ path, name)]

/-! ## Looking up calls -/

/-- The tables of functions that are built in, in the order in which they are searched. -/
def builtinTables : List (Table Mapping) :=
  [system, program, documents, globbing, temporary, processes, copying, random, collections,
   logging, clock, calendar, fileSystem, streams, nativePaths, sync, threads, nativeClock]

/-- The tables of functions by the module that each of them is about. -/
def tableOf? (module : String) : Option (Table Mapping) :=
  [("os", system), ("pathlib", pathMethods), ("sys", program), ("json", documents),
   ("glob", globbing), ("tempfile", temporary), ("subprocess", processes), ("shutil", copying),
   ("random", random), ("logging", logging), ("collections", collections), ("time", clock),
   ("datetime", calendar), ("datetime_method", calendarMethods), ("fs", fileSystem),
   ("io", streams), ("path", nativePaths), ("sync", sync), ("thread", threads),
   ("rust_time", nativeClock)].lookup module

def methodTableOf? (module : String) : Option (Table Mapping) :=
  [("fs", fileSystemMethods), ("io", streamMethods), ("path", nativePathMethods),
   ("sync", syncMethods), ("thread", threadMethods), ("rust_time", nativeClockMethods)].lookup module

def builtin? (key : String) : Option Mapping :=
  builtinTables.findSome? fun table => table.get? key

def mapping? (module func : String) : Lookup (Option Mapping) := do
  let key := s!"{module}.{func}"
  match builtin? key with
  | some m => return some m
  | none => Registry.function? key

def calendar? (key : String) : Option Mapping :=
  calendar.get? key

def calendarMethod? (key : String) : Option Mapping :=
  calendarMethods.get? key

/-- The tables of methods of native types that calls on variables are looked up in. -/
def nativeMethodTables : List (Table Mapping) :=
  [syncMethods, nativeClockMethods, streamMethods, fileSystemMethods, threadMethods]

def nativeMethod? (type method : String) : Option Mapping :=
  let key := s!"{type}.{method}"
  nativeMethodTables.findSome? fun table => table.get? key

/-- Is this a known native type, by its path, by its path without type arguments, or by the short
name under which programs import it? -/
def isNativeType (type : String) : Bool :=
  let base := Text.trim (Text.before type "<")
  nativeTypeNames.has type || nativeTypeNames.has base || nativeTypeNames.values.contains base

end Oxidize.Library
