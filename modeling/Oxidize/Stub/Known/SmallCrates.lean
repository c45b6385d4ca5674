import Oxidize.Stub.Known.Basic

/-!
# Crates with short tables

The crates of which only a few entries are known beforehand.
-/

namespace Oxidize.Stub.Known

/-! ## `base64`: codec -/

namespace Base64

def decode (engine : String) : CallMapping where
  python := s!"{engine}.decode"
  code := s!"base64::engine::general_purpose::{engine}.decode(\x7barg0\x7d)"
  fallible := true
  returns? := some "Vec<u8>"
  paramTypes := ["&[u8]"]

def encode (engine : String) : CallMapping where
  python := s!"{engine}.encode"
  code := s!"base64::engine::general_purpose::{engine}.encode(\x7barg0\x7d)"
  returns? := some "String"
  paramTypes := ["&[u8]"]

/-- An engine, whose methods need the trait `Engine`. -/
def engine (name : String) : KnownConstant where
  name := name
  type := "GeneralPurpose"
  methods := [decode name, encode name].map ({ · with imports := ["base64::Engine"] })

def crate : KnownCrate where
  methods :=
    ["URL_SAFE_NO_PAD", "STANDARD", "STANDARD_NO_PAD", "URL_SAFE"].map decode ++
      ["URL_SAFE_NO_PAD", "STANDARD"].map encode
  constants := ["URL_SAFE_NO_PAD", "STANDARD", "STANDARD_NO_PAD", "URL_SAFE"].map engine
  paramTypes :=
    [("encode", ["&[u8]"]), ("decode", ["&[u8]"]), ("encode_engine", ["&[u8]", "&E"]),
     ("decode_engine", ["&[u8]", "&E"]), ("decode_engine_vec", ["&[u8]", "&mut Vec<u8>", "&E"]),
     ("decode_engine_slice", ["&[u8]", "&mut [u8]", "&E"])]

end Base64

/-! ## `chrono`: dates and times -/

namespace Chrono

def crate : KnownCrate where
  methodTraits :=
    ["year", "month", "month0", "day", "day0", "ordinal", "ordinal0", "weekday", "iso_week",
     "with_year", "with_month", "with_month0", "with_day", "with_day0", "with_ordinal",
     "with_ordinal0"].map (·, "chrono::Datelike") ++
    ["hour", "minute", "second", "nanosecond", "with_hour", "with_minute", "with_second",
     "with_nanosecond", "num_seconds_from_midnight"].map (·, "chrono::Timelike")

end Chrono

/-! ## `josekit`: signed and encrypted tokens -/

namespace Josekit

def direct (name argument type paramType : String) : CallMapping where
  python := s!"Dir.{name}"
  code := s!"josekit::jwe::Dir.{name}({argument})"
  imports := ["josekit::jwe::Dir"]
  fallible := true
  returns? := some type
  paramTypes := [paramType]

def crate : KnownCrate where
  methods :=
    [{ python := "JwtPayload.set_issued_at_now",
       code := "{self}.set_issued_at(&std::time::SystemTime::now())", returnsSelf := true },
     { python := "JwtPayload.set_expires_at_hours",
       code := ("{self}.set_expires_at(&(std::time::SystemTime::now() + std::" ++
         "time::Duration::from_secs({arg0} * 3600)))"), returnsSelf := true,
       paramTypes := ["u64"] }] ++
    ["JwtPayload", "JwsHeader", "JweHeader", "JwsHeaderSet", "JweHeaderSet",
     "JwtPayloadValidator"].map fun type =>
      { python := s!"{type}.claim", code := "{self}.claim({arg0}).cloned()",
        returns? := some "Option<Value>", paramTypes := ["&str"] }
  constants :=
    [{ name := "Dir", type := "DirectJweAlgorithm",
       methods :=
         [direct "encrypter_from_bytes" "{arg0}" "DirectJweEncrypter" "&[u8]",
          direct "encrypter_from_jwk" "&{arg0}" "DirectJweEncrypter" "&Jwk",
          direct "decrypter_from_bytes" "{arg0}" "DirectJweDecrypter" "&[u8]",
          direct "decrypter_from_jwk" "&{arg0}" "DirectJweDecrypter" "&Jwk"] }]

end Josekit

/-! ## `log`: logging macros -/

namespace LogMacros

def messageMacro (name path doc : String) : KnownFunction where
  name := name
  stub := function s!"def {name}(message: str) -> None" [doc]
  call :=
    { python := s!"log.{name}", code := path ++ "!(\"\x7b\x7d\", \x7barg0\x7d)",
      paramTypes := ["&str"] }

def crate : KnownCrate where
  macros :=
    ["trace", "debug", "info", "warn", "error"].map (fun level =>
      messageMacro level s!"log::{level}" s!"Logs a message at the {level} level.") ++
    [messageMacro "eprintln" "eprintln" "Print to stderr."]

end LogMacros

/-! ## `redis`: client of a key-value store -/

namespace Redis

def command (name word : String) (count : Nat) : CallMapping where
  python := s!"redis.Cmd.{name}"
  code :=
    s!"redis::cmd(\"{word}\")" ++
      String.join ((List.range count).map fun i => s!".arg(\x7barg{i}\x7d)")
  paramTypes := List.replicate count "&str"

def crate : KnownCrate where
  methods :=
    [{ python := "Cmd.query_async_await", code := "{self}.query_async({arg0}).await",
       fallible := true, paramTypes := ["&mut ConnectionManager"] },
     { python := "Client.get_connection_manager_await",
       code := "{self}.get_connection_manager().await", fallible := true,
       returns? := some "ConnectionManager" }]
  constructors :=
    [("get", "GET", 1), ("set", "SET", 2), ("hget", "HGET", 2), ("hset", "HSET", 3),
     ("hgetall", "HGETALL", 1), ("smembers", "SMEMBERS", 1), ("sismember", "SISMEMBER", 2),
     ("sadd", "SADD", 2), ("del_", "DEL", 1), ("exists", "EXISTS", 1)].map
      fun (name, word, count) => command name word count
  typePaths :=
    [("Client", "redis::Client"), ("Cmd", "redis::Cmd"), ("Connection", "redis::Connection"),
     ("ConnectionManager", "redis::aio::ConnectionManager"), ("Pipeline", "redis::Pipeline"),
     ("RedisError", "redis::RedisError"), ("RedisResult", "redis::RedisResult"),
     ("Value", "redis::Value"), ("InfoDict", "redis::InfoDict")]

end Redis

/-! ## `reqwest`: client for web requests -/

namespace Reqwest

def crate : KnownCrate where
  methods :=
    [{ python := "RequestBuilder.send", code := "{self}.send()", fallible := true,
       returns? := some "Response" }]

end Reqwest

/-! ## `serde_json`: values of JSON -/

namespace SerdeJson

def jsonMacro : KnownFunction where
  name := "json"
  stub := function "def json(value: Any) -> \"Value\""
      ["Convert a Python value to a serde_json::Value.", "", "Uses the serde_json::json! macro."]
  call :=
    { python := "serde_json.json", code := "serde_json::json!({arg0})",
      paramTypes := ["impl Serialize"] }

def crate : KnownCrate where
  macros := [jsonMacro]
  methods :=
    [giving "Value.as_object" "{self}.as_object().cloned()" "Option<Map<String, Value>>",
     giving "Value.as_array" "{self}.as_array().cloned()" "Option<Vec<Value>>",
     giving "Value.as_str" "{self}.as_str().map(|s| s.to_string())" "Option<String>",
     giving "Map.get" "{self}.get({arg0}).cloned()" "Option<Value>" ["&str"]]

end SerdeJson

/-! ## `sha2`: hash functions -/

namespace Sha2

def hasherCalls (type : String) : List CallMapping :=
  [{ python := s!"sha2.{type}.digest", code := s!"sha2::{type}::digest(\x7barg0\x7d)",
     imports := [s!"sha2::{type}", "sha2::Digest"], paramTypes := ["&[u8]"] },
   { python := s!"sha2.{type}.new", code := s!"sha2::{type}::new()",
     imports := [s!"sha2::{type}", "sha2::Digest"] }]

def hasherMethods (type width : String) : List CallMapping :=
  [{ python := s!"{type}.update", code := "{self}.update({arg0})", returnsSelf := true,
     paramTypes := ["&[u8]"] },
   { python := s!"{type}.finalize", code := "{self}.finalize()",
     returns? := some s!"GenericArray<u8, {width}>" },
   { python := s!"{type}.finalize_hex", code := "format!(\"\x7b:x\x7d\", {self}.finalize())",
     returns? := some "String" }]

def sha256 : KnownType where
  name := "Sha256"
  rust := "sha2::Sha256"
  stub :=
    classLines "Sha256"
      ["SHA-256 hasher.", "",
       "Maps to sha2::Sha256 in Rust (type alias for CoreWrapper<Sha256VarCore>)."]
      [staticMethod "digest(data: bytes) -> bytes"
         ["Compute SHA-256 hash of data in one shot.", "", "Args:", "    data: Bytes to hash", "",
          "Returns:", "    32-byte hash digest"],
       staticMethod "new() -> \"Sha256\"" ["Create a new SHA-256 hasher."],
       method "update(self, data: bytes) -> None" ["Update the hasher with data."],
       method "finalize(self) -> bytes" ["Finalize and return the hash."]]
  calls := hasherCalls "Sha256"

def sha512 : KnownType where
  name := "Sha512"
  rust := "sha2::Sha512"
  stub :=
    classLines "Sha512"
      ["SHA-512 hasher.", "", "Maps to sha2::Sha512 in Rust."]
      [staticMethod "digest(data: bytes) -> bytes" ["Compute SHA-512 hash of data in one shot."],
       staticMethod "new() -> \"Sha512\"" ["Create a new SHA-512 hasher."]]
  calls := hasherCalls "Sha512"

def crate : KnownCrate where
  extraTypes := [sha256, sha512]
  methods := hasherMethods "Sha256" "U32" ++ hasherMethods "Sha512" "U64"

end Sha2

/-! ## `clap_builder`: command lines -/

namespace ClapBuilder

def variantMethods (type : String) (variants : Table String) : List (List String) :=
  variants.map fun (name, doc) => staticMethod s!"{name}() -> \"{type}\"" [doc]

def variantCalls (type : String) (variants : Table String) : List CallMapping :=
  variants.map fun (name, _) =>
    { python := s!"clap_builder.{type}.{name}", code := s!"clap_builder::{type}::{name}" }

def actions : Table String :=
  [("SetTrue", "Flag that sets to true when present."),
   ("SetFalse", "Flag that sets to false when present."),
   ("Set", "Store a single value (default behavior)."),
   ("Append", "Collect multiple occurrences into a Vec."),
   ("Count", "Count the number of occurrences."), ("Help", "Print help and exit."),
   ("Version", "Print version and exit.")]

def argAction : KnownType where
  name := "ArgAction"
  rust := "clap_builder::ArgAction"
  stub :=
    classLines "ArgAction"
      ["Behavior of arguments when they are encountered while parsing.", "",
       "Maps to clap::builder::ArgAction in Rust.", "", "Common variants:",
       "- SetTrue: Flag that sets to true when present",
       "- SetFalse: Flag that sets to false when present", "- Set: Store a single value (default)",
       "- Append: Collect multiple values", "- Count: Count occurrences", "", "Example:",
       "    cmd.arg(Arg.new(\"verbose\").short(\"v\").action(ArgAction.SetTrue()))"]
      (variantMethods "ArgAction" actions)
  calls := variantCalls "ArgAction" actions

def hints : Table String :=
  [("Unknown", "Unknown hint (default)."), ("Other", "Other type."),
   ("AnyPath", "Any path (file or directory)."), ("FilePath", "Path to a file."),
   ("DirPath", "Path to a directory."), ("ExecutablePath", "Path to an executable."),
   ("CommandName", "Command name."), ("CommandString", "Command string."),
   ("CommandWithArguments", "Command with arguments."), ("Username", "Username."),
   ("Hostname", "Hostname."), ("Url", "URL."), ("EmailAddress", "Email address.")]

def valueHint : KnownType where
  name := "ValueHint"
  rust := "clap_builder::ValueHint"
  stub :=
    classLines "ValueHint"
      ["Provide shell completion hints for argument values.", "",
       "Maps to clap::builder::ValueHint in Rust.", "", "Example:",
       "    cmd.arg(Arg.new(\"file\").value_hint(ValueHint.FilePath()))"]
      (variantMethods "ValueHint" hints)
  calls := variantCalls "ValueHint" hints

def crate : KnownCrate where
  types := [argAction, valueHint]
  methods :=
    [giving "ArgMatches.get_many"
       ("{self}.get_many::<String>({arg0}).map(|v| v.cloned().collect" ++
         "::<Vec<_>>()).unwrap_or_default()")
       "Vec<String>" ["&str"],
     giving "ArgMatches.get_one" "{self}.get_one::<String>({arg0}).cloned()" "Option<String>"
       ["&str"],
     giving "ArgMatches.subcommand_name" "{self}.subcommand_name().map(|s| s.to_string())"
       "Option<String>",
     giving "ArgMatches.get_flag" "{self}.get_flag({arg0})" "bool" ["&str"],
     giving "ArgMatches.get_count" "{self}.get_count({arg0})" "u8" ["&str"],
     giving "ArgMatches.subcommand"
       "{self}.subcommand().map(|(name, matches)| (name.to_string(), matches.clone()))"
       "Option<(String, ArgMatches)>",
     giving "ArgMatches.subcommand_matches" "{self}.subcommand_matches({arg0}).cloned()"
       "Option<ArgMatches>" ["&str"]]

end ClapBuilder

end Oxidize.Stub.Known
