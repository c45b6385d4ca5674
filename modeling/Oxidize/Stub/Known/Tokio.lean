import Oxidize.Stub.Known.Basic

/-!
# The crate `tokio`

What is known beforehand of the runtime for asynchronous tasks.
-/

namespace Oxidize.Stub.Known.Tokio

def duration : KnownType :=
  classType "tokio" "Duration" "std::time::Duration"
    ["A Duration type representing a span of time."] []
    [staticMethod "from_secs(secs: int) -> \"Duration\""
       ["Creates a new Duration from seconds."],
     staticMethod "from_millis(millis: int) -> \"Duration\""
       ["Creates a new Duration from milliseconds."],
     staticMethod "from_micros(micros: int) -> \"Duration\""
       ["Creates a new Duration from microseconds."],
     staticMethod "from_nanos(nanos: int) -> \"Duration\""
       ["Creates a new Duration from nanoseconds."],
     method "as_secs(self) -> int" ["Returns the number of whole seconds."],
     method "as_millis(self) -> int" ["Returns the total number of milliseconds."]]
    (["from_secs", "from_millis", "from_micros", "from_nanos"].map (·, "({arg0} as u64)"))

def instant : KnownType :=
  classType "tokio" "Instant" "tokio::time::Instant"
    ["A measurement of a monotonically nondecreasing clock."] []
    [staticMethod "now() -> \"Instant\"" ["Returns the current instant."],
     method "elapsed(self) -> Duration" ["Returns the time elapsed since this instant."]]
    [("now", "()")]

def mpscSender : KnownType :=
  classType "tokio" "MpscSender" "tokio::sync::mpsc::Sender<String>"
    ["Sender half of a bounded mpsc channel."]
    ["Use with mpsc_channel() for type-safe channel creation."]
    [asyncMethod "send(self, value: str) -> None"
       ["Sends a value, waiting until there is capacity."],
     method "clone(self) -> \"MpscSender\"" ["Clones this sender."],
     method "is_closed(self) -> bool" ["Returns True if the receiver has been dropped."]]

def mpscReceiver : KnownType :=
  classType "tokio" "MpscReceiver" "tokio::sync::mpsc::Receiver<String>"
    ["Receiver half of a bounded mpsc channel."]
    ["Use with mpsc_channel() for type-safe channel creation."]
    [asyncMethod "recv(self) -> str | None"
       ["Receives the next value, or None if the channel is closed."],
     method "close(self) -> None" ["Closes the receiving half without dropping it."]]

def arc : KnownType :=
  let type := classType "tokio" "Arc" "std::sync::Arc"
    ["Thread-safe reference-counting pointer.", "",
     "Arc stands for Atomically Reference Counted. It provides shared ownership",
     "of a value of type T, allocated on the heap. Cloning an Arc produces a new",
     "Arc that points to the same allocation, increasing the reference count."]
    ["", "Common use cases:", "- Sharing immutable data between spawned tasks",
     "- Combined with Mutex for shared mutable state: Arc[Mutex[T]]", "", "Example:",
     "    data: Arc[str] = Arc.new(\"shared config\")", "    cloned: Arc[str] = Arc.clone(data)",
     "", "    # Share between tasks", "    handle1 = spawn(worker(Arc.clone(data)))",
     "    handle2 = spawn(worker(Arc.clone(data)))"]
    [staticMethod "new(value: T) -> \"Arc[T]\""
       ["Constructs a new Arc<T>.", "", "Args:", "    value: The value to wrap in an Arc.", "",
        "Returns:", "    A new Arc containing the value."],
     staticMethod "clone(arc: \"Arc[T]\") -> \"Arc[T]\""
       ["Creates a new Arc that points to the same allocation.", "",
        "This increments the strong reference count.", "", "Args:", "    arc: The Arc to clone.",
        "", "Returns:", "    A new Arc pointing to the same data."],
     staticMethod "strong_count(arc: \"Arc[T]\") -> int"
       ["Gets the number of strong (Arc) pointers to this allocation.", "", "Args:",
        "    arc: The Arc to check.", "", "Returns:", "    The number of strong references."],
     staticMethod "weak_count(arc: \"Arc[T]\") -> int"
       ["Gets the number of weak (Weak) pointers to this allocation.", "", "Args:",
        "    arc: The Arc to check.", "", "Returns:", "    The number of weak references."],
     staticMethod "try_unwrap(arc: \"Arc[T]\") -> T | None"
       ["Returns the inner value if the Arc has exactly one strong reference.", "",
        "If there are multiple strong references, returns None.", "", "Args:",
        "    arc: The Arc to unwrap.", "", "Returns:",
        "    The inner value if ref count is 1, otherwise None."],
     staticMethod "into_inner(arc: \"Arc[T]\") -> T | None"
       ["Returns the inner value if the Arc has exactly one strong reference.", "",
        "This is similar to try_unwrap but available on Rust 1.70+.", "", "Args:",
        "    arc: The Arc to unwrap.", "", "Returns:",
        "    The inner value if ref count is 1, otherwise None."]]
    [("new", "({arg0})"), ("clone", "(&{arg0})"), ("strong_count", "(&{arg0})"),
     ("weak_count", "(&{arg0})"), ("try_unwrap", "({arg0}).ok()"), ("into_inner", "({arg0})")] true
  { type with
    stub :=
      ["", "from typing import TypeVar, Generic", "", "T = TypeVar(\"T\")", ""] ++ type.stub }

def mutex : KnownType :=
  let type := classType "tokio" "Mutex" "tokio::sync::Mutex"
    ["An asynchronous mutual exclusion primitive.", "",
     "This is tokio's async-aware Mutex, suitable for use across .await points.",
     "Unlike std::sync::Mutex, holding a tokio::sync::Mutex guard across an",
     "await point is safe."]
    ["", "Common use case - shared mutable state between tasks:",
     "    counter: Arc[Mutex[int]] = Arc.new(Mutex.new(0))", "",
     "    async def increment(c: Arc[Mutex[int]]) -> None:", "        guard = await c.lock()",
     "        # modify the value through the guard", "", "Example:",
     "    mutex: Mutex[int] = Mutex.new(0)", "    guard = await mutex.lock()"]
    [staticMethod "new(value: T) -> \"Mutex[T]\""
       ["Creates a new Mutex wrapping the given value.", "", "Args:",
        "    value: The value to protect with the mutex.", "", "Returns:",
        "    A new Mutex containing the value."],
     asyncMethod "lock(self) -> \"MutexGuard[T]\""
       ["Locks this mutex, waiting asynchronously if it's already locked.", "", "Returns:",
        "    A guard that releases the lock when dropped."],
     method "try_lock(self) -> \"MutexGuard[T] | None\""
       ["Attempts to acquire the lock without waiting.", "", "Returns:",
        "    A guard if successful, None if the mutex is already locked."],
     method "is_locked(self) -> bool"
       ["Returns True if the mutex is currently locked.", "", "Returns:",
        "    True if locked, False otherwise."]]
    [("new", "({arg0})")] true
  { type with
    stub := type.stub ++
      classLines "MutexGuard(Generic[T])"
        ["A guard that releases the mutex when dropped.", "",
         "This is returned by Mutex.lock() and provides access to the protected data.",
         "The lock is automatically released when the guard goes out of scope."]
        [] }

def rwLock : KnownType :=
  let type := classType "tokio" "RwLock" "tokio::sync::RwLock"
    ["An asynchronous reader-writer lock.", "",
     "This type of lock allows multiple readers or a single writer at any point",
     "in time. Useful when you have data that is read frequently but written", "infrequently."]
    ["", "Example:", "    data: RwLock[list[str]] = RwLock.new([\"initial\"])", "",
     "    # Multiple readers allowed", "    read_guard = await data.read()", "",
     "    # Single writer, blocks readers", "    write_guard = await data.write()"]
    [staticMethod "new(value: T) -> \"RwLock[T]\""
       ["Creates a new RwLock wrapping the given value.", "", "Args:",
        "    value: The value to protect with the lock.", "", "Returns:",
        "    A new RwLock containing the value."],
     asyncMethod "read(self) -> \"RwLockReadGuard[T]\""
       ["Locks this RwLock for reading, waiting if a writer holds the lock.", "",
        "Multiple readers can hold the lock simultaneously.", "", "Returns:",
        "    A read guard that releases the lock when dropped."],
     asyncMethod "write(self) -> \"RwLockWriteGuard[T]\""
       ["Locks this RwLock for writing, waiting if any readers or writers hold the lock.", "",
        "Returns:", "    A write guard that releases the lock when dropped."],
     method "try_read(self) -> \"RwLockReadGuard[T] | None\""
       ["Attempts to acquire the read lock without waiting.", "", "Returns:",
        "    A read guard if successful, None if the lock is held by a writer."],
     method "try_write(self) -> \"RwLockWriteGuard[T] | None\""
       ["Attempts to acquire the write lock without waiting.", "", "Returns:",
        "    A write guard if successful, None if the lock is held."]]
    [("new", "({arg0})")] true
  { type with
    stub := type.stub ++
      classLines "RwLockReadGuard(Generic[T])"
        ["A guard that releases the read lock when dropped."]
        [] ++
      classLines "RwLockWriteGuard(Generic[T])"
        ["A guard that releases the write lock when dropped."]
        [] }

def spawn : KnownFunction :=
  crateFunction "tokio" "spawn" "(future: F) -> JoinHandle" "tokio::spawn({arg0})"
    ["Spawns a new asynchronous task.", "",
     "The spawned task may execute on the current thread or another thread.",
     "Maps to tokio::spawn in Rust."] [] true

def spawnBlocking : KnownFunction :=
  crateFunction "tokio" "spawn_blocking" "(f: F) -> JoinHandle"
    "tokio::task::spawn_blocking({arg0})"
    ["Runs a blocking function on a dedicated thread pool.", "",
     "Maps to tokio::task::spawn_blocking in Rust."] ["tokio::task::spawn_blocking"] true

def mpscChannel : KnownFunction :=
  crateFunction "tokio" "mpsc_channel" "(buffer: int) -> tuple" "tokio::sync::mpsc::channel({arg0})"
    ["Creates a bounded mpsc channel for communication between tasks.", "",
     "Returns a tuple of (Sender, Receiver).", "Maps to tokio::sync::mpsc::channel in Rust."]
    ["tokio::sync::mpsc"]

def mpscUnboundedChannel : KnownFunction :=
  crateFunction "tokio" "mpsc_unbounded_channel" "() -> tuple"
    "tokio::sync::mpsc::unbounded_channel()"
    ["Creates an unbounded mpsc channel for communication between tasks.", "",
     "Returns a tuple of (UnboundedSender, UnboundedReceiver).",
     "Maps to tokio::sync::mpsc::unbounded_channel in Rust."] ["tokio::sync::mpsc"]

def crate : KnownCrate where
  types := [duration, instant, mpscSender, mpscReceiver, arc, mutex, rwLock]
  functions := [spawn, spawnBlocking, mpscChannel, mpscUnboundedChannel]
  functionPaths :=
    [("sleep", "tokio::time::sleep({arg0})", ["tokio::time::sleep"]),
     ("sleep_until", "tokio::time::sleep_until({arg0})", ["tokio::time::sleep_until"]),
     ("spawn", spawn.call.code, []),
     ("spawn_blocking", spawnBlocking.call.code, spawnBlocking.call.imports)]

end Oxidize.Stub.Known.Tokio
