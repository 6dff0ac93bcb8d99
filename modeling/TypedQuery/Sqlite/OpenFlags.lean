import TypedQuery.Digits
import TypedQuery.Error
import TypedQuery.Setting

/-!
# Opening a database

The flags that a database is opened with. Some combinations contradict each
other and are refused before anything is opened.
-/

namespace TypedQuery.Sqlite

/-- How a database is opened. By default it is read and written, created when
missing, named by a URI if the name is one, and not guarded by mutexes. -/
structure OpenFlags where
  readonly : Bool := false
  readwrite : Bool := true
  create : Bool := true
  uri : Bool := true
  memory : Bool := false
  noMutex : Bool := true
  fullMutex : Bool := false
  sharedCache : Bool := false
  privateCache : Bool := false
  deriving DecidableEq, Repr

namespace OpenFlags

def readOnly : OpenFlags :=
  { readonly := true, readwrite := false, create := false }

def named (flags : OpenFlags) : List (String × Bool) :=
  [("readonly", flags.readonly), ("readwrite", flags.readwrite), ("create", flags.create),
    ("uri", flags.uri), ("memory", flags.memory), ("no_mutex", flags.noMutex),
    ("full_mutex", flags.fullMutex), ("shared_cache", flags.sharedCache),
    ("private_cache", flags.privateCache)]

/-- The bit that each flag sets, in the order of the names. -/
def places : List Nat :=
  [0x1, 0x2, 0x4, 0x40, 0x80, 0x8000, 0x10000, 0x20000, 0x40000]

def bits (flags : OpenFlags) : Nat :=
  ((flags.named.zip places).map fun ((_, isSet), place) => if isSet then place else 0).sum

/-- Reads flags; a missing one has its default. -/
def ofSetting? (setting : Setting) : Option OpenFlags := do
  let defaults : OpenFlags := {}
  let entries ← setting.entries? (defaults.named.map Prod.fst)
  let values ← (entries.zip (defaults.named.map Prod.snd)).mapM fun (entry, missing) =>
    Setting.flag? missing entry
  match values with
  | [readonly, readwrite, create, uri, memory, noMutex, fullMutex, sharedCache, privateCache] =>
    some { readonly, readwrite, create, uri, memory, noMutex, fullMutex, sharedCache,
           privateCache }
  | _ => none

/-- Why flags contradict each other, if they do; the first reason counts. -/
def contradiction? (flags : OpenFlags) : Option String :=
  if flags.readonly = flags.readwrite then
    some "exactly one of readonly and readwrite must be set"
  else if flags.create && flags.readonly then some "create requires readwrite"
  else if flags.noMutex && flags.fullMutex then some "no_mutex and full_mutex are exclusive"
  else if flags.sharedCache && flags.privateCache then
    some "shared_cache and private_cache are exclusive"
  else none

/-- Accepts flags that do not contradict each other. -/
def validate (flags : OpenFlags) : Result Unit :=
  match flags.contradiction? with
  | some reason => .error ⟨.connection, reason⟩
  | none => .ok ()

end OpenFlags

/-- The name of a database that lives in memory. -/
def memoryTarget : String := ":memory:"

/-- True when a database with this name and these flags needs no file. -/
def needsNoFile (flags : OpenFlags) (path : String) : Bool :=
  path == memoryTarget || path.isEmpty || flags.memory ||
    (flags.uri && path.startsWith "file::memory:")

/-- Fails because the file of a database cannot be opened. -/
def cannotOpen (path : String) : Error :=
  ⟨.connection, path ++ ": unable to open database file: " ++ path⟩

/-- Checks that a database can be opened where there are no files. -/
def openable (flags : OpenFlags) (path : String) : Result Unit := do
  flags.validate
  if needsNoFile flags path then return () else throw (cannotOpen path)

end TypedQuery.Sqlite
