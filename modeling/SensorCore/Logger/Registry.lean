import Mathlib.Data.List.Infix
import Mathlib.Logic.Function.Basic
import SensorCore.Config.Grammar
import SensorCore.Lib.Views

/-!
The logger (`common/logger`).

`LoggerRegistry` holds a shared pointer to an adapter and four scoped loggers, each with
a copy of the pointer and the name of its scope. The macro of a message picks the scope
by the path of the file that it stands in. `configure` sets the level of the new adapter
and replaces all five pointers.

The specification side is `Log`: one current adapter, a severity for each adapter, no
scoped loggers. `registry_writes_log` says that it writes the same lines over every
sequence of calls. `configured_log` is the case of the program: after the configuration
is accepted, the messages from its level on are written, under the scopes of their files,
and nothing else is.

`Spdlog` and `Fmt` stand for the two libraries.
-/

namespace SensorCore.Logger

open SensorCore.Lib SensorCore.Config

/-! ### The libraries -/

/-- `spdlog::level::level_enum` -/
inductive SpdLevel where
  | trace
  | debug
  | info
  | warn
  | err
  | critical
  | off
  deriving DecidableEq, Repr

def SpdLevel.rank : SpdLevel → Nat
  | .trace => 0
  | .debug => 1
  | .info => 2
  | .warn => 3
  | .err => 4
  | .critical => 5
  | .off => 6

/-- A line on the console, without the time. -/
structure Line where
  logger : String
  level : SpdLevel
  msg : String
  deriving DecidableEq, Repr

/-- `spdlog::logger` on the console: what a logger writes depends on its level. -/
structure Spdlog where
  State : Type
  create : String → State
  setLevel : SpdLevel → State → State
  log : SpdLevel → String → State → List Line
  name : State → String
  level : State → SpdLevel
  name_create : ∀ text, name (create text) = text
  name_setLevel : ∀ l logger, name (setLevel l logger) = name logger
  level_setLevel : ∀ l logger, level (setLevel l logger) = l
  log_eq : ∀ l msg logger, log l msg logger =
    if (level logger).rank ≤ l.rank then [⟨name logger, l, msg⟩] else []

/-- The text has no replacement fields and no escapes. -/
def Braceless (text : String) : Prop := ∀ ch ∈ text.toList, ch ≠ '\x7b' ∧ ch ≠ '\x7d'

/-- `fmt::format` with a runtime format, or the `format_error` that it throws. Text outside
replacement fields is copied. -/
structure Fmt (Arg : Type) where
  format : String → List Arg → Except String String
  copies : ∀ text rest args, Braceless text →
    format (text ++ rest) args = (format rest args).map (text ++ ·)

/-! ### The adapter -/

inductive LogLevel where
  | trace
  | debug
  | info
  | warn
  | error
  | critical
  deriving DecidableEq, Repr

/-- The two kinds of arguments of `setLogLevel`. -/
inductive LevelArg where
  | value (level : LogLevel)
  | text (level : String)
  deriving DecidableEq, Repr

structure SpdLogAdapter (spd : Spdlog) where
  logger : spd.State

def LogLevel.toSpdLogLevel : LogLevel → SpdLevel
  | .trace => .trace
  | .debug => .debug
  | .info => .info
  | .warn => .warn
  | .error => .err
  | .critical => .critical

namespace SpdLogAdapter

variable {spd : Spdlog}

def new (loggerName : String) : SpdLogAdapter spd := ⟨spd.setLevel .info (spd.create loggerName)⟩

def setLogLevel (level : LogLevel) (adapter : SpdLogAdapter spd) : SpdLogAdapter spd :=
  ⟨spd.setLevel level.toSpdLogLevel adapter.logger⟩

/-- `setLogLevel` with a text, and the lines it writes. -/
def setLogLevelText (level : String) (adapter : SpdLogAdapter spd) :
    List Line × SpdLogAdapter spd :=
  if level = "trace" then ([], adapter.setLogLevel .trace)
  else if level = "debug" then ([], adapter.setLogLevel .debug)
  else if level = "info" then ([], adapter.setLogLevel .info)
  else if level = "warn" then ([], adapter.setLogLevel .warn)
  else if level = "error" then ([], adapter.setLogLevel .error)
  else if level = "critical" then ([], adapter.setLogLevel .critical)
  else
    (spd.log .err ("Invalid log severity: " ++ level ++ ", defaulting to info") adapter.logger,
      adapter.setLogLevel .info)

/-- The overloads of `setLogLevel`. -/
def setLevelArg (arg : LevelArg) (adapter : SpdLogAdapter spd) : List Line × SpdLogAdapter spd :=
  match arg with
  | .value level => ([], adapter.setLogLevel level)
  | .text level => adapter.setLogLevelText level

def logImpl (level : LogLevel) (msg : String) (adapter : SpdLogAdapter spd) : List Line :=
  spd.log level.toSpdLogLevel msg adapter.logger

/-- `LoggerInterface::log`: the text is formatted before the level is looked at. -/
def log {Arg : Type} (fmt : Fmt Arg) (level : LogLevel) (formatStr : String) (args : List Arg)
    (adapter : SpdLogAdapter spd) : Except String (List Line) := do
  let formattedStr ← fmt.format formatStr args
  return adapter.logImpl level formattedStr

end SpdLogAdapter

/-! ### The registry -/

inductive LogScope where
  | app
  | api
  | core
  | infrastructure
  deriving DecidableEq, Repr

/-- A shared pointer to an adapter: one that the registry made, or one that a caller made. -/
inductive Ptr where
  | own (n : Nat)
  | given (n : Nat)
  deriving DecidableEq, Repr

structure ScopedLogger where
  loggerImpl : Option Ptr
  scopeName : String
  deriving DecidableEq, Repr

/-- The registry, with the adapters that the pointers lead to. -/
structure Registry (spd : Spdlog) where
  adapters : Ptr → SpdLogAdapter spd
  made : Nat
  loggerImpl : Option Ptr
  scopedLoggers : LogScope → ScopedLogger

/-- `text.find(pattern) != npos` -/
def contains (text pattern : String) : Bool := pattern.toList <:+: text.toList

def scopeFromFile (file : String) : LogScope :=
  if contains file "/src/api/" || contains file "\\src\\api\\" then .api
  else if contains file "/src/core/" || contains file "\\src\\core\\" then .core
  else if contains file "/src/infrastructure/" || contains file "\\src\\infrastructure\\" then
    .infrastructure
  else .app

/-- The calls: those of the registry, those of its scoped loggers, and those of a caller
on an adapter that it made. -/
inductive Call (Arg : Type) where
  | initializeRegistry (appName logLevel : String)
  | setLoggerAdapter (n : Nat) (logLevel : String)
  | setLogLevel (level : LevelArg)
  | setScopedLevel (scope : LogScope) (level : LevelArg)
  | setAdapterLevel (n : Nat) (level : LevelArg)
  | log (file : String) (level : LogLevel) (formatStr : String) (args : List Arg)

/-- The lines that a call writes, or what it throws. -/
abbrev Reply := Except String (List Line)

namespace Registry

variable {spd : Spdlog}

/-- `setLogLevel` through a pointer, if it is not null. -/
def setLevelAt (impl : Option Ptr) (level : LevelArg) (r : Registry spd) :
    List Line × Registry spd :=
  match impl with
  | none => ([], r)
  | some p =>
      let (lines, adapter) := (r.adapters p).setLevelArg level
      (lines, { r with adapters := Function.update r.adapters p adapter })

def configure (adapter : Ptr) (logLevel : String) (r : Registry spd) : List Line × Registry spd :=
  let (lines, r) := r.setLevelAt (some adapter) (.text logLevel)
  (lines, { r with
    loggerImpl := some adapter
    scopedLoggers := fun
      | .app => ⟨some adapter, "APP"⟩
      | .api => ⟨some adapter, "API"⟩
      | .core => ⟨some adapter, "CORE"⟩
      | .infrastructure => ⟨some adapter, "INFRASTRUCTURE"⟩ })

/-- `LoggerRegistry::initialize` -/
def initializeRegistry (appName logLevel : String) (r : Registry spd) :
    List Line × Registry spd :=
  let adapter := Ptr.own r.made
  let adapters := Function.update r.adapters adapter (.new appName)
  configure adapter logLevel { r with adapters, made := r.made + 1 }

/-- Before its constructor runs. The callers' adapters have the names `names`. -/
def blank (names : Nat → String) : Registry spd where
  adapters
    | .own _ => .new ""
    | .given n => .new (names n)
  made := 0
  loggerImpl := none
  scopedLoggers _ := ⟨none, ""⟩

/-- The constructor, with the name that the build gives the program. -/
def new (appName : String) (names : Nat → String) : Registry spd :=
  (initializeRegistry appName "info" (blank names)).2

variable {Arg : Type} (fmt : Fmt Arg)

/-- `ScopedLogger::log` -/
def logScoped (logger : ScopedLogger) (level : LogLevel) (formatStr : String) (args : List Arg)
    (r : Registry spd) : Reply :=
  match logger.loggerImpl with
  | none => .ok []
  | some p =>
      let prefixedFormat := "[" ++ logger.scopeName ++ "] " ++ formatStr
      (r.adapters p).log fmt level prefixedFormat args

def step (call : Call Arg) (r : Registry spd) : Reply × Registry spd :=
  match call with
  | .initializeRegistry appName logLevel => (r.initializeRegistry appName logLevel).map .ok id
  | .setLoggerAdapter n logLevel => (r.configure (.given n) logLevel).map .ok id
  | .setLogLevel level => (r.setLevelAt r.loggerImpl level).map .ok id
  | .setScopedLevel scope level =>
      (r.setLevelAt (r.scopedLoggers scope).loggerImpl level).map .ok id
  | .setAdapterLevel n level => (r.setLevelAt (some (.given n)) level).map .ok id
  | .log file level formatStr args =>
      (r.logScoped fmt (r.scopedLoggers (scopeFromFile file)) level formatStr args, r)

end Registry

/-! ### What it is for -/

def LogLevel.rank : LogLevel → Nat
  | .trace => 0
  | .debug => 1
  | .info => 2
  | .warn => 3
  | .error => 4
  | .critical => 5

/-- The name of a severity. -/
def LogLevel.name : LogLevel → String
  | .trace => "trace"
  | .debug => "debug"
  | .info => "info"
  | .warn => "warn"
  | .error => "error"
  | .critical => "critical"

def LogLevel.all : List LogLevel := [.trace, .debug, .info, .warn, .error, .critical]

/-- The severity with a name. -/
def LogLevel.ofName (text : String) : Option LogLevel := all.find? fun level => level.name = text

def LevelArg.level : LevelArg → Option LogLevel
  | .value level => some level
  | .text spelled => LogLevel.ofName spelled

/-- What stands in the complaint about an argument that is no severity. -/
def LevelArg.shown : LevelArg → String
  | .value level => level.name
  | .text spelled => spelled

def LogScope.name : LogScope → String
  | .app => "APP"
  | .api => "API"
  | .core => "CORE"
  | .infrastructure => "INFRASTRUCTURE"

/-- A log: the adapter in use, and the name and the severity of each adapter. -/
structure Log where
  names : Ptr → String
  thresholds : Ptr → LogLevel
  made : Nat
  current : Ptr

/-- The lines for a message of this severity. -/
def linesFrom (name : String) (threshold level : LogLevel) (msg : String) : List Line :=
  if threshold.rank ≤ level.rank then [⟨name, level.toSpdLogLevel, msg⟩] else []

/-- The reply to a message from a file. -/
def messageReply {Arg : Type} (fmt : Fmt Arg) (name : String) (threshold : LogLevel)
    (file : String) (level : LogLevel) (text : String) (args : List Arg) : Reply :=
  (fmt.format text args).map fun msg =>
    linesFrom name threshold level ("[" ++ (scopeFromFile file).name ++ "] " ++ msg)

namespace Log

/-- An adapter gets a severity; a text that names none counts as `info` and is complained
about at the severity so far. -/
def setLevel (p : Ptr) (arg : LevelArg) (log : Log) : List Line × Log :=
  match arg.level with
  | some level => ([], { log with thresholds := Function.update log.thresholds p level })
  | none =>
      (linesFrom (log.names p) (log.thresholds p) .error
          ("Invalid log severity: " ++ arg.shown ++ ", defaulting to info"),
        { log with thresholds := Function.update log.thresholds p .info })

/-- From now on the adapter is the one in use. -/
def use (p : Ptr) (logLevel : String) (log : Log) : List Line × Log :=
  let (lines, log) := log.setLevel p (.text logLevel)
  (lines, { log with current := p })

/-- An adapter more, and in use. -/
def attach (appName logLevel : String) (log : Log) : List Line × Log :=
  let p := Ptr.own log.made
  use p logLevel
    { log with
      names := Function.update log.names p appName
      thresholds := Function.update log.thresholds p .info
      made := log.made + 1 }

/-- Only the callers' adapters. -/
def blank (names : Nat → String) : Log where
  names
    | .own _ => ""
    | .given n => names n
  thresholds _ := .info
  made := 0
  current := .own 0

/-- The log at the start: an adapter with the program's name, at `info`. -/
def new (appName : String) (names : Nat → String) : Log :=
  (attach appName "info" (blank names)).2

variable {Arg : Type} (fmt : Fmt Arg)

def step (call : Call Arg) (log : Log) : Reply × Log :=
  match call with
  | .initializeRegistry appName logLevel => (log.attach appName logLevel).map .ok id
  | .setLoggerAdapter n logLevel => (log.use (.given n) logLevel).map .ok id
  | .setLogLevel level | .setScopedLevel _ level => (log.setLevel log.current level).map .ok id
  | .setAdapterLevel n level => (log.setLevel (.given n) level).map .ok id
  | .log file level text args =>
      (messageReply fmt (log.names log.current) (log.thresholds log.current) file level text args,
        log)

end Log

/-! ### The registry is such a log -/

theorem rank_toSpdLogLevel (level : LogLevel) : level.toSpdLogLevel.rank = level.rank := by
  cases level <;> rfl

theorem ofName_name (level : LogLevel) : LogLevel.ofName level.name = some level := by
  cases level <;> rfl

theorem ofName_eq_none_iff {text : String} :
    LogLevel.ofName text = none ↔ ∀ level : LogLevel, level.name ≠ text := by
  rw [LogLevel.ofName, List.find?_eq_none]
  simp only [decide_eq_true_eq]
  constructor
  · intro unnamed level
    exact unnamed level (by cases level <;> decide)
  · intro unnamed level _
    exact unnamed level

variable {spd : Spdlog}

/-- The adapter writes under this name from this severity on. -/
structure SpdLogAdapter.Shows (adapter : SpdLogAdapter spd) (name : String)
    (threshold : LogLevel) : Prop where
  name : spd.name adapter.logger = name
  level : spd.level adapter.logger = threshold.toSpdLogLevel

variable {adapter : SpdLogAdapter spd} {name : String} {threshold : LogLevel}

theorem SpdLogAdapter.shows_new (name : String) :
    (SpdLogAdapter.new name : SpdLogAdapter spd).Shows name .info where
  name := (spd.name_setLevel _ _).trans (spd.name_create name)
  level := spd.level_setLevel _ _

theorem SpdLogAdapter.Shows.setLogLevel (shows_ : adapter.Shows name threshold)
    (level : LogLevel) : (adapter.setLogLevel level).Shows name level where
  name := (spd.name_setLevel _ _).trans shows_.name
  level := spd.level_setLevel _ _

theorem SpdLogAdapter.Shows.logImpl (shows_ : adapter.Shows name threshold) (level : LogLevel)
    (msg : String) : adapter.logImpl level msg = linesFrom name threshold level msg := by
  rw [SpdLogAdapter.logImpl, spd.log_eq, shows_.name, shows_.level, rank_toSpdLogLevel,
    rank_toSpdLogLevel, linesFrom]

/-- The tests of the names in a row. -/
theorem SpdLogAdapter.setLogLevelText_eq (level : String) (adapter : SpdLogAdapter spd) :
    adapter.setLogLevelText level =
      match LogLevel.ofName level with
      | some known => ([], adapter.setLogLevel known)
      | none =>
          (adapter.logImpl .error ("Invalid log severity: " ++ level ++ ", defaulting to info"),
            adapter.setLogLevel .info) := by
  by_cases named : ∃ known : LogLevel, known.name = level
  · obtain ⟨known, rfl⟩ := named
    rw [ofName_name]
    cases known <;> simp [setLogLevelText, LogLevel.name]
  · have unnamed : ∀ known : LogLevel, level ≠ known.name :=
      fun known same => named ⟨known, same.symm⟩
    rw [ofName_eq_none_iff.mpr fun known => (unnamed known).symm, setLogLevelText]
    exact (if_neg (unnamed .trace)).trans <| (if_neg (unnamed .debug)).trans <|
      (if_neg (unnamed .info)).trans <| (if_neg (unnamed .warn)).trans <|
      (if_neg (unnamed .error)).trans (if_neg (unnamed .critical))

/-- The registry and the log agree: each adapter shows its name and severity, and all
four scopes go to the adapter in use. -/
structure Agrees (r : Registry spd) (log : Log) : Prop where
  adapters : ∀ p, (r.adapters p).Shows (log.names p) (log.thresholds p)
  made : r.made = log.made
  loggerImpl : r.loggerImpl = some log.current
  scopes : ∀ scope, r.scopedLoggers scope = ⟨some log.current, scope.name⟩

/-- As `Agrees`, while the constructor or `configure` is at work. -/
def Shown (r : Registry spd) (log : Log) : Prop :=
  ∀ p, (r.adapters p).Shows (log.names p) (log.thresholds p)

variable {r : Registry spd} {log : Log}

/-- An adapter that is replaced by one that shows something else. -/
theorem shown_update {adapters : Ptr → SpdLogAdapter spd} {names : Ptr → String}
    {thresholds : Ptr → LogLevel} {p : Ptr}
    (others : ∀ q, q ≠ p → (adapters q).Shows (names q) (thresholds q))
    (here : adapter.Shows (names p) threshold) (q : Ptr) :
    (Function.update adapters p adapter q).Shows (names q)
      (Function.update thresholds p threshold q) := by
  by_cases same : q = p
  · subst same
    rw [Function.update_self, Function.update_self]
    exact here
  · rw [Function.update_of_ne same, Function.update_of_ne same]
    exact others q same

/-- Setting a level through a pointer. -/
theorem setLevelAt_shown (p : Ptr) (arg : LevelArg) (shown : Shown r log) :
    (r.setLevelAt (some p) arg).1 = (log.setLevel p arg).1 ∧
      Shown (r.setLevelAt (some p) arg).2 (log.setLevel p arg).2 := by
  have update (level : LogLevel) : Shown
      { r with adapters := Function.update r.adapters p ((r.adapters p).setLogLevel level) }
      { log with thresholds := Function.update log.thresholds p level } :=
    shown_update (fun q _ => shown q) ((shown p).setLogLevel level)
  cases arg with
  | value level => exact ⟨rfl, update level⟩
  | text spelled =>
      simp only [Registry.setLevelAt, SpdLogAdapter.setLevelArg,
        SpdLogAdapter.setLogLevelText_eq, Log.setLevel, LevelArg.level, LevelArg.shown]
      cases LogLevel.ofName spelled with
      | some level => exact ⟨rfl, update level⟩
      | none => exact ⟨(shown p).logImpl .error _, update .info⟩

@[simp] theorem Log.setLevel_made (p : Ptr) (arg : LevelArg) (log : Log) :
    (log.setLevel p arg).2.made = log.made := by
  unfold Log.setLevel
  split <;> rfl

@[simp] theorem Log.setLevel_current (p : Ptr) (arg : LevelArg) (log : Log) :
    (log.setLevel p arg).2.current = log.current := by
  unfold Log.setLevel
  split <;> rfl

/-- The pointers do not change when a level is set. -/
theorem setLevelAt_agrees (p : Ptr) (arg : LevelArg) (agrees : Agrees r log) :
    (r.setLevelAt (some p) arg).1 = (log.setLevel p arg).1 ∧
      Agrees (r.setLevelAt (some p) arg).2 (log.setLevel p arg).2 := by
  obtain ⟨lines, shown⟩ := setLevelAt_shown p arg agrees.adapters
  refine ⟨lines, ⟨shown, ?_, ?_, ?_⟩⟩
  · rw [Log.setLevel_made]
    exact agrees.made
  · rw [Log.setLevel_current]
    exact agrees.loggerImpl
  · rw [Log.setLevel_current]
    exact agrees.scopes

/-- `configure` makes all pointers agree, whatever they were. -/
theorem configure_agrees (p : Ptr) (logLevel : String) (shown : Shown r log)
    (made : r.made = log.made) :
    (r.configure p logLevel).1 = (log.use p logLevel).1 ∧
      Agrees (r.configure p logLevel).2 (log.use p logLevel).2 := by
  obtain ⟨lines, shown⟩ := setLevelAt_shown p (.text logLevel) shown
  refine ⟨lines, ⟨shown, ?_, rfl, ?_⟩⟩
  · exact made.trans (Log.setLevel_made p _ log).symm
  · intro scope
    cases scope <;> rfl

theorem initializeRegistry_agrees (appName logLevel : String) (shown : Shown r log)
    (made : r.made = log.made) :
    (r.initializeRegistry appName logLevel).1 = (log.attach appName logLevel).1 ∧
      Agrees (r.initializeRegistry appName logLevel).2 (log.attach appName logLevel).2 := by
  rw [Registry.initializeRegistry, Log.attach, made]
  refine configure_agrees _ _ ?_ rfl
  refine shown_update (fun q other => ?_) ?_
  · simp only [Function.update_of_ne other]
    exact shown q
  · simp only [Function.update_self]
    exact SpdLogAdapter.shows_new appName

theorem new_agrees (appName : String) (names : Nat → String) :
    Agrees (Registry.new appName names : Registry spd) (Log.new appName names) := by
  have shown : Shown (Registry.blank names : Registry spd) (Log.blank names) := by
    rintro (n | n)
    · exact SpdLogAdapter.shows_new ""
    · exact SpdLogAdapter.shows_new (names n)
  exact (initializeRegistry_agrees appName "info" shown rfl).2

variable {Arg : Type} {fmt : Fmt Arg}

/-- What a scope puts before a message holds no replacement field. -/
theorem LogScope.braceless (scope : LogScope) : Braceless ("[" ++ scope.name ++ "] ") := by
  have plain : ("[" ++ scope.name ++ "] ").toList.all fun ch => ch != '\x7b' && ch != '\x7d' := by
    cases scope <;> rfl
  intro ch mem
  simpa using List.all_eq_true.mp plain ch mem

/-- A message through the scoped logger of its file. -/
theorem logScoped_agrees (agrees : Agrees r log) (file : String) (level : LogLevel)
    (text : String) (args : List Arg) :
    r.logScoped fmt (r.scopedLoggers (scopeFromFile file)) level text args =
      messageReply fmt (log.names log.current) (log.thresholds log.current) file level text args := by
  simp only [agrees.scopes, Registry.logScoped, SpdLogAdapter.log, messageReply,
    fmt.copies _ _ _ (scopeFromFile file).braceless]
  cases fmt.format text args with
  | error what => rfl
  | ok msg => exact congrArg Except.ok ((agrees.adapters _).logImpl level _)

/-- Every call gets the same reply, and registry and log agree again. -/
theorem step_agrees : Simulates (@Agrees spd) (Registry.step fmt) (Log.step fmt) := by
  intro call r log agrees
  have level (p : Ptr) (arg : LevelArg) := setLevelAt_agrees p arg agrees
  cases call with
  | initializeRegistry appName logLevel =>
      obtain ⟨lines, agrees'⟩ :=
        initializeRegistry_agrees appName logLevel agrees.adapters agrees.made
      exact ⟨congrArg Except.ok lines, agrees'⟩
  | setLoggerAdapter n logLevel =>
      obtain ⟨lines, agrees'⟩ := configure_agrees (.given n) logLevel agrees.adapters agrees.made
      exact ⟨congrArg Except.ok lines, agrees'⟩
  | setLogLevel arg =>
      obtain ⟨lines, agrees'⟩ := level log.current arg
      simp only [Registry.step, agrees.loggerImpl]
      exact ⟨congrArg Except.ok lines, agrees'⟩
  | setScopedLevel scope arg =>
      obtain ⟨lines, agrees'⟩ := level log.current arg
      simp only [Registry.step, agrees.scopes]
      exact ⟨congrArg Except.ok lines, agrees'⟩
  | setAdapterLevel n arg =>
      obtain ⟨lines, agrees'⟩ := level (.given n) arg
      exact ⟨congrArg Except.ok lines, agrees'⟩
  | log file level text args => exact ⟨logScoped_agrees agrees file level text args, agrees⟩

/-- Over every sequence of calls the registry writes and throws what the log does. -/
theorem registry_writes_log (spd : Spdlog) (fmt : Fmt Arg) (appName : String)
    (names : Nat → String) (calls : List (Call Arg)) :
    (serveAll (Registry.step fmt) calls (Registry.new appName names : Registry spd)).1 =
      (serveAll (Log.step fmt) calls (Log.new appName names)).1 :=
  (step_agrees.serveAll calls (new_agrees appName names)).1

/-! ### The log of the program -/

/-- A message of one of the source files. -/
structure Message (Arg : Type) where
  file : String
  level : LogLevel
  text : String
  args : List Arg

def Message.call (m : Message Arg) : Call Arg := .log m.file m.level m.text m.args

/-- The message and its reply. -/
def Message.answer (fmt : Fmt Arg) (name : String) (threshold : LogLevel) (m : Message Arg) :
    Σ _ : Call Arg, Reply :=
  ⟨m.call, messageReply fmt name threshold m.file m.level m.text m.args⟩

/-- Messages do not change the log. -/
theorem serve_messages (fmt : Fmt Arg) (messages : List (Message Arg)) (rest : List (Call Arg)) (log : Log) :
    (serveAll (Log.step fmt) (messages.map Message.call ++ rest) log).1 =
      messages.map (Message.answer fmt (log.names log.current) (log.thresholds log.current)) ++
        (serveAll (Log.step fmt) rest log).1 := by
  induction messages with
  | nil => rfl
  | cons m messages ih =>
      rw [List.map_cons, List.cons_append, serveAll_cons]
      exact congrArg (List.cons _) ih

/-- An adapter that is opened at a severity writes nothing about it. -/
theorem attach_known (appName : String) (level : LogLevel) (log : Log) :
    (log.attach appName level.name).1 = [] ∧
      (log.attach appName level.name).2.names (log.attach appName level.name).2.current = appName ∧
      (log.attach appName level.name).2.thresholds (log.attach appName level.name).2.current =
        level := by
  have known : (LevelArg.text level.name).level = some level := ofName_name level
  simp only [Log.attach, Log.use, Log.setLevel, known]
  exact ⟨trivial, Function.update_self .., Function.update_self ..⟩

/-- The levels that a configuration may name are the severities. -/
theorem validLogLevels_eq : validLogLevels = LogLevel.all.map LogLevel.name := rfl

/-- The program logs at `info` under its own name until it has accepted its configuration.
From then on the messages of the configured level and above are written, once each, in
order, under the configured name and the scope of their file; nothing else is written. A
message whose format is rejected throws instead, at any level. -/
theorem configured_log (spd : Spdlog) (fmt : Fmt Arg) (appName : String) (names : Nat → String)
    {decode : String → Option UInt32} {filename : String} {file : ConfigManager.File}
    {c : AppConfig} (loaded : ConfigManager.new decode filename file = .ok c)
    (before after : List (Message Arg)) :
    ∃ level : LogLevel, level.name = c.logLevel ∧
      (serveAll (Registry.step fmt)
          (before.map Message.call ++
            .initializeRegistry c.name c.logLevel :: after.map Message.call)
          (Registry.new appName names : Registry spd)).1 =
        before.map (Message.answer fmt appName .info) ++
          ⟨.initializeRegistry c.name c.logLevel, .ok []⟩ ::
            after.map (Message.answer fmt c.name level) := by
  obtain ⟨tree, appNode, -, -, accepted⟩ := ConfigManager.accepted_of_new loaded
  have valid := accepted.valid.logLevel
  rw [validLogLevels_eq, List.mem_map] at valid
  obtain ⟨level, -, named⟩ := valid
  refine ⟨level, named, ?_⟩
  have start : (Log.new appName names).names (Log.new appName names).current = appName ∧
      (Log.new appName names).thresholds (Log.new appName names).current = .info :=
    (attach_known appName .info (Log.blank names)).2
  obtain ⟨silent, name, threshold⟩ := attach_known c.name level (Log.new appName names)
  have rest := serve_messages fmt after [] ((Log.new appName names).attach c.name level.name).2
  rw [List.append_nil, name, threshold] at rest
  rw [(step_agrees.serveAll _ (new_agrees appName names)).1, serve_messages, serveAll_cons,
    start.1, start.2, ← named]
  refine congrArg (_ ++ ·) (congrArg₂ List.cons ?_ (rest.trans (List.append_nil _)))
  exact congrArg (Sigma.mk _) (congrArg Except.ok silent)

/-- A console. -/
def Spdlog.console : Spdlog where
  State := String × SpdLevel
  create text := (text, .info)
  setLevel l state := (state.1, l)
  log l msg state := if state.2.rank ≤ l.rank then [⟨state.1, l, msg⟩] else []
  name := Prod.fst
  level := Prod.snd
  name_create _ := rfl
  name_setLevel _ _ := rfl
  level_setLevel _ _ := rfl
  log_eq _ _ _ := rfl

/-- Replacement fields without a specification, one argument after the other. -/
def fill : List Char → List String → Except String String
  | [], _ => .ok ""
  | ch :: rest, args =>
      if ch = '\x7b' then fill rest args
      else if ch = '\x7d' then
        if args = [] then .error "argument not found"
        else (fill rest args.tail).map (args.headD "" ++ ·)
      else (fill rest args).map (ch.toString ++ ·)

theorem fill_append {text : List Char} (plain : ∀ ch ∈ text, ch ≠ '\x7b' ∧ ch ≠ '\x7d')
    (rest : List Char) (args : List String) :
    fill (text ++ rest) args = (fill rest args).map (String.ofList text ++ ·) := by
  induction text with
  | nil =>
      rw [List.nil_append]
      cases fill rest args <;> simp [Except.map]
  | cons ch text ih =>
      obtain ⟨⟨opening, closing⟩, plain⟩ := List.forall_mem_cons.mp plain
      rw [List.cons_append, fill, if_neg opening, if_neg closing, ih plain]
      cases fill rest args with
      | error what => rfl
      | ok filled =>
          refine congrArg Except.ok ?_
          rw [String.ext_iff]
          simp

/-- Texts as arguments. -/
def Fmt.plain : Fmt String where
  format text := fill text.toList
  copies text rest args plain := by
    rw [String.toList_append, fill_append plain, String.ofList_toList]

theorem configured_log_singleCamera :
    ∃ level : LogLevel, level.name = "info" ∧
      (serveAll (Registry.step Fmt.plain)
          [.log "/repo/src/common/config/ConfigManager.cpp" .debug "Loading" [],
            .initializeRegistry "sensor-core" "info",
            .log "/repo/src/core/Core.cpp" .info "Core started with \x7b\x7d clients" ["2"],
            .log "/repo/src/api/ApiController.cpp" .debug "Loop" []]
          (Registry.new "sensor" (fun _ => "") : Registry .console)).1.map Sigma.snd =
        [.ok [], .ok [], .ok [⟨"sensor-core", .info, "[CORE] Core started with 2 clients"⟩],
          .ok []] := by
  have loaded : ConfigManager.new ConfigManager.readDecimal "config.yaml"
      (some (.ok ConfigManager.handwrittenTree)) = .ok ConfigManager.singleCamera := rfl
  obtain ⟨level, named, replies⟩ := configured_log Spdlog.console Fmt.plain "sensor"
    (fun _ => "") loaded
    [⟨"/repo/src/common/config/ConfigManager.cpp", .debug, "Loading", []⟩]
    [⟨"/repo/src/core/Core.cpp", .info, "Core started with \x7b\x7d clients", ["2"]⟩,
      ⟨"/repo/src/api/ApiController.cpp", .debug, "Loop", []⟩]
  have info : level = .info :=
    Option.some.inj ((ofName_name level).symm.trans (congrArg LogLevel.ofName named))
  subst info
  exact ⟨.info, named, congrArg (List.map Sigma.snd) replies⟩

end SensorCore.Logger
