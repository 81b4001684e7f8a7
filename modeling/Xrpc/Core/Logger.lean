import Xrpc.Core.ConfigFile

/-! The logger of the process, as configuration files set it up. -/

namespace Xrpc

open Support

inductive LogLevel where
  | trace | debug | info | warn | error | critical
  deriving DecidableEq

/-- A logger with one file for its sink. -/
structure Logger where
  file : Bytes
  level : LogLevel
  deriving DecidableEq

/-- The default logger, once one has been set, and the files that were emptied for a sink,
the last of them first. -/
structure Logging where
  defaultLogger : Option Logger := none
  emptied : List Bytes := []

/-- The content of each file that can be opened, and whether a sink can write to a file. -/
structure LogSite where
  files : Bytes → Option Bytes
  opensSink : Bytes → Except Bytes Unit

namespace Logging

/-- `::tolower`, which changes the letters of ASCII. -/
def toLower (c : UInt8) : UInt8 := if 65 ≤ c ∧ c ≤ 90 then c + 32 else c

def put (logging : Logging) (logger : Logger) : Logging where
  defaultLogger := some logger
  emptied := logger.file :: logging.emptied

/-- `InitLogger` -/
def initLogger (site : LogSite) (file : Bytes) (level : LogLevel) : Effect Logging Unit :=
  match site.opensSink file with
  | .error what => raise (runtimeError (text "Failed to initialize logger: " ++ what))
  | .ok () => modify (put · ⟨file, level⟩)

def load (site : LogSite) (configFile : Bytes) : Effect Logging XrpcConfig := fun logging =>
  match (XrpcConfig.load site.files configFile).run {} with
  | .ok () config => .ok config logging
  | .error exit _ => .error exit logging

def parseLevel (logLevelStr : Bytes) : Except Bytes LogLevel :=
  if logLevelStr = text "trace" then .ok .trace
  else if logLevelStr = text "debug" then .ok .debug
  else if logLevelStr = text "info" then .ok .info
  else if logLevelStr = text "warn" then .ok .warn
  else if logLevelStr = text "error" then .ok .error
  else if logLevelStr = text "critical" then .ok .critical
  else .error (text "Invalid log_level in config: " ++ logLevelStr)

/-- `InitLoggerFromConfig`. What `Load` throws is a `std::runtime_error`. -/
def initLoggerFromConfig (site : LogSite) (configFile : Bytes) : Effect Logging Unit := do
  let config ← catchStd (load site configFile) fun what =>
    raise (runtimeError (text "Failed to load config file: " ++ what))
  let logFile := config.get (text "log_file") (text "xrpc.log")
  let logLevelStr := (config.get (text "log_level") (text "info")).map toLower
  let logLevel ← ofExcept (parseLevel logLevelStr)
  initLogger site logFile logLevel

end Logging

/-- How a config file writes a level. -/
def LogLevel.name : LogLevel → Bytes
  | .trace => text "trace"
  | .debug => text "debug"
  | .info => text "info"
  | .warn => text "warn"
  | .error => text "error"
  | .critical => text "critical"

/-- What the last line with the key sets it to. -/
def said (file : List ConfigLine) (key default : Bytes) : Bytes :=
  ((((file.filterMap ConfigLine.pair?).filter (·.key = key)).getLast?).map (·.value)).getD default

/-- A call of `InitLoggerFromConfig`, with the lines of its config file and whether a newline
ends the last of them, where the file can be opened. -/
structure LoggerSetup where
  site : LogSite
  configFile : Bytes
  written : Option (List ConfigLine × Bool)
  opened : site.files configFile = written.map fun file => fileText file.1 file.2

namespace LoggerSetup

/-- The level is written in any case. -/
def Describes (setup : LoggerSetup) (logger : Logger) : Prop :=
  ∃ file ∈ setup.written, said file.1 (text "log_file") (text "xrpc.log") = logger.file ∧
    (said file.1 (text "log_level") (text "info")).map Logging.toLower = logger.level.name

def Valid (setup : LoggerSetup) (logger : Logger) : Prop :=
  setup.Describes logger ∧ setup.site.opensSink logger.file = .ok ()

def call (setup : LoggerSetup) : Effect Logging Unit :=
  Logging.initLoggerFromConfig setup.site setup.configFile

end LoggerSetup

namespace Logging

theorem parseLevel_name (level : LogLevel) : parseLevel level.name = .ok level := by
  cases level <;> decide +kernel

theorem parseLevel_eq_ok_iff {written : Bytes} {level : LogLevel} :
    parseLevel written = .ok level ↔ written = level.name := by
  constructor
  · intro parsed
    unfold parseLevel at parsed
    split_ifs at parsed <;> cases parsed <;> assumption
  · rintro rfl
    exact parseLevel_name level

/-- The program goes on when a call throws. -/
def afterCalls (logging : Logging) (setups : List LoggerSetup) : Logging :=
  setups.foldl (fun logging setup => stateAfter (setup.call.run logging)) logging

section Calls
variable {setup : LoggerSetup} {logger : Logger} {logging : Logging}

theorem get_said (file : List ConfigLine) (ended : Bool) (key default : Bytes) :
    (XrpcConfig.set {} ((lines 10 (fileText file ended)).filterMap setting)).get key default =
      said file key default := by
  rw [XrpcConfig.get, XrpcConfig.find?_set_new, lines_fileText, Table.lastValue, List.filter_map,
    List.getLast?_map, Option.map_map]
  rfl

theorem run_call {file : List ConfigLine × Bool} (readable : setup.written = some file)
    (logging : Logging) :
    setup.call.run logging =
      (ofExcept (parseLevel ((said file.1 (text "log_level") (text "info")).map toLower)) >>=
        initLogger setup.site (said file.1 (text "log_file") (text "xrpc.log"))).run logging := by
  have opened : setup.site.files setup.configFile = some (fileText file.1 file.2) := by
    rw [setup.opened, readable]
    rfl
  have loaded : (load setup.site setup.configFile).run logging =
      .ok (XrpcConfig.set {} ((lines 10 (fileText file.1 file.2)).filterMap setting)) logging := by
    change load _ _ logging = _
    rw [load, XrpcConfig.run_load opened]
  rw [LoggerSetup.call, initLoggerFromConfig, EStateM.run_bind, catchStd_ok loaded]
  simp only [get_said]

theorem run_call_unreadable (unreadable : setup.written = none) (logging : Logging) :
    ∃ exit, setup.call.run logging = .error exit logging := by
  have missing : setup.site.files setup.configFile = none := by
    rw [setup.opened, unreadable]
    rfl
  have failed : (load setup.site setup.configFile).run logging =
      .error (runtimeError (text "Failed to open config file: " ++ setup.configFile)) logging := by
    change load _ _ logging = _
    rw [load, XrpcConfig.load, missing]
    rfl
  rw [LoggerSetup.call, initLoggerFromConfig]
  exact ⟨_, bind_error (catchStd_exception failed _) _⟩

/-- A valid file sets the logger that it describes. -/
theorem run_call_valid (valid : setup.Valid logger) (logging : Logging) :
    setup.call.run logging = .ok () (logging.put logger) := by
  obtain ⟨⟨file, readable, sink, level⟩, opens⟩ := valid
  rw [run_call readable, sink, level, parseLevel_name, EStateM.run_bind, run_ofExcept_ok]
  change (initLogger setup.site logger.file logger.level).run logging = _
  rw [initLogger, opens]
  rfl

/-- Every other file is refused, and nothing has been touched. -/
theorem run_call_invalid (invalid : ∀ logger, ¬setup.Valid logger) (logging : Logging) :
    ∃ exit, setup.call.run logging = .error exit logging := by
  cases readable : setup.written with
  | none => exact run_call_unreadable readable logging
  | some file =>
    rw [run_call readable]
    cases parsed : parseLevel ((said file.1 (text "log_level") (text "info")).map toLower) with
    | error what => exact ⟨runtimeError what, bind_error (run_ofExcept_error what logging) _⟩
    | ok level =>
      rw [EStateM.run_bind, run_ofExcept_ok]
      change ∃ exit, (initLogger setup.site (said file.1 _ _) level).run logging = _
      cases opens : setup.site.opensSink (said file.1 (text "log_file") (text "xrpc.log")) with
      | error what =>
        rw [initLogger, opens]
        exact ⟨_, rfl⟩
      | ok _ =>
        have valid : setup.Valid ⟨said file.1 (text "log_file") (text "xrpc.log"), level⟩ :=
          ⟨⟨file, readable, rfl, parseLevel_eq_ok_iff.mp parsed⟩, opens⟩
        exact absurd valid (invalid _)

theorem afterCalls_concat (logging : Logging) (setups : List LoggerSetup) (setup : LoggerSetup) :
    logging.afterCalls (setups ++ [setup]) =
      stateAfter (setup.call.run (logging.afterCalls setups)) :=
  List.foldl_concat _ logging setup setups

theorem afterCalls_valid {setups : List LoggerSetup} (valid : setup.Valid logger) :
    logging.afterCalls (setups ++ [setup]) = (logging.afterCalls setups).put logger := by
  rw [afterCalls_concat, run_call_valid valid, stateAfter_ok]

theorem afterCalls_invalid {setups : List LoggerSetup} (invalid : ∀ logger, ¬setup.Valid logger) :
    logging.afterCalls (setups ++ [setup]) = logging.afterCalls setups := by
  obtain ⟨exit, thrown⟩ := run_call_invalid invalid (logging.afterCalls setups)
  rw [afterCalls_concat, thrown, stateAfter_error]

theorem valid_unique {other : Logger} (valid : setup.Valid logger) (also : setup.Valid other) :
    logger = other := by
  have same := (run_call_valid valid {}).symm.trans (run_call_valid also {})
  cases logger
  cases other
  cases same
  rfl

/-- The last valid file describes the logger. -/
def Latest (setups : List LoggerSetup) (logger : Logger) : Prop :=
  ∃ before setup after, setups = before ++ setup :: after ∧ setup.Valid logger ∧
    ∀ later ∈ after, ∀ other, ¬later.Valid other

theorem latest_concat {setups : List LoggerSetup} :
    Latest (setups ++ [setup]) logger ↔
      setup.Valid logger ∨ Latest setups logger ∧ ∀ other, ¬setup.Valid other := by
  constructor
  · rintro ⟨before, found, after, split, valid, refused⟩
    rcases List.eq_nil_or_concat after with rfl | ⟨rest, last, rfl⟩
    · obtain ⟨-, same⟩ := List.append_inj' split rfl
      cases same
      exact .inl valid
    · rw [List.concat_eq_append, ← List.cons_append, ← List.append_assoc] at split
      obtain ⟨rfl, same⟩ := List.append_inj' split rfl
      cases same
      simp only [List.concat_eq_append, List.mem_append] at refused
      exact .inr ⟨⟨before, found, rest, rfl, valid, fun later member => refused later (.inl member)⟩,
        refused setup (.inr List.mem_cons_self)⟩
  · rintro (valid | ⟨⟨before, found, after, rfl, valid, refused⟩, invalid⟩)
    · exact ⟨setups, setup, [], rfl, valid, by simp⟩
    · refine ⟨before, found, after ++ [setup], by simp, valid, ?_⟩
      intro later member
      rcases List.mem_append.mp member with early | last
      · exact refused later early
      · cases List.mem_singleton.mp last
        exact invalid

theorem defaultLogger_iff (setups : List LoggerSetup) (logger : Logger) :
    (afterCalls {} setups).defaultLogger = some logger ↔ Latest setups logger := by
  induction setups using List.reverseRecOn with
  | nil => simp [afterCalls, Latest]
  | append_singleton setups last ih =>
    rw [latest_concat]
    by_cases valid : ∃ other, last.Valid other
    · obtain ⟨other, valid⟩ := valid
      rw [afterCalls_valid valid]
      constructor
      · rintro ⟨rfl⟩
        exact .inl valid
      · rintro (also | ⟨-, invalid⟩)
        · exact congrArg some (valid_unique valid also)
        · exact absurd valid (invalid other)
    · have invalid := not_exists.mp valid
      rw [afterCalls_invalid invalid, ih]
      constructor
      · exact fun latest => .inr ⟨latest, invalid⟩
      · rintro (also | ⟨latest, -⟩)
        · exact absurd also (invalid logger)
        · exact latest

theorem mem_emptied_iff (setups : List LoggerSetup) (file : Bytes) :
    file ∈ (afterCalls {} setups).emptied ↔
      ∃ setup ∈ setups, ∃ logger, setup.Valid logger ∧ logger.file = file := by
  induction setups using List.reverseRecOn with
  | nil => simp [afterCalls]
  | append_singleton setups last ih =>
    have split : (∃ setup ∈ setups ++ [last], ∃ logger, setup.Valid logger ∧ logger.file = file) ↔
        file ∈ (afterCalls {} setups).emptied ∨
          ∃ logger, last.Valid logger ∧ logger.file = file := by
      simp [ih, or_and_right, exists_or]
    rw [split]
    by_cases valid : ∃ other, last.Valid other
    · obtain ⟨other, valid⟩ := valid
      rw [afterCalls_valid valid, put, List.mem_cons, or_comm]
      refine or_congr_right ⟨fun named => ⟨other, valid, named.symm⟩, ?_⟩
      rintro ⟨logger, also, rfl⟩
      rw [valid_unique also valid]
    · have invalid := not_exists.mp valid
      rw [afterCalls_invalid invalid]
      refine ⟨.inl, ?_⟩
      rintro (emptied | ⟨logger, also, -⟩)
      · exact emptied
      · exact absurd also (invalid logger)

/-- The process logs as the last valid file says, and only valid files have had a log
file emptied. -/
theorem logs_as_configured (setups : List LoggerSetup) :
    (∀ logger, (afterCalls {} setups).defaultLogger = some logger ↔ Latest setups logger) ∧
      ∀ file, file ∈ (afterCalls {} setups).emptied ↔
        ∃ setup ∈ setups, ∃ logger, setup.Valid logger ∧ logger.file = file :=
  ⟨defaultLogger_iff setups, mem_emptied_iff setups⟩

end Calls

end Logging

end Xrpc
